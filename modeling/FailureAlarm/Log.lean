/-!
# Log lines

A log line has a level, a target, which names the part of the service that it comes from, and a
message.
-/

namespace FailureAlarm

/-- How much a log line matters. -/
inductive Level where
  | error
  | warn
  | info
  | debug
  | trace
deriving DecidableEq, Repr

namespace Level

/-- The name of a level. -/
def name : Level → String
  | error => "ERROR"
  | warn => "WARN"
  | info => "INFO"
  | debug => "DEBUG"
  | trace => "TRACE"

/-- How many kinds of lines are let through at this level; the most important level comes first. -/
def rank : Level → Nat
  | error => 1
  | warn => 2
  | info => 3
  | debug => 4
  | trace => 5

end Level

/-- A log line. -/
structure LogLine where
  level : Level
  target : String
  message : String
deriving DecidableEq, Repr

namespace LogLine

/-- The line is a warning or an error. -/
def isWarning (l : LogLine) : Bool := l.level.rank ≤ 2

end LogLine
end FailureAlarm
