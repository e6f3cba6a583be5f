import FailureAlarm.Json.Value
import FailureAlarm.Log

/-!
# Forms of log lines

A log line is written as a text, or as a JSON object on a line of its own, with the time before all
else.
-/

namespace FailureAlarm
namespace LogLine

open Json (Value)

/-- The line as a text; levels take the same width. -/
def text (time : String) (l : LogLine) : String :=
  let width := String.ofList (List.replicate (5 - l.level.name.length) ' ')
  s!"{time} {width}{l.level.name} {l.target}: {l.message}"

/-- The line as a JSON object. -/
def toJson (time : String) (l : LogLine) : Value :=
  .object [
    ("timestamp", .string time),
    ("level", .string l.level.name),
    ("fields", .object [("message", .string l.message)]),
    ("target", .string l.target)]

/-- The line in one form or the other. -/
def written (json : Bool) (time : String) (l : LogLine) : String :=
  if json then (l.toJson time).text else l.text time

end LogLine
end FailureAlarm
