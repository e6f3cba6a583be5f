import FailureAlarm.Log
import FailureAlarm.Text.Digits
import FailureAlarm.Text.Parts

/-!
# Log filters

A filter is a list of rules with commas between them. A rule is a level, or a target and a level
with an equals sign between them, or a target alone, for which all lines are let through. A line
is judged by the rule with the longest target that its own target begins with. A filter without
rules lets errors through.
-/

namespace FailureAlarm

/-- A rule: lines whose target begins with `target` are let through if they matter enough. -/
structure LogRule where
  target : List Char
  /-- The greatest rank that is let through. -/
  rank : Nat
deriving DecidableEq, Repr

/-- A filter of log lines. -/
structure LogFilter where
  rules : List LogRule
deriving DecidableEq, Repr

namespace LogFilter

/-- The environment variable that holds the filter. -/
def environmentVariable : String := "RUST_LOG"

/-- The filter of a log that nobody has asked for. -/
def standard : LogFilter := ⟨[⟨[], Level.info.rank⟩]⟩

/-! ### Letting lines through -/

/-- The rule for a target: the last one among those with the longest target. -/
def ruleFor? (f : LogFilter) (target : String) : Option LogRule :=
  (f.rules.filter fun r => r.target.isPrefixOf target.toList).foldl
    (fun best r =>
      match best with
      | some b => if r.target.length < b.target.length then some b else some r
      | none => some r)
    none

/-- The line is let through. -/
def passes (f : LogFilter) (l : LogLine) : Bool :=
  (f.ruleFor? l.target).any fun r => l.level.rank ≤ r.rank

/-! ### Reading -/

/-- The levels by name and rank. -/
def ranks : List (List Char × Nat) :=
  ("off".toList, 0) :: [Level.error, .warn, .info, .debug, .trace].map fun l =>
    (l.name.toList, l.rank)

/-- Read a level: its name in any case, or its rank. -/
def rank? (cs : List Char) : Option Nat :=
  match Digits.unsigned? cs with
  | some n => if n ≤ Level.trace.rank then some n else none
  | none => (ranks.find? fun (name, _) => name.map Char.toLower = cs.map Char.toLower).map (·.2)

/-- The text can be a target. -/
def isTarget (cs : List Char) : Bool :=
  cs ≠ [] && cs.all fun c => c.isAlphanum || c = '_' || c = ':' || c = '-'

/-- Read a rule. -/
def rule? (cs : List Char) : Option LogRule :=
  match divide '=' cs with
  | [name] =>
    match rank? name with
    | some rank => some ⟨[], rank⟩
    | none => if isTarget name then some ⟨name, Level.trace.rank⟩ else none
  | [target, []] => if isTarget target then some ⟨target, Level.trace.rank⟩ else none
  | [target, level] => if isTarget target then (rank? level).map (⟨target, ·⟩) else none
  | _ => none

/-- Read a filter. -/
def read? (cs : List Char) : Option LogFilter :=
  match (divide ',' cs).filter (· ≠ []) with
  | [] => some ⟨[⟨[], Level.error.rank⟩]⟩
  | rules => (rules.mapM rule?).map (⟨·⟩)

/-- The filter that the environment gives; what cannot be read does not count. -/
def ofEnvironment (value : Option String) : LogFilter := (value.bind fun s => read? s.toList).getD standard

example : (ofEnvironment (some "alarm=info,alarm::store=trace")).passes
      ⟨.debug, "alarm::store", ""⟩ = true ∧
    (ofEnvironment (some "a=b=c")).passes ⟨.debug, "alarm", ""⟩ = false := by decide +kernel

end LogFilter
end FailureAlarm
