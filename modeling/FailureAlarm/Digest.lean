import FailureAlarm.Failure

/-!
# The digest of recent failures

One line for each of the most recent failures, the oldest first. Absent fields are shown by a
placeholder.
-/

namespace FailureAlarm
namespace Digest

/-- Shown for an absent field. -/
def placeholder : String := "N/A"

/-- The number of lines, if none is asked for. -/
def defaultLines : Nat := 5

/-- The line of a failure: its class, and its code and provider in parentheses. -/
def line (f : Failure) : String :=
  let errorClass := f.errorClass.getD placeholder
  let code := f.code.getD placeholder
  let provider := f.provider.getD placeholder
  s!"{errorClass} (code: {code}, provider: {provider})"

/-- The lines of the last `limit` failures. -/
def lines (failures : List Failure) (limit : Nat) : List String :=
  (failures.drop (failures.length - limit)).map line

theorem length_lines (failures : List Failure) (limit : Nat) :
    (lines failures limit).length = min limit failures.length := by
  simp only [lines, List.length_map, List.length_drop]
  omega

end Digest
end FailureAlarm
