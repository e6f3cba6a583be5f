import FailureAlarm.Text.Digits

/-!
# Hexadecimal digits

`Hex.digit` writes a number below 16 in lower case, `Hex.value?` reads a digit of either case. With
the digits of a smaller base, `Hex.inBase?` reads a number.
-/

namespace FailureAlarm
namespace Hex

open Digits

/-- The hexadecimal digit of a number below 16. -/
def digit (n : Nat) : Char := if n < 10 then Char.ofNat (48 + n) else Char.ofNat (87 + n)

/-- The value of a hexadecimal digit. -/
def value? (c : Char) : Option Nat :=
  if isDigit c then some (digitValue c)
  else if 'a' ≤ c ∧ c ≤ 'f' then some (c.toNat - 87)
  else if 'A' ≤ c ∧ c ≤ 'F' then some (c.toNat - 55)
  else none

/-- The number with these digits in a base up to 16. -/
def inBase? (base : Nat) (cs : List Char) : Option Nat := do
  let ds ← cs.mapM value?
  if ds.all (· < base) then some (ds.foldl (fun n d => n * base + d) 0) else none

end Hex
end FailureAlarm
