/-!
# Decimal digits

Numbers written in decimal and read back: `digits` writes without leading zeros, `padded` fills up
with zeros on the left, `value` reads a run of digits.
-/

namespace FailureAlarm
namespace Digits

/-- The character is one of `0` to `9`. -/
def isDigit (c : Char) : Bool := '0' ≤ c && c ≤ '9'

/-- The number that a digit stands for. -/
def digitValue (c : Char) : Nat := c.toNat - 48

/-- The number that a run of digits stands for. -/
def value (cs : List Char) : Nat := cs.foldl (fun n c => n * 10 + digitValue c) 0

/-- The decimal digits of `n`. -/
def digits (n : Nat) : List Char := Nat.toDigits 10 n

/-- The decimal digits of `n`, with zeros on the left up to `width` digits. -/
def padded (width n : Nat) : List Char :=
  List.replicate (width - (digits n).length) '0' ++ digits n

/-- The leading digits of `cs`. -/
def leading (cs : List Char) : List Char := cs.takeWhile isDigit

/-- The text of a whole number: a minus sign if it is negative, then its digits. -/
def ofInt (n : Int) : List Char :=
  if n < 0 then '-' :: digits n.natAbs else digits n.natAbs

/-- Read a number without a minus: an optional plus sign and at least one digit. -/
def unsigned? (cs : List Char) : Option Nat :=
  let ds := match cs with
    | '+' :: ds => ds
    | ds => ds
  if ds ≠ [] ∧ ds.all isDigit then some (value ds) else none

/-- Read a whole number: an optional sign and at least one digit. -/
def signed? : List Char → Option Int
  | '-' :: ds => if ds ≠ [] ∧ ds.all isDigit then some (-(value ds : Int)) else none
  | cs => (unsigned? cs).map Int.ofNat

example : padded 4 7 = ['0', '0', '0', '7'] ∧ value ['0', '4', '2'] = 42 := by decide

end Digits
end FailureAlarm
