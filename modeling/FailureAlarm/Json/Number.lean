import FailureAlarm.Number.Decimal

/-!
# Numbers in JSON text

A literal without point and exponent that fits 64 bits is an integer, without a sign up to
`2 ^ 64 - 1` and with one down to `-2 ^ 63`; the literal `-0` is not. Every other literal is a
floating-point value: as many leading digits as fit 64 bits make a whole number, which is rounded to
a floating-point value and then multiplied or divided by a power of ten, rounding again. A literal
beyond the largest value has no value at all.

`Number.text` writes an integer in decimal, and a floating-point value with its shortest digits:
without an exponent, and with at least one digit after the point, from `1e-5` up to less than
`1e16`, and in scientific form otherwise.
-/

namespace FailureAlarm
namespace Json

open Digits

/-- A number in JSON text. -/
inductive Number where
  | integer (n : Int)
  | real (x : Binary)
deriving DecidableEq, Repr

namespace Number

/-- The parts of a literal. -/
structure Literal where
  negative : Bool
  whole : List Char
  fraction : List Char
  exponent : Option Int
deriving DecidableEq, Repr

/-- The largest whole number of 64 bits. -/
def maxWhole : Nat := 18446744073709551615

/-- Append digits to a number of 64 bits while it fits; the digits that did not fit are left. -/
def absorb : Nat → List Char → Nat × List Char
  | n, [] => (n, [])
  | n, c :: cs =>
    if n * 10 + digitValue c ≤ maxWhole then absorb (n * 10 + digitValue c) cs else (n, c :: cs)

/-- A power of ten, rounded. -/
def powerOfTen (n : Nat) : Magnitude := (Magnitude.ofNat (Nat.pow 10 n)).getD .zero

/-- `n * 10 ^ exponent`, with a rounding at each step. -/
def scale (n : Nat) (exponent : Int) : Option Magnitude := do
  let m ← Magnitude.ofNat n
  if n = 0 then some .zero
  else if 308 < exponent then none
  else if 0 ≤ exponent then m.mul (powerOfTen exponent.natAbs)
  else if -308 ≤ exponent then m.div (powerOfTen exponent.natAbs)
  else
    let m ← m.div (powerOfTen 308)
    if -616 ≤ exponent then m.div (powerOfTen (exponent + 308).natAbs) else some .zero

/-- The value of a literal; none if it is beyond the largest floating-point value. -/
def ofLiteral (l : Literal) : Option Number :=
  let (n, left) := absorb 0 l.whole
  if left = [] ∧ l.fraction = [] ∧ l.exponent = none ∧
      (l.negative → n ≠ 0 ∧ n ≤ 9223372036854775808) then
    some (.integer (if l.negative then -(n : Int) else n))
  else
    let (n, unused) := absorb n l.fraction
    let shift : Int := left.length - (l.fraction.length - unused.length : Nat)
    (scale n (shift + l.exponent.getD 0)).map fun m => .real ⟨l.negative, m⟩

/-- A floating-point value with its shortest digits, see the head of this module. -/
def realText (x : Binary) : List Char :=
  let d := shortest x.magnitude
  let order := d.size + d.exponent - 1
  (if x.negative then ['-'] else []) ++
    if -5 ≤ order ∧ order < 16 then d.positional ['.', '0'] else d.scientific

/-- The text of a number. -/
def text : Number → List Char
  | .integer n => ofInt n
  | .real x => realText x

end Number
end Json
end FailureAlarm
