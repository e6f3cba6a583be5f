/-!
# Binary floating-point values

The finite values with 53 binary digits and exponents from -1074 to 971, in exact arithmetic: a
value is `± mantissa * 2 ^ exponent`. `ofRatio` rounds a quotient of natural numbers to the nearest
of them, a tie to the even mantissa; sums of errors never enter, because products and quotients of
two values are again quotients of natural numbers and are rounded once.
-/

namespace FailureAlarm

/-- The magnitude `mantissa * 2 ^ exponent`. -/
structure Magnitude where
  mantissa : Nat
  exponent : Int
deriving DecidableEq, Repr, Inhabited

namespace Magnitude

/-- The least mantissa with 53 binary digits, `2 ^ 52`. -/
def leastFull : Nat := 4503599627370496

def zero : Magnitude := ⟨0, -1074⟩

/-- The quotient rounded to the nearest natural number, a tie to the even one. -/
def roundQuotient (num den : Nat) : Nat :=
  let q := num / den
  let twice := 2 * (num % den)
  if den < twice ∨ (twice = den ∧ q % 2 = 1) then q + 1 else q

/-- `num / den * 2 ^ (-exponent)` as a quotient of natural numbers. -/
def scaled (num den : Nat) (exponent : Int) : Nat × Nat :=
  if exponent < 0 then (num <<< exponent.natAbs, den) else (num, den <<< exponent.natAbs)

/-- The largest `e` with `2 ^ e ≤ num / den`, for positive `num` and `den`. -/
def binaryOrder (num den : Nat) : Int :=
  let guess : Int := num.log2 - den.log2
  let (n, d) := scaled num den guess
  if d ≤ n then guess else guess - 1

/-- The quotient rounded to the nearest magnitude; none if that is beyond the largest one. -/
def ofRatio (num den : Nat) : Option Magnitude :=
  if num = 0 then some zero
  else
    let exponent := max (binaryOrder num den - 52) (-1074)
    let (n, d) := scaled num den exponent
    let m := roundQuotient n d
    let result : Magnitude := if m = 2 * leastFull then ⟨leastFull, exponent + 1⟩ else ⟨m, exponent⟩
    if result.exponent ≤ 971 then some result else none

/-- The nearest magnitude to a natural number. -/
def ofNat (n : Nat) : Option Magnitude := ofRatio n 1

/-- The magnitude as a quotient of natural numbers. -/
def ratio (m : Magnitude) : Nat × Nat :=
  if m.exponent < 0 then (m.mantissa, 1 <<< m.exponent.natAbs)
  else (m.mantissa <<< m.exponent.natAbs, 1)

/-- The rounded product. -/
def mul (a b : Magnitude) : Option Magnitude :=
  ofRatio (a.ratio.1 * b.ratio.1) (a.ratio.2 * b.ratio.2)

/-- The rounded quotient, for a divisor other than zero. -/
def div (a b : Magnitude) : Option Magnitude :=
  ofRatio (a.ratio.1 * b.ratio.2) (a.ratio.2 * b.ratio.1)

/-- The nearest natural number, a half going up. -/
def round (m : Magnitude) : Nat :=
  let (n, d) := m.ratio
  (2 * n + d) / (2 * d)

example : ofNat 9007199254740993 = some ⟨leastFull, 1⟩ ∧ ofRatio 1 3 = some ⟨6004799503160661, -54⟩ := by
  decide +kernel

end Magnitude

/-- A finite value: a magnitude with a sign. Zero has two of them. -/
structure Binary where
  negative : Bool
  magnitude : Magnitude
deriving DecidableEq, Repr, Inhabited

end FailureAlarm
