import FailureAlarm.Number.Binary

/-!
# The shortest decimal that reads back

Between two neighbouring magnitudes lies the interval of the reals that round to a value; its ends
belong to it iff the mantissa is even. `shortest` takes the decimal grids `10 ^ k` from coarse to
fine and tests the two grid points around the value: the first grid with a point in the interval
gives the fewest digits. Of two such points the nearer one is taken, of two equally near ones the
even one.
-/

namespace FailureAlarm

/-- The decimal number `digits * 10 ^ exponent`. -/
structure Decimal where
  digits : Nat
  exponent : Int
deriving DecidableEq, Repr

namespace Shortest

/-- A quotient of natural numbers. -/
structure Ratio where
  num : Nat
  den : Nat

/-- `a < b` for quotients. -/
def Ratio.lt (a b : Ratio) : Bool := a.num * b.den < b.num * a.den

/-- `mantissa * 2 ^ exponent`. -/
def dyadic (mantissa : Nat) (exponent : Int) : Ratio :=
  if exponent < 0 then ⟨mantissa, 1 <<< exponent.natAbs⟩ else ⟨mantissa <<< exponent.natAbs, 1⟩

/-- The ends of the interval of the reals that round to `m`. -/
def ends (m : Magnitude) : Ratio × Ratio :=
  let low := if m.mantissa = Magnitude.leastFull ∧ -1074 < m.exponent then
      dyadic (4 * m.mantissa - 1) (m.exponent - 2)
    else dyadic (2 * m.mantissa - 1) (m.exponent - 1)
  (low, dyadic (2 * m.mantissa + 1) (m.exponent - 1))

/-- The real `r` rounds to `m`. -/
def roundsTo (m : Magnitude) (r : Ratio) : Bool :=
  let (low, high) := ends m
  if m.mantissa % 2 = 0 then !r.lt low && !high.lt r else low.lt r && r.lt high

/-- The point number `n` of the grid `10 ^ k`. -/
def gridPoint (n : Nat) (k : Int) : Ratio :=
  if k < 0 then ⟨n, Nat.pow 10 k.natAbs⟩ else ⟨n * Nat.pow 10 k.natAbs, 1⟩

/-- The grid point of `10 ^ k` that rounds to `m` and is nearest to it, if there is one. -/
def onGrid? (m : Magnitude) (k : Int) : Option Decimal :=
  let v := dyadic m.mantissa m.exponent
  let (num, den) :=
    if k < 0 then (v.num * Nat.pow 10 k.natAbs, v.den) else (v.num, v.den * Nat.pow 10 k.natAbs)
  let below := num / den
  let lowHit := roundsTo m (gridPoint below k)
  let highHit := roundsTo m (gridPoint (below + 1) k)
  let twice := 2 * (num % den)
  if lowHit && highHit then
    some ⟨if den < twice ∨ (twice = den ∧ below % 2 = 1) then below + 1 else below, k⟩
  else if lowHit then some ⟨below, k⟩
  else if highHit then some ⟨below + 1, k⟩
  else none

/-- The first grid with a hit, from `10 ^ k` downwards over `count` grids. -/
def search (m : Magnitude) : Nat → Int → Option Decimal
  | 0, _ => none
  | count + 1, k =>
    match onGrid? m k with
    | some d => some d
    | none => search m count (k - 1)

/-- A power of ten that is above the magnitude, by two places at most. -/
def startGrid (m : Magnitude) : Int :=
  ((m.mantissa.log2 : Int) + m.exponent + 1) * 30103 / 100000 + 1

end Shortest

/-- The shortest decimal that rounds to `m`, see the head of this module; zero for zero. -/
def shortest (m : Magnitude) : Decimal :=
  if m.mantissa = 0 then ⟨0, 0⟩
  else (Shortest.search m 22 (Shortest.startGrid m)).getD ⟨m.mantissa, 0⟩

example : shortest ⟨1, -1074⟩ = ⟨5, -324⟩ := by decide +kernel

end FailureAlarm
