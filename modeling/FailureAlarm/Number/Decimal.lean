import FailureAlarm.Number.Shortest
import FailureAlarm.Text.Digits

/-!
# Floating-point numbers as text

Decimal numerals and the values they stand for. A numeral is digits with an optional point and an
optional exponent; its value is rounded once, to the nearest binary value. `Floating` adds the two
infinities and the value that is no number, which settings can name.

`Floating.plain` writes a value with its shortest digits and never an exponent; a whole number has no
point, which `Floating.pointed` adds. `Floating.toInteger` rounds to the nearest whole number, a half
away from zero.
-/

namespace FailureAlarm

open Digits

namespace Decimal

/-- The number of digits, at least one. -/
def size (d : Decimal) : Nat := (Digits.digits d.digits).length

/-- The nearest magnitude, none if it is too large. Far outside the range nothing is computed. -/
def toMagnitude (d : Decimal) : Option Magnitude :=
  if d.digits = 0 then some .zero
  else if d.size + d.exponent < -400 then some .zero
  else if 400 < d.size + d.exponent then none
  else if d.exponent < 0 then Magnitude.ofRatio d.digits (Nat.pow 10 d.exponent.natAbs)
  else Magnitude.ofRatio (d.digits * Nat.pow 10 d.exponent.natAbs) 1

/-- Digits without an exponent: zeros fill the places before the point, and `tail` is what follows
the digits of a whole number. -/
def positional (d : Decimal) (tail : List Char) : List Char :=
  let ds := Digits.digits d.digits
  let point := ds.length + d.exponent
  if 0 ≤ d.exponent then ds ++ List.replicate d.exponent.natAbs '0' ++ tail
  else if 0 < point then ds.take point.natAbs ++ '.' :: ds.drop point.natAbs
  else '0' :: '.' :: List.replicate point.natAbs '0' ++ ds

/-- One digit before the point, then the exponent with its sign. -/
def scientific (d : Decimal) : List Char :=
  let ds := Digits.digits d.digits
  let order := ds.length + d.exponent - 1
  let mantissa := match ds with
    | [] => []
    | [c] => [c]
    | c :: rest => c :: '.' :: rest
  mantissa ++ 'e' :: (if order < 0 then '-' else '+') :: Digits.digits order.natAbs

end Decimal

/-- A value that a numeral of the settings can name. -/
inductive Floating where
  | finite (x : Binary)
  | infinite (negative : Bool)
  | nan
deriving DecidableEq, Repr

namespace Floating

/-- The parts of a numeral: digits before and after the point, and the exponent. -/
structure Numeral where
  whole : List Char
  fraction : List Char
  exponent : Int
deriving DecidableEq, Repr

/-- The value of a numeral with the given sign. -/
def ofNumeral (negative : Bool) (n : Numeral) : Floating :=
  match Decimal.toMagnitude ⟨value (n.whole ++ n.fraction), n.exponent - n.fraction.length⟩ with
  | some m => .finite ⟨negative, m⟩
  | none => .infinite negative

/-- An optional exponent up to the end of the text. -/
def exponent? : List Char → Option Int
  | [] => some 0
  | e :: cs =>
    if e = 'e' ∨ e = 'E' then
      let (negative, ds) := match cs with
        | '-' :: ds => (true, ds)
        | '+' :: ds => (false, ds)
        | ds => (false, ds)
      if ds ≠ [] ∧ ds.all isDigit then
        some (if negative then -(value ds : Int) else value ds)
      else none
    else none

/-- A numeral up to the end of the text, with a digit on at least one side of the point. -/
def numeral? (cs : List Char) : Option Numeral :=
  let whole := leading cs
  let (fraction, rest) := match cs.drop whole.length with
    | '.' :: cs => (leading cs, cs.drop (leading cs).length)
    | cs => ([], cs)
  if whole = [] ∧ fraction = [] then none
  else (exponent? rest).map (⟨whole, fraction, ·⟩)

/-- Read a number: a numeral, `inf`, `infinity` or `nan` in any case, after an optional sign. -/
def read? (cs : List Char) : Option Floating :=
  let (negative, body) := match cs with
    | '-' :: cs => (true, cs)
    | '+' :: cs => (false, cs)
    | cs => (false, cs)
  let lower := String.ofList (body.map Char.toLower)
  if lower = "inf" ∨ lower = "infinity" then some (.infinite negative)
  else if lower = "nan" then some .nan
  else (numeral? body).map (ofNumeral negative)

/-- The value without an exponent; `tail` is what follows the digits of a whole number. -/
def write (tail : List Char) : Floating → String
  | .nan => "NaN"
  | .infinite negative => if negative then "-inf" else "inf"
  | .finite x =>
    String.ofList ((if x.negative then ['-'] else []) ++ (shortest x.magnitude).positional tail)

/-- The value without an exponent, and without a point if it is whole. -/
def plain : Floating → String := write []

/-- The value without an exponent, but with a point. -/
def pointed : Floating → String := write ['.', '0']

/-- The value is other than zero; what is no number counts as other. -/
def isNonzero : Floating → Bool
  | .finite x => x.magnitude.mantissa ≠ 0
  | _ => true

/-- The nearest whole number, a half away from zero, kept between `low` and `high`; zero for what is
no number. -/
def toInteger (low high : Int) : Floating → Int
  | .nan => 0
  | .infinite negative => if negative then low else high
  | .finite x =>
    let n : Int := x.magnitude.round
    max low (min high (if x.negative then -n else n))

end Floating
end FailureAlarm
