import FailureAlarm.Time.Calendar
import FailureAlarm.Text.Hex
import FailureAlarm.Toml.Value

/-!
# Numbers, dates and times

Numbers may have underscores between their digits. An integer has 64 bits with a sign and may be
written in base 2, 8 or 16; a number with a fraction or an exponent is floating-point, and so are
`inf` and `nan`; a positive one must not be too large. Dates and times are read with their fields
checked, and kept in normal form.
-/

namespace FailureAlarm
namespace Toml

open Digits

/-! ### Numbers -/

/-- The digits after the first one, with single underscores between them. -/
def moreDigits (isDig : Char → Bool) : List Char → List Char × List Char
  | '_' :: c :: cs =>
    if isDig c then
      let (ds, rest) := moreDigits isDig cs
      (c :: ds, rest)
    else ([], '_' :: c :: cs)
  | c :: cs =>
    if isDig c then
      let (ds, rest) := moreDigits isDig cs
      (c :: ds, rest)
    else ([], c :: cs)
  | [] => ([], [])

/-- At least one digit; underscores are left out. -/
def digitRun (isDig : Char → Bool) : Reader (List Char)
  | c :: cs =>
    if isDig c then
      let (ds, rest) := moreDigits isDig cs
      some (c :: ds, rest)
    else none
  | [] => none

/-- The whole digits of a decimal number; after a zero there are no others. -/
def wholeDigits : Reader (List Char)
  | '0' :: cs => some (['0'], cs)
  | cs => digitRun isDigit cs

/-- An optional sign; whether it is a minus. -/
def sign : List Char → Bool × List Char
  | '-' :: cs => (true, cs)
  | '+' :: cs => (false, cs)
  | cs => (false, cs)

/-- An integer, if it fits 64 bits with a sign. -/
def integer? (n : Int) : Option Value :=
  if -9223372036854775808 ≤ n ∧ n ≤ 9223372036854775807 then some (.integer n) else none

/-- A floating-point number, unless it is beyond the largest one. -/
def real? (negative : Bool) (n : Floating.Numeral) : Option Value :=
  match Floating.ofNumeral negative n with
  | .infinite false => none
  | x => some (.real x)

/-- The exponent of a number, if there is one. -/
def exponent : Reader (Option Int)
  | c :: cs =>
    if c = 'e' ∨ c = 'E' then
      let (negative, cs) := sign cs
      (digitRun isDigit cs).map fun (ds, cs) =>
        (some (if negative then -(value ds : Int) else value ds), cs)
    else some (none, c :: cs)
  | [] => some (none, [])

/-- A decimal number after its sign. -/
def decimal (negative : Bool) (cs : List Char) : Option (Value × List Char) := do
  let (whole, cs) ← wholeDigits cs
  match cs with
  | '.' :: cs =>
    let (fraction, cs) ← digitRun isDigit cs
    let (e, cs) ← exponent cs
    (real? negative ⟨whole, fraction, e.getD 0⟩).map (·, cs)
  | cs =>
    match ← exponent cs with
    | (some e, cs) => (real? negative ⟨whole, [], e⟩).map (·, cs)
    | (none, cs) =>
      (integer? (if negative then -(Digits.value whole : Int) else Digits.value whole)).map (·, cs)

/-- A number in another base. -/
def based (base : Nat) (cs : List Char) : Option (Value × List Char) := do
  let isDig (c : Char) : Bool := (Hex.value? c).any (· < base)
  let (ds, cs) ← digitRun isDig cs
  let n := ds.foldl (fun n d => n * base + (Hex.value? d).getD 0) 0
  (integer? n).map (·, cs)

/-- A number. -/
def number : Reader Value
  | '0' :: 'x' :: cs => based 16 cs
  | '0' :: 'o' :: cs => based 8 cs
  | '0' :: 'b' :: cs => based 2 cs
  | cs =>
    let (negative, cs) := sign cs
    match cs with
    | 'i' :: 'n' :: 'f' :: cs => some (.real (.infinite negative), cs)
    | 'n' :: 'a' :: 'n' :: cs => some (.real .nan, cs)
    | cs => decimal negative cs

/-! ### Dates and times -/

/-- A field of `width` digits between `low` and `high`. -/
def field (width low high : Nat) (cs : List Char) : Option (List Char × List Char) :=
  let ds := cs.take width
  if ds.length = width ∧ ds.all isDigit ∧ low ≤ value ds ∧ value ds ≤ high then
    some (ds, cs.drop width)
  else none

/-- The character `c`. -/
def mark (c : Char) : Reader Unit
  | d :: cs => if d = c then some ((), cs) else none
  | [] => none

/-- A date that exists. -/
def date (cs : List Char) : Option (List Char × List Char) := do
  let (y, cs) ← field 4 0 9999 cs
  let (_, cs) ← mark '-' cs
  let (m, cs) ← field 2 1 12 cs
  let (_, cs) ← mark '-' cs
  let (d, cs) ← field 2 1 31 cs
  if (⟨value y, value m, value d⟩ : Calendar.Date).Exists then
    some (y ++ '-' :: m ++ '-' :: d, cs)
  else none

/-- The fraction of a second: nine digits count, and zeros at their end do not. -/
def normalFraction (ds : List Char) : List Char :=
  match ((ds.take 9).reverse.dropWhile (· = '0')).reverse with
  | [] => []
  | ds => '.' :: ds

/-- A time of day. -/
def timeOfDay (cs : List Char) : Option (List Char × List Char) := do
  let (h, cs) ← field 2 0 23 cs
  let (_, cs) ← mark ':' cs
  let (m, cs) ← field 2 0 59 cs
  let (_, cs) ← mark ':' cs
  let (s, cs) ← field 2 0 60 cs
  let clock := h ++ ':' :: m ++ ':' :: s
  match cs with
  | '.' :: cs =>
    match leading cs with
    | [] => none
    | ds => some (clock ++ normalFraction ds, cs.drop ds.length)
  | cs => some (clock, cs)

/-- The offset from UTC, if there is one; no offset has a plus. -/
def offset : Reader (List Char)
  | [] => some ([], [])
  | c :: cs =>
    if c = 'Z' ∨ c = 'z' then some (['Z'], cs)
    else if c = '+' ∨ c = '-' then do
      let (h, cs) ← field 2 0 23 cs
      let (_, cs) ← mark ':' cs
      let (m, cs) ← field 2 0 59 cs
      let c := if value h = 0 ∧ value m = 0 then '+' else c
      some (c :: h ++ ':' :: m, cs)
    else some ([], c :: cs)

/-- What may stand between date and time. -/
def isDivider (c : Char) : Bool := c = 'T' || c = 't' || c = ' '

/-- A date, a time, or both. -/
def moment (cs : List Char) : Option (Value × List Char) :=
  match date cs with
  | none => (timeOfDay cs).map fun (t, cs) => (.moment (String.ofList t), cs)
  | some (d, cs) =>
    let whole : Option (Value × List Char) := do
      let divider ← cs.head?
      if isDivider divider then
        let (t, cs) ← timeOfDay cs.tail
        let (z, cs) ← offset cs
        some (.moment (String.ofList (d ++ 'T' :: t ++ z)), cs)
      else none
    whole.or (some (.moment (String.ofList d), cs))

/-- A date, a time or a number. -/
def literal (cs : List Char) : Option (Value × List Char) := (moment cs).or (number cs)

end Toml
end FailureAlarm
