import FailureAlarm.Json.Value

/-!
# Reading JSON text

Reading gives a `Tree`, which holds everything that has been read up to the first place where the
text breaks the grammar: an array or object that was cut off there is marked as not closed, and
what was found there is `broken`. What a tree is read as is decided later, from left to right, so
the first of several faults is the one that is reported, be it a fault of the grammar or of the
shape.

Reading checks the grammar alone. A string with half a surrogate pair, or with bytes that are no
text, is kept without its content, and so is a number beyond all values: they matter only to one who
wants them.

The bytes of a text that are not UTF-8 come in as one character, `stray`, chosen by the caller.
-/

namespace FailureAlarm
namespace Json

/-- What has been read of a text. -/
inductive Tree where
  | null
  | bool (b : Bool)
  | number (n : Option Number)
  | string (s : Option String)
  | array (items : List Tree) (closed : Bool)
  | object (members : List (Option String × Tree)) (closed : Bool)
  /-- An object whose first key is not a string. -/
  | oddKey (key : Tree)
  | broken
deriving Inhabited, Repr

namespace Tree

open Digits

/-- The four blanks of JSON. -/
def isSpace (c : Char) : Bool := c = ' ' || c = '\n' || c = '\t' || c = '\r'

def skipSpace (cs : List Char) : List Char := cs.dropWhile isSpace

/-! ### Strings -/

/-- The number of four hexadecimal digits. -/
def hexUnit? (a b c d : Char) : Option Nat := do
  some (((← Hex.value? a) * 16 + (← Hex.value? b)) * 256 + (← Hex.value? c) * 16 + (← Hex.value? d))

/-- The character of a two-character escape. -/
def shortEscape? (c : Char) : Option Char :=
  if c = '"' ∨ c = '\\' ∨ c = '/' then some c
  else if c = 'b' then some '\x08'
  else if c = 'f' then some '\x0c'
  else if c = 'n' then some '\n'
  else if c = 'r' then some '\r'
  else if c = 't' then some '\t'
  else none

/-- The character of a surrogate pair. -/
def joinSurrogates (high low : Nat) : Char :=
  Char.ofNat (0x10000 + (high - 0xD800) * 0x400 + (low - 0xDC00))

/-- A string up to its closing quote. `half` is the high half of a surrogate pair that has just been
read, `lost` says that the content cannot be had, and `acc` holds what has been read, backwards. -/
def stringBody (stray : Option Char) :
    (half : Option Nat) → (lost : Bool) → (acc : List Char) → List Char →
      Option (Option String × List Char)
  | _, _, _, [] => none
  | half, lost, acc, '"' :: cs =>
    some (if lost || half.isSome then none else some (String.ofList acc.reverse), cs)
  | half, lost, acc, '\\' :: 'u' :: a :: b :: c :: d :: cs =>
    match hexUnit? a b c d, half with
    | none, _ => none
    | some n, some high =>
      if 0xDC00 ≤ n ∧ n ≤ 0xDFFF then stringBody stray none lost (joinSurrogates high n :: acc) cs
      else stringBody stray none true acc cs
    | some n, none =>
      if 0xD800 ≤ n ∧ n ≤ 0xDBFF then stringBody stray (some n) lost acc cs
      else if 0xDC00 ≤ n ∧ n ≤ 0xDFFF then stringBody stray none true acc cs
      else stringBody stray none lost (Char.ofNat n :: acc) cs
  | half, lost, acc, '\\' :: c :: cs =>
    match shortEscape? c with
    | none => none
    | some e => stringBody stray none (lost || half.isSome) (e :: acc) cs
  | half, lost, acc, c :: cs =>
    if c.toNat < 32 then none
    else stringBody stray none (lost || half.isSome || some c = stray) (c :: acc) cs

/-! ### Numbers and names -/

/-- The digits at the head of `cs`, at least one. -/
def someDigits (cs : List Char) : Option (List Char × List Char) :=
  match leading cs with
  | [] => none
  | ds => some (ds, cs.drop ds.length)

/-- The fraction of a number, if there is one. -/
def fraction : List Char → Option (List Char × List Char)
  | '.' :: cs => someDigits cs
  | cs => some ([], cs)

/-- The exponent of a number, if there is one. -/
def exponent : List Char → Option (Option Int × List Char)
  | c :: cs =>
    if c = 'e' ∨ c = 'E' then
      match cs with
      | '-' :: cs => (someDigits cs).map fun (ds, cs) => (some (-(value ds : Int)), cs)
      | '+' :: cs => (someDigits cs).map fun (ds, cs) => (some (value ds : Int), cs)
      | cs => (someDigits cs).map fun (ds, cs) => (some (value ds : Int), cs)
    else some (none, c :: cs)
  | [] => some (none, [])

/-- A number after its sign; a zero is not followed by another digit. -/
def numberBody (negative : Bool) (cs : List Char) : Option (Option Number × List Char) := do
  let (whole, cs) ← someDigits cs
  if whole.head? = some '0' ∧ whole ≠ ['0'] then none
  else
    let (frac, cs) ← fraction cs
    let (exp, cs) ← exponent cs
    some (Number.ofLiteral ⟨negative, whole, frac, exp⟩, cs)

/-- The rest of `cs` after the characters `name`. -/
def afterName : (name : List Char) → List Char → Option (List Char)
  | [], cs => some cs
  | a :: name, c :: cs => if a = c then afterName name cs else none
  | _ :: _, [] => none

/-! ### Values -/

/-- A value without parts: what it is, and the text after it unless the grammar was broken. -/
def leaf (stray : Option Char) : List Char → Tree × Option (List Char)
  | '"' :: cs =>
    match stringBody stray none false [] cs with
    | some (s, cs) => (.string s, some cs)
    | none => (.broken, none)
  | '-' :: cs =>
    match numberBody true cs with
    | some (n, cs) => (.number n, some cs)
    | none => (.broken, none)
  | 'n' :: cs => named .null (afterName "ull".toList cs)
  | 't' :: cs => named (.bool true) (afterName "rue".toList cs)
  | 'f' :: cs => named (.bool false) (afterName "alse".toList cs)
  | cs =>
    match numberBody false cs with
    | some (n, cs) => (.number n, some cs)
    | none => (.broken, none)
where
  /-- A value that is written as a name. -/
  named (t : Tree) : Option (List Char) → Tree × Option (List Char)
    | some cs => (t, some cs)
    | none => (.broken, none)

mutual

/-- A value after blanks. Each step of the reading takes one unit of `fuel`, and at least one
character every other step. -/
def value (stray : Option Char) : (fuel : Nat) → List Char → Tree × Option (List Char)
  | 0, _ => (.broken, none)
  | fuel + 1, cs =>
    match skipSpace cs with
    | '[' :: cs =>
      match skipSpace cs with
      | ']' :: cs => (.array [] true, some cs)
      | cs =>
        let (items, rest) := items stray fuel cs
        (.array items rest.isSome, rest)
    | '\x7b' :: cs =>
      match skipSpace cs with
      | '\x7d' :: cs => (.object [] true, some cs)
      | '"' :: cs =>
        let (members, rest) := members stray fuel cs
        (.object members rest.isSome, rest)
      | cs => (.oddKey (value stray fuel cs).1, none)
    | cs => leaf stray cs

/-- The items of an array from the next one on, up to the closing bracket. -/
def items (stray : Option Char) : (fuel : Nat) → List Char → List Tree × Option (List Char)
  | 0, _ => ([], none)
  | fuel + 1, cs =>
    match value stray fuel cs with
    | (t, none) => ([t], none)
    | (t, some cs) =>
      match skipSpace cs with
      | ']' :: cs => ([t], some cs)
      | ',' :: cs =>
        let (ts, rest) := items stray fuel cs
        (t :: ts, rest)
      | _ => ([t], none)

/-- The members of an object from the next key on, whose opening quote has been read, up to the
closing brace. -/
def members (stray : Option Char) :
    (fuel : Nat) → List Char → List (Option String × Tree) × Option (List Char)
  | 0, _ => ([], none)
  | fuel + 1, cs =>
    match stringBody stray none false [] cs with
    | none => ([], none)
    | some (key, cs) =>
      match skipSpace cs with
      | ':' :: cs =>
        match value stray fuel cs with
        | (t, none) => ([(key, t)], none)
        | (t, some cs) =>
          match skipSpace cs with
          | '\x7d' :: cs => ([(key, t)], some cs)
          | ',' :: cs =>
            match skipSpace cs with
            | '"' :: cs =>
              let (more, rest) := members stray fuel cs
              ((key, t) :: more, rest)
            | _ => ([(key, t)], none)
          | _ => ([(key, t)], none)
      | _ => ([(key, .broken)], none)

end

/-- Read the first value of a text, and the text after it. -/
def first (stray : Option Char) (cs : List Char) : Tree × Option (List Char) :=
  value stray (2 * cs.length + 1) cs

/-- Read a text that holds one value and nothing but blanks after it. The second part says whether
that is so. -/
def read (text : String) : Tree × Bool :=
  match first none text.toList with
  | (t, some rest) => (t, (skipSpace rest).isEmpty)
  | (t, none) => (t, false)

end Tree
end Json
end FailureAlarm
