import FailureAlarm.Http.MediaType
import FailureAlarm.Text.Hex
import FailureAlarm.Text.Parts

/-!
# Heads and bodies of HTTP messages

A message begins with a line of its own, followed by headers up to an empty line. Lines end with a
line feed, before which a carriage return may stand. A body has the length that a header gives, or
comes in chunks that give theirs.
-/

namespace FailureAlarm
namespace Http

/-- A header: its name in lower case, and its value without the blanks around it. -/
structure Header where
  name : String
  value : List UInt8

namespace Head

open Digits

/-! ### Lines -/

/-- The bytes before the next line feed, and those after it. -/
def line? (bs : List UInt8) : Option (List UInt8 × List UInt8) :=
  match bs.dropWhile (· ≠ 10) with
  | [] => none
  | _ :: rest => some (bs.takeWhile (· ≠ 10), rest)

theorem length_of_line? {bs line rest : List UInt8} (h : line? bs = some (line, rest)) :
    rest.length < bs.length := by
  unfold line? at h
  split at h
  · cases h
  · next b rest' hd =>
    cases h
    have := congrArg List.length (List.takeWhile_append_dropWhile (p := (· ≠ 10)) (l := bs))
    rw [hd] at this
    simp only [List.length_append, List.length_cons] at this
    omega

/-- A line without the carriage return at its end. -/
def trimReturn (line : List UInt8) : List UInt8 :=
  if line.getLast? = some 13 then line.dropLast else line

/-- The byte may stand in the text of a head. -/
def isText (b : UInt8) : Bool := b = 9 || (32 ≤ b && b ≠ 127)

/-- Bytes as characters of the same numbers. -/
def chars (bs : List UInt8) : List Char := bs.map fun b => Char.ofNat b.toNat

/-- What follows the empty lines at the beginning. -/
def skipLineEnds : List UInt8 → List UInt8
  | 13 :: 10 :: bs => skipLineEnds bs
  | 10 :: bs => skipLineEnds bs
  | bs => bs

/-! ### Headers -/

/-- The bytes without blanks at either end. -/
def trim (bs : List UInt8) : List UInt8 :=
  let strip (bs : List UInt8) := bs.dropWhile fun b => b = 9 || b = 32
  (strip (strip bs).reverse).reverse

/-- Read a header. -/
def header? (line : List UInt8) : Option Header :=
  let name := line.takeWhile fun b => MediaType.isToken (Char.ofNat b.toNat)
  match name, line.drop name.length with
  | _ :: _, 58 :: value =>
    if value.all isText then some ⟨MediaType.name (chars name), trim value⟩ else none
  | _, _ => none

/-- The lines up to the empty one that ends a head, and what follows it. -/
def lines? (bs : List UInt8) : Option (List (List UInt8) × List UInt8) :=
  match h : line? bs with
  | none => none
  | some (line, rest) =>
    have := length_of_line? h
    if trimReturn line = [] then some ([], rest)
    else (lines? rest).map fun (more, body) => (trimReturn line :: more, body)
termination_by bs.length

/-- The values of the headers with this name. -/
def values (name : String) (hs : List Header) : List (List UInt8) :=
  (hs.filter (·.name = name)).map (·.value)

/-! ### Bodies -/

/-- The greatest length that a body may have. -/
def maxLength : Nat := 18446744073709551613

/-- The length that a header gives; it may give the same one several times. -/
def lengths? (v : List UInt8) : Option (List Nat) :=
  (divide ',' (chars v)).mapM fun part =>
    let ds := chars (trim (part.map fun c => UInt8.ofNat c.toNat))
    if ds ≠ [] ∧ ds.all isDigit ∧ value ds ≤ maxLength then some (value ds) else none

/-- The one length that all the headers give. -/
def length? (vs : List (List UInt8)) : Option Nat := do
  let all ← vs.mapM lengths?
  let first ← all.flatten.head?
  if all.flatten.all (· = first) then some first else none

/-- The greatest size that a chunk may have. -/
def maxSize : Nat := 18446744073709551615

/-- The size of a chunk; an extension may follow it. -/
def chunkSize? (line : List UInt8) : Option Nat :=
  let ds := (chars line).takeWhile fun c => (Hex.value? c).isSome
  match ((chars line).drop ds.length).dropWhile fun c => c = ' ' || c = '\t' with
  | [] | ';' :: _ => if ds = [] then none else (Hex.inBase? 16 ds).filter (· ≤ maxSize)
  | _ => none

/-- The lines up to an empty one are all there. -/
def endsChunks (bs : List UInt8) : Bool :=
  match h : line? bs with
  | none => false
  | some (line, rest) =>
    have := length_of_line? h
    line.getLast? = some 13 && (line = [13] || endsChunks rest)
termination_by bs.length

/-- Read the chunks of a body. -/
def chunks? (bs : List UInt8) : Option (List UInt8) :=
  match h : line? bs with
  | none => none
  | some (line, rest) =>
    if line.getLast? ≠ some 13 then none
    else match chunkSize? line.dropLast with
      | none => none
      | some 0 => if endsChunks rest then some [] else none
      | some size =>
        if (rest.drop size).take 2 = [13, 10] then
          have := length_of_line? h
          (chunks? (rest.drop (size + 2))).map (rest.take size ++ ·)
        else none
termination_by bs.length

/-- The last transfer coding is the one by chunks. -/
def isChunked (vs : List (List UInt8)) : Bool :=
  vs.getLast?.any fun v =>
    ((divide ',' (chars v)).getLast?).any fun part =>
      MediaType.name (chars (trim (part.map fun c => UInt8.ofNat c.toNat))) = "chunked"

end Head
end Http
end FailureAlarm
