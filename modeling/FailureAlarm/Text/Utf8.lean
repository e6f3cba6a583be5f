/-!
# Bytes as text

UTF-8 read leniently: `decode` gives each character, and `none` for each run of bytes that is the
start of a character but not a whole one, or for a byte that starts none. `lossy` puts the
replacement character in the place of such runs, `text?` accepts none of them.
-/

namespace FailureAlarm
namespace Utf8

/-- The six bits that a continuing byte holds. -/
def tailBits (b : UInt8) : Nat := b.toNat % 64

/-- The number of continuing bytes after `b` as a first byte, the bits that `b` holds, and the least
and greatest continuing byte that may come next. -/
def lead? (b : UInt8) : Option (Nat × Nat × UInt8 × UInt8) :=
  if b < 0x80 then some (0, b.toNat, 0, 0)
  else if 0xC2 ≤ b ∧ b ≤ 0xDF then some (1, b.toNat % 32, 0x80, 0xBF)
  else if b = 0xE0 then some (2, 0, 0xA0, 0xBF)
  else if b = 0xED then some (2, 13, 0x80, 0x9F)
  else if 0xE1 ≤ b ∧ b ≤ 0xEF then some (2, b.toNat % 16, 0x80, 0xBF)
  else if b = 0xF0 then some (3, 0, 0x90, 0xBF)
  else if 0xF1 ≤ b ∧ b ≤ 0xF3 then some (3, b.toNat % 8, 0x80, 0xBF)
  else if b = 0xF4 then some (3, 4, 0x80, 0x8F)
  else none

/-- What is still to come of a character: the number of its continuing bytes, the bits so far, and
the limits of the next byte. -/
abbrev Open := Option (Nat × Nat × UInt8 × UInt8)

/-- Read `b` as a first byte, after the characters `acc`, which are held backwards. -/
def start (acc : List (Option Char)) (b : UInt8) : List (Option Char) × Open :=
  match lead? b with
  | none => (none :: acc, none)
  | some (0, bits, _, _) => (some (Char.ofNat bits) :: acc, none)
  | some l => (acc, some l)

/-- Read the next byte. -/
def feed (acc : List (Option Char)) : Open → UInt8 → List (Option Char) × Open
  | none, b => start acc b
  | some (n, bits, low, high), b =>
    if low ≤ b ∧ b ≤ high then
      if n = 1 then (some (Char.ofNat (bits * 64 + tailBits b)) :: acc, none)
      else (acc, some (n - 1, bits * 64 + tailBits b, 0x80, 0xBF))
    else start (none :: acc) b

/-- Read bytes one after the other. -/
def decodeFrom (acc : List (Option Char)) : Open → List UInt8 → List (Option Char)
  | none, [] => acc.reverse
  | some _, [] => (none :: acc).reverse
  | o, b :: bs =>
    let (acc, o) := feed acc o b
    decodeFrom acc o bs

/-- The characters of the bytes, and `none` where they are not text. -/
def decode (bytes : List UInt8) : List (Option Char) := decodeFrom [] none bytes

/-- The text of the bytes, with the replacement character where they are not text. -/
def lossy (bytes : List UInt8) : String :=
  String.ofList ((decode bytes).map (·.getD '\ufffd'))

/-- The text of the bytes, if they are text throughout. -/
def text? (bytes : List UInt8) : Option String :=
  ((decode bytes).mapM id).map String.ofList

/-- The last character below `n` that does not occur among `cs`; NUL if all of them do. -/
def absentBelow (cs : List (Option Char)) : Nat → Char
  | 0 => '\x00'
  | n + 1 => if cs.contains (some (Char.ofNat n)) then absentBelow cs n else Char.ofNat n

/-- A character that does not occur among `cs`, unless all characters do. -/
def absent (cs : List (Option Char)) : Char := absentBelow cs 0x110000

example : decode [0x61, 0xFF, 0x62] = [some 'a', none, some 'b'] ∧ decode [0xC3, 0xA9] = [some 'é'] ∧
    decode [0xED, 0xA0] = [none, none] := by decide +kernel

end Utf8
end FailureAlarm
