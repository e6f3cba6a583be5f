import FailureAlarm.Text.Utf8

/-!
# Texts with a byte order mark

A byte order mark at the beginning of a text says how the text is written: in UTF-8, or in units of
16 bits with the higher or the lower byte first. A text without one is UTF-8. The mark itself is not
part of the text.

A text may also come with the name of an encoding beside it, such as the charset of a reply. That is out
of scope: what is read here is the text of one who names no encoding, or names UTF-8. With another name
and no mark, the characters beyond ASCII would be other ones.
-/

namespace FailureAlarm

namespace Utf16

/-- The unit is the first half of a character. -/
def isHigh (u : Nat) : Bool := 0xD800 ≤ u && u < 0xDC00

/-- The unit is the second half of a character. -/
def isLow (u : Nat) : Bool := 0xDC00 ≤ u && u < 0xE000

/-- The characters of the units, with the replacement character for a half that stands alone. -/
def lossy : List Nat → List Char
  | u :: v :: us =>
    if isHigh u && isLow v then
      Char.ofNat (0x10000 + (u - 0xD800) * 0x400 + (v - 0xDC00)) :: lossy us
    else (if isHigh u || isLow u then '\ufffd' else Char.ofNat u) :: lossy (v :: us)
  | [u] => [if isHigh u || isLow u then '\ufffd' else Char.ofNat u]
  | [] => []

/-- The units that the bytes make up, two by two; a byte that is left over becomes half a
character. -/
def units (higherFirst : Bool) : List UInt8 → List Nat
  | a :: b :: bs =>
    (if higherFirst then a.toNat * 256 + b.toNat else b.toNat * 256 + a.toNat) ::
      units higherFirst bs
  | [_] => [0xD800]
  | [] => []

example : lossy [0x61, 0xD83D, 0xDD25, 0xDD25] = ['a', '🔥', '\ufffd'] := by decide

end Utf16

/-- The text of the bytes, written as their byte order mark says. -/
def markedText : List UInt8 → String
  | 0xEF :: 0xBB :: 0xBF :: bs => Utf8.lossy bs
  | 0xFF :: 0xFE :: bs => String.ofList (Utf16.lossy (Utf16.units false bs))
  | 0xFE :: 0xFF :: bs => String.ofList (Utf16.lossy (Utf16.units true bs))
  | bs => Utf8.lossy bs

end FailureAlarm
