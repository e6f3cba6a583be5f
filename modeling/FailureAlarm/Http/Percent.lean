import FailureAlarm.Text.Hex

/-!
# Percent-encoding

Some characters of an address are written as a percent sign and two hexadecimal digits for each
byte. A percent sign that two such digits do not follow stands for itself.
-/

namespace FailureAlarm
namespace Http
namespace Percent

/-- The bytes of a character. -/
def bytesOf (c : Char) : List UInt8 := (String.ofList [c]).toUTF8.toList

/-- The bytes that the text stands for. -/
def decode : List Char → List UInt8
  | '%' :: a :: b :: cs =>
    match Hex.value? a, Hex.value? b with
    | some high, some low => UInt8.ofNat (high * 16 + low) :: decode cs
    | _, _ => 37 :: decode (a :: b :: cs)
  | c :: cs => bytesOf c ++ decode cs
  | [] => []

/-- The hexadecimal digit of a number below 16, in upper case. -/
def hexDigit (n : Nat) : Char := (Hex.digit n).toUpper

/-- The text with every character that is not `plain` encoded. -/
def encode (plain : Char → Bool) (cs : List Char) : List Char :=
  cs.flatMap fun c =>
    if plain c then [c]
    else (bytesOf c).flatMap fun b => ['%', hexDigit (b.toNat / 16), hexDigit (b.toNat % 16)]

end Percent
end Http
end FailureAlarm
