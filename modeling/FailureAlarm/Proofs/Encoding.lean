import FailureAlarm.Text.Utf8
import Mathlib.Data.List.Basic

/-!
# A text is read back from its bytes

The bytes of a text are read as the characters of the text (`Utf8.decode_toUTF8`), so they are text
throughout, and that text is the one they come from (`Utf8.text?_toUTF8`).

A character has one byte up to four. The first one says how many there are and holds the highest bits
(`lead?_two` and the two after it), each of the others holds six more (`feed_last`, `feed_more`). What the
second byte must not be below or above depends on the first one; a character keeps to that because it is
written as short as can be, is no half of a surrogate pair, and is not beyond the last one.
-/

namespace FailureAlarm
namespace Utf8

/-! ### First bytes -/

/-- A byte below 128 is a character by itself. -/
theorem lead?_one {n : Nat} (h : n < 128) : lead? (UInt8.ofNat n) = some (0, n, 0, 0) := by
  have hall : ∀ k : Fin 128, lead? (UInt8.ofNat k.val) = some (0, k.val, 0, 0) := by decide
  exact hall ⟨n, h⟩

/-- A byte that begins two has the upper five bits of a character. The least such character does not fit
into one byte. -/
theorem lead?_two {n : Nat} (hlow : 2 ≤ n) (h : n < 32) :
    lead? (UInt8.ofNat (n + 192)) = some (1, n, 0x80, 0xBF) := by
  have hall : ∀ k : Fin 32, 2 ≤ k.val → lead? (UInt8.ofNat (k.val + 192)) = some (1, k.val, 0x80, 0xBF) := by
    decide
  exact hall ⟨n, h⟩ hlow

/-- The least second byte of three, after a first one with the bits `n`. -/
def least₃ (n : Nat) : UInt8 := if n = 0 then 0xA0 else 0x80

/-- The greatest second byte of three, after a first one with the bits `n`. -/
def greatest₃ (n : Nat) : UInt8 := if n = 13 then 0x9F else 0xBF

/-- One that begins three has the upper four bits. -/
theorem lead?_three {n : Nat} (h : n < 16) :
    lead? (UInt8.ofNat (n + 224)) = some (2, n, least₃ n, greatest₃ n) := by
  have hall : ∀ k : Fin 16, lead? (UInt8.ofNat (k.val + 224)) =
      some (2, k.val, least₃ k.val, greatest₃ k.val) := by decide
  exact hall ⟨n, h⟩

/-- The least second byte of four, after a first one with the bits `n`. -/
def least₄ (n : Nat) : UInt8 := if n = 0 then 0x90 else 0x80

/-- The greatest second byte of four, after a first one with the bits `n`. -/
def greatest₄ (n : Nat) : UInt8 := if n = 4 then 0x8F else 0xBF

/-- And one that begins four has the upper three. -/
theorem lead?_four {n : Nat} (h : n < 5) :
    lead? (UInt8.ofNat (n + 240)) = some (3, n, least₄ n, greatest₄ n) := by
  have hall : ∀ k : Fin 5, lead? (UInt8.ofNat (k.val + 240)) =
      some (3, k.val, least₄ k.val, greatest₄ k.val) := by decide
  exact hall ⟨n, h⟩

/-! ### Continuing bytes -/

variable {acc : List (Option Char)} {bits k : Nat} {low high : UInt8}

/-- Every further byte has six bits. -/
theorem tailBits_ofNat (h : k < 64) : tailBits (UInt8.ofNat (k + 128)) = k := by
  have hall : ∀ k : Fin 64, tailBits (UInt8.ofNat (k.val + 128)) = k.val := by decide
  exact hall ⟨k, h⟩

/-- The byte that continues a character with the bits `k` lies between `low` and `high`. -/
def Within (low high : UInt8) (k : Nat) : Prop := low.toNat ≤ k + 128 ∧ k + 128 ≤ high.toNat

theorem within_any (h : k < 64) : Within 0x80 0xBF k := by
  have hlow : (0x80 : UInt8).toNat = 128 := rfl
  have hhigh : (0xBF : UInt8).toNat = 191 := rfl
  unfold Within
  omega

theorem Within.le (hk : k < 64) (h : Within low high k) :
    low ≤ UInt8.ofNat (k + 128) ∧ UInt8.ofNat (k + 128) ≤ high := by
  have hval : (UInt8.ofNat (k + 128)).toNat = k + 128 := by
    rw [UInt8.toNat_ofNat']
    omega
  rw [UInt8.le_iff_toNat_le, UInt8.le_iff_toNat_le, hval]
  exact h

/-! ### Bytes, one after the other -/

variable {b : UInt8} {bs : List UInt8} {n : Nat}

/-- A byte that is a character by itself is read at once. -/
theorem decodeFrom_alone (h : lead? b = some (0, bits, low, high)) :
    decodeFrom acc none (b :: bs) = decodeFrom (some (Char.ofNat bits) :: acc) none bs := by
  rw [decodeFrom, feed, start, h]
  rfl

/-- A first byte that others have to follow. -/
theorem decodeFrom_lead (h : lead? b = some (n + 1, bits, low, high)) :
    decodeFrom acc none (b :: bs) = decodeFrom acc (some (n + 1, bits, low, high)) bs := by
  rw [decodeFrom, feed, start, h]
  rfl

/-- A byte after which others have to follow. -/
theorem decodeFrom_more (hk : k < 64) (h : Within low high k) :
    decodeFrom acc (some (n + 2, bits, low, high)) (UInt8.ofNat (k + 128) :: bs) =
      decodeFrom acc (some (n + 1, bits * 64 + k, 0x80, 0xBF)) bs := by
  have hne : n + 2 ≠ 1 := by omega
  rw [decodeFrom, feed, if_pos (h.le hk), if_neg hne, tailBits_ofNat hk]
  rfl

/-- The last byte of a character. -/
theorem decodeFrom_last (hk : k < 64) (h : Within low high k) :
    decodeFrom acc (some (1, bits, low, high)) (UInt8.ofNat (k + 128) :: bs) =
      decodeFrom (some (Char.ofNat (bits * 64 + k)) :: acc) none bs := by
  rw [decodeFrom, feed, if_pos (h.le hk), if_pos rfl, tailBits_ofNat hk]

/-! ### Characters -/

/-- The second byte of three is in its bounds, unless the character could be written with two bytes or is
half of a surrogate pair. -/
theorem within₃ {n : Nat} (hlow : 0x800 ≤ n) (hhigh : n < 0x10000) (hhalf : n < 0xD800 ∨ 0xDFFF < n) :
    Within (least₃ (n / 4096)) (greatest₃ (n / 4096)) (n / 64 % 64) := by
  have h80 : (0x80 : UInt8).toNat = 128 := rfl
  have h9F : (0x9F : UInt8).toNat = 159 := rfl
  have hA0 : (0xA0 : UInt8).toNat = 160 := rfl
  have hBF : (0xBF : UInt8).toNat = 191 := rfl
  unfold Within least₃ greatest₃
  constructor
  · split <;> omega
  · split <;> omega

/-- The second byte of four is in its bounds, unless the character could be written with three bytes or is
beyond the last one. -/
theorem within₄ {n : Nat} (hlow : 0x10000 ≤ n) (hhigh : n < 0x110000) :
    Within (least₄ (n / 262144)) (greatest₄ (n / 262144)) (n / 4096 % 64) := by
  have h80 : (0x80 : UInt8).toNat = 128 := rfl
  have h8F : (0x8F : UInt8).toNat = 143 := rfl
  have h90 : (0x90 : UInt8).toNat = 144 := rfl
  have hBF : (0xBF : UInt8).toNat = 191 := rfl
  unfold Within least₄ greatest₄
  constructor
  · split <;> omega
  · split <;> omega

/-- **A character is read from its bytes**, whatever comes after them. -/
theorem decodeFrom_char (c : Char) (bs : List UInt8) :
    decodeFrom acc none (String.utf8EncodeChar c ++ bs) = decodeFrom (some c :: acc) none bs := by
  have hchar : Char.ofNat c.toNat = c := Char.ofNat_toNat c
  have hvalid : c.toNat < 0xD800 ∨ 0xDFFF < c.toNat ∧ c.toNat < 0x110000 := c.valid
  have hval : c.val.toNat = c.toNat := rfl
  unfold String.utf8EncodeChar
  dsimp only
  rw [hval]
  generalize c.toNat = n at hchar hvalid ⊢
  have htail (m : Nat) : m % 64 < 64 := Nat.mod_lt m (by decide)
  -- The library writes one, two, three or four bytes, by the size of the character.
  split
  · next hle => rw [List.singleton_append, decodeFrom_alone (lead?_one (by omega)), hchar]
  split
  · next hone hle =>
      have hfirst : n / 64 % 32 = n / 64 := Nat.mod_eq_of_lt (by omega)
      have hbits : n / 64 * 64 + n % 64 = n := by omega
      rw [hfirst, List.cons_append, List.singleton_append,
        decodeFrom_lead (lead?_two (by omega) (by omega)),
        decodeFrom_last (htail n) (within_any (htail n)), hbits, hchar]
  split
  · next hone htwo hle =>
      have hfirst : n / 4096 % 16 = n / 4096 := Nat.mod_eq_of_lt (by omega)
      have hbits : (n / 4096 * 64 + n / 64 % 64) * 64 + n % 64 = n := by omega
      have hwithin := within₃ (n := n) (by omega) (by omega) (by omega)
      rw [hfirst, List.cons_append, List.cons_append, List.singleton_append,
        decodeFrom_lead (lead?_three (by omega)), decodeFrom_more (htail _) hwithin,
        decodeFrom_last (htail n) (within_any (htail n)), hbits, hchar]
  · next hone htwo hthree =>
      have hfirst : n / 262144 % 8 = n / 262144 := Nat.mod_eq_of_lt (by omega)
      have hbits : ((n / 262144 * 64 + n / 4096 % 64) * 64 + n / 64 % 64) * 64 + n % 64 = n := by omega
      have hwithin := within₄ (n := n) (by omega) (by omega)
      rw [hfirst, List.cons_append, List.cons_append, List.cons_append, List.singleton_append,
        decodeFrom_lead (lead?_four (by omega)), decodeFrom_more (htail _) hwithin,
        decodeFrom_more (htail _) (within_any (htail _)),
        decodeFrom_last (htail n) (within_any (htail n)), hbits, hchar]

/-! ### Texts -/

/-- **Characters that are written are read again**, one after the other. -/
theorem decodeFrom_chars (cs : List Char) (acc : List (Option Char)) :
    decodeFrom acc none (cs.flatMap String.utf8EncodeChar) = acc.reverse ++ cs.map some := by
  induction cs generalizing acc with
  | nil =>
      rw [List.map_nil, List.append_nil]
      rfl
  | cons c cs ih =>
      rw [List.flatMap_cons, decodeFrom_char, ih, List.reverse_cons, List.append_assoc]
      rfl

/-- The bytes are listed from their place on. -/
theorem toList_loop (bs : ByteArray) (i : Nat) (acc : List UInt8) :
    ByteArray.toList.loop bs i acc = acc.reverse ++ bs.data.toList.drop i := by
  fun_induction ByteArray.toList.loop bs i acc with
  | case1 i acc hlt ih =>
      have hlen : i < bs.data.toList.length := hlt
      have hget : bs.get! i = bs.data.toList[i] := getElem!_pos bs.data i hlt
      rw [ih, List.reverse_cons, List.append_assoc, hget, List.singleton_append,
        List.getElem_cons_drop]
  | case2 i acc hge =>
      have hlen : bs.data.toList.length ≤ i := Nat.le_of_not_lt hge
      rw [List.drop_of_length_le hlen, List.append_nil]

/-- The bytes of a text are those of its characters. -/
theorem toList_toUTF8 (s : String) : s.toUTF8.toList = s.toList.flatMap String.utf8EncodeChar := by
  conv =>
    lhs
    rw [← String.ofList_toList (s := s)]
  show ByteArray.toList.loop (s.toList.flatMap String.utf8EncodeChar).toByteArray 0 [] = _
  rw [toList_loop, List.toList_data_toByteArray]
  rfl

/-- **The bytes of a text are read as its characters.** -/
theorem decode_toUTF8 (s : String) : decode s.toUTF8.toList = s.toList.map some := by
  rw [toList_toUTF8]
  exact decodeFrom_chars s.toList []

/-- **A text is read back from its bytes.** -/
theorem text?_toUTF8 (s : String) : text? s.toUTF8.toList = some s := by
  have hall : ∀ cs : List Char, (cs.map some).mapM id = some cs := by
    intro cs
    induction cs with
    | nil => rfl
    | cons c cs ih => simp [ih]
  unfold text?
  rw [decode_toUTF8, hall, Option.map_some, String.ofList_toList]

end Utf8
end FailureAlarm
