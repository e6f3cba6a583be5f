import FailureAlarm.Text.Digits
import Mathlib.Data.List.TakeWhile

/-!
# Numerals

What is written in decimal is read back: `value_digits` and `value_padded`. Both texts consist of digits,
and there is at least one, so in a longer text the readers find them up to the first character that is
no digit (`leading_append`). Only the number zero is written with a zero in front (`head_digits`), and a
numeral that is filled up with zeros has the width that was asked for (`length_padded`).
-/

namespace FailureAlarm
namespace Digits

/-! ### Digits -/

theorem isDigit_eq (c : Char) : isDigit c = c.isDigit := by
  unfold isDigit Char.isDigit
  rfl

/-- The code points of digits. -/
theorem toNat_of_isDigit {c : Char} (h : isDigit c = true) : 48 ≤ c.toNat ∧ c.toNat ≤ 57 := by
  simpa [isDigit, Char.le_def, UInt32.le_iff_toNat_le] using h

/-- A number is written in digits. -/
theorem isDigit_of_mem_digits {n : Nat} {c : Char} (h : c ∈ digits n) : isDigit c = true := by
  rw [isDigit_eq]
  exact Nat.isDigit_of_mem_toDigits (by decide) (by decide) h

theorem digits_ne_nil (n : Nat) : digits n ≠ [] := Nat.toDigits_ne_nil

/-- A character that is no digit is not among the digits of a number. -/
theorem ne_of_isDigit {c d : Char} (hc : isDigit c = true) (hd : isDigit d = false) : c ≠ d := by
  rintro rfl
  rw [hc] at hd
  cases hd

/-- Digits are found in a longer text, together with those that follow them. -/
theorem leading_append {ds : List Char} (h : ∀ c ∈ ds, isDigit c = true) (rest : List Char) :
    leading (ds ++ rest) = ds ++ leading rest :=
  List.takeWhile_append_of_pos h

/-- No digit stands at the head of the text. -/
def Ended (rest : List Char) : Prop := ∀ c ∈ rest.head?, isDigit c = false

/-- A run of digits that has ended has no more of them. -/
theorem leading_of_ended {rest : List Char} (h : Ended rest) : leading rest = [] := by
  cases rest with
  | nil => rfl
  | cons c rest => exact List.takeWhile_cons_of_neg (Bool.eq_false_iff.mp (h c rfl))

/-! ### Values -/

/-- The value of digits that stand after others with the value `n`. -/
def valueFrom (n : Nat) (cs : List Char) : Nat := cs.foldl (fun n c => n * 10 + digitValue c) n

theorem value_eq (cs : List Char) : value cs = valueFrom 0 cs := rfl

/-- The value of digits is that of the library. -/
theorem valueFrom_eq (n : Nat) (cs : List Char) : valueFrom n cs = Nat.ofDigitChars 10 cs n := by
  induction cs generalizing n with
  | nil => rfl
  | cons c cs ih =>
      show valueFrom (n * 10 + digitValue c) cs = Nat.ofDigitChars 10 cs (10 * n + (c.toNat - 48))
      rw [ih, Nat.mul_comm n 10]
      rfl

/-- Digits make a number no smaller. -/
theorem le_valueFrom (n : Nat) (cs : List Char) : n ≤ valueFrom n cs := by
  induction cs generalizing n with
  | nil => exact Nat.le_refl n
  | cons c cs ih =>
      have hstep := ih (n * 10 + digitValue c)
      exact Nat.le_trans (by omega) hstep

/-- **The digits of a number are read as that number.** -/
theorem value_digits (n : Nat) : value (digits n) = n := by
  rw [value_eq, valueFrom_eq]
  exact Nat.ofDigitChars_toDigits (by decide) (by decide)

/-- Only zero begins with a zero. The induction is on the number, whose last digit comes off the end. -/
theorem head_digits {n : Nat} (h : (digits n).head? = some '0') : n = 0 := by
  induction n using Nat.strongRecOn with
  | ind n ih =>
      unfold digits at h ih
      rw [Nat.toDigits_eq_if (by decide)] at h
      split at h
      · next hlt =>
          have hall : ∀ k : Fin 10, some (Nat.digitChar k) = some '0' → k.val = 0 := by decide
          exact hall ⟨n, hlt⟩ h
      · next hge =>
          have hhead : (Nat.toDigits 10 (n / 10)).head? = some '0' := by
            obtain ⟨c, cs, hcs⟩ := List.exists_cons_of_ne_nil (digits_ne_nil (n / 10))
            unfold digits at hcs
            rw [hcs] at h ⊢
            exact h
          have hzero := ih (n / 10) (by omega) hhead
          omega

/-! ### Numerals of a given width -/

theorem isDigit_of_mem_padded (width n : Nat) : ∀ c ∈ padded width n, isDigit c = true := by
  intro c hc
  rcases List.mem_append.mp hc with hc | hc
  · rw [List.eq_of_mem_replicate hc]
    decide
  · exact isDigit_of_mem_digits hc

theorem padded_ne_nil (width n : Nat) : padded width n ≠ [] := by
  intro h
  exact digits_ne_nil n (List.append_eq_nil_iff.mp h).2

/-- **Zeros on the left do not change the number.** -/
theorem value_padded (width n : Nat) : value (padded width n) = n := by
  have hzeros : ∀ k, valueFrom 0 (List.replicate k '0') = 0 := by
    intro k
    induction k with
    | zero => rfl
    | succ k ih => exact ih
  calc value (padded width n)
      = valueFrom (valueFrom 0 (List.replicate (width - (digits n).length) '0')) (digits n) :=
        List.foldl_append
    _ = value (digits n) := by rw [hzeros, value_eq]
    _ = n := value_digits n

/-- A number with no more digits than the width has the width when it is padded. -/
theorem length_padded {width n : Nat} (hpos : 0 < width) (h : n < Nat.pow 10 width) :
    (padded width n).length = width := by
  have hle : (digits n).length ≤ width :=
    (Nat.length_toDigits_le_iff (by decide) hpos).mpr h
  unfold padded
  rw [List.length_append, List.length_replicate]
  omega

/-! ### Whole numbers -/

/-- An integer is written in digits and perhaps a minus sign. -/
theorem isDigit_or_minus_of_mem_ofInt {n : Int} {c : Char} (h : c ∈ ofInt n) :
    isDigit c = true ∨ c = '-' := by
  unfold ofInt at h
  split at h
  · rcases List.mem_cons.mp h with hminus | hdigit
    · exact .inr hminus
    · exact .inl (isDigit_of_mem_digits hdigit)
  · exact .inl (isDigit_of_mem_digits h)

/-- Digits without a sign are read as they stand. -/
theorem signed?_digits (n : Nat) : signed? (digits n) = some (n : Int) := by
  have hall : (digits n).all isDigit = true := List.all_eq_true.mpr fun c hc => isDigit_of_mem_digits hc
  have hvalue := value_digits n
  obtain ⟨c, cs, hcs⟩ := List.exists_cons_of_ne_nil (digits_ne_nil n)
  have hc : isDigit c = true := isDigit_of_mem_digits (n := n) (hcs ▸ List.mem_cons_self)
  have hminus : c ≠ '-' := ne_of_isDigit hc (by decide)
  have hplus : c ≠ '+' := ne_of_isDigit hc (by decide)
  rw [hcs] at hall hvalue ⊢
  simp [signed?, unsigned?, hminus, hplus, hall, hvalue]

/-- **The text of a whole number is read as that number.** -/
theorem signed?_ofInt (n : Int) : signed? (ofInt n) = some n := by
  unfold ofInt
  split
  · next hneg =>
      have hall : (digits n.natAbs).all isDigit = true :=
        List.all_eq_true.mpr fun c hc => isDigit_of_mem_digits hc
      rw [signed?, if_pos ⟨digits_ne_nil _, hall⟩, value_digits]
      congr 1
      omega
  · next hpos =>
      rw [signed?_digits]
      congr 1
      omega

end Digits
end FailureAlarm
