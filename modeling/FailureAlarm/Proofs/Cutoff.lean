import FailureAlarm.Alarm.Basic
import Mathlib.Order.Defs.LinearOrder

/-!
# The start of a window

Instants are in a linear order, leap seconds included, and `Instant.cutoff` behaves with respect to it
as the start of a trailing window should:

* it is never later than `now`, and earlier if the window is not empty and there is an earlier
  instant at all (`cutoff_le`, `cutoff_lt`);
* a longer window starts no later (`cutoff_anti`);
* a window that ends later starts no earlier, as long as no leap second is involved (`cutoff_mono`).

The four facts are read off one description of the cutoff by its parts, `cutoff_parts`.
-/

namespace FailureAlarm
namespace Instant

/-! ### The order -/

instance : LinearOrder Instant where
  le_refl a := Or.inr ⟨rfl, Nat.le_refl _⟩
  le_trans a b c hab hbc := by
    rw [le_def] at hab hbc ⊢
    omega
  lt_iff_le_not_ge a b := by
    rw [lt_def, le_def, le_def]
    omega
  le_antisymm a b hab hba := by
    rw [le_def] at hab hba
    ext <;> omega
  le_total a b := by
    rw [le_def, le_def]
    omega
  toDecidableLE := inferInstance
  toDecidableEq := inferInstance
  toDecidableLT := inferInstance

/-- No instant is earlier than the first one. -/
theorem first_le (t : Instant) : Instant.min ≤ t := by
  rw [le_def]
  have h := t.valid.min_le
  show minSecs < t.secs ∨ minSecs = t.secs ∧ 0 ≤ t.nanos
  omega

/-! ### The cutoff by its parts -/

/-- A leap second counts as the second after the one that it belongs to, which is how an instant
in it moves backward. -/
def carry (t : Instant) : Nat := t.nanos / 1000000000

theorem carry_le_one (t : Instant) : t.carry ≤ 1 := by
  have h := t.valid.nanos_lt
  unfold carry
  omega

theorem carry_eq_zero {t : Instant} (h : ¬ t.IsLeap) : t.carry = 0 := by
  unfold IsLeap at h
  unfold carry
  omega

/-- Moving backward by whole seconds changes the seconds and puts the nanoseconds below a second. -/
theorem shift?_neg_seconds {t : Instant} {n : Nat} (h : 0 < n ∨ ¬ t.IsLeap) :
    t.shift? (-(n * 1000000000)) = ofParts? (t.secs + t.carry - n) (t.nanos % 1000000000) := by
  have hlt := t.valid.nanos_lt
  have hwhole : (-((n : Int) * 1000000000)).tdiv 1000000000 = -n := by
    rw [Int.neg_tdiv, Int.mul_tdiv_cancel _ (by decide)]
  unfold shift? ofNanoseconds? carry
  simp only [hwhole]
  by_cases hleap : t.IsLeap
  · have hn : 0 < n := h.resolve_right fun hn => hn hleap
    rw [if_pos hleap]
    unfold IsLeap at hleap
    rw [if_neg (by omega), if_pos (by omega)]
    congr 1 <;> omega
  · rw [if_neg hleap]
    unfold IsLeap at hleap
    congr 1 <;> omega

theorem cutoff_zero (now : Instant) : now.cutoff 0 = now := by
  have h : now.shift? 0 = some now := by
    unfold shift? ofNanoseconds?
    have hlt := now.valid.nanos_lt
    by_cases hleap : now.IsLeap
    · rw [if_pos hleap]
      simp [show ¬ 2000000000 ≤ (now.nanos : Int) by omega]
    · rw [if_neg hleap, ofParts?_eq_some]
      unfold IsLeap at hleap
      omega
  simp [cutoff, h]

/-- **The cutoff by its parts**: whole seconds back, or the first instant if there is none so
early. -/
theorem cutoff_parts (now : Instant) (window : Nat) (h : 0 < window ∨ ¬ now.IsLeap) :
    ((now.cutoff window).secs = now.secs + now.carry - window ∧
        (now.cutoff window).nanos = now.nanos % 1000000000) ∨
      (now.secs + now.carry - window < minSecs ∧ now.cutoff window = Instant.min) := by
  unfold cutoff
  rw [shift?_neg_seconds h]
  have hmax := now.valid.le_max
  have hcarry := now.carry_le_one
  by_cases hmin : minSecs ≤ now.secs + now.carry - window
  · have hle : now.secs + now.carry - window ≤ maxSecs := by
      rcases h with hpos | hleap
      · omega
      · rw [carry_eq_zero hleap]
        omega
    have hv : Valid (now.secs + now.carry - window) (now.nanos % 1000000000) :=
      ⟨hmin, hle, by omega, by omega⟩
    left
    simp [ofParts?, hv]
  · right
    have hv : ¬ Valid (now.secs + now.carry - window) (now.nanos % 1000000000) :=
      fun v => hmin v.min_le
    simp [ofParts?, hv]
    omega

/-! ### The cutoff and the order -/

/-- **A failure is inside the window at the moment it happens**, unless the window is empty or it
happens at the first instant. -/
theorem cutoff_lt {now : Instant} {window : Nat} (hw : 0 < window) (hnow : Instant.min < now) :
    now.cutoff window < now := by
  have hlt := now.valid.nanos_lt
  rcases cutoff_parts now window (Or.inl hw) with ⟨hs, hn⟩ | ⟨_, heq⟩
  · rw [lt_def, hs, hn]
    unfold carry
    omega
  · rw [heq]
    exact hnow

theorem cutoff_le (now : Instant) (window : Nat) : now.cutoff window ≤ now := by
  rcases Nat.eq_zero_or_pos window with rfl | hw
  · rw [cutoff_zero]
  · have hlt := now.valid.nanos_lt
    rcases cutoff_parts now window (Or.inl hw) with ⟨hs, hn⟩ | ⟨_, heq⟩
    · rw [le_def, hs, hn]
      unfold carry
      omega
    · rw [heq]
      exact first_le now

/-- A longer window starts no later. -/
theorem cutoff_anti (now : Instant) {w w' : Nat} (h : w ≤ w') : now.cutoff w' ≤ now.cutoff w := by
  rcases Nat.eq_zero_or_pos w with rfl | hw
  · rw [cutoff_zero]
    exact cutoff_le now w'
  · rcases cutoff_parts now w' (Or.inl (Nat.lt_of_lt_of_le hw h)) with ⟨hs, hn⟩ | ⟨_, heq⟩
    · rcases cutoff_parts now w (Or.inl hw) with ⟨hs', hn'⟩ | ⟨hlt, _⟩
      · rw [le_def, hs, hn, hs', hn']
        omega
      · have hmin := (now.cutoff w').valid.min_le
        omega
    · rw [heq]
      exact first_le _

/-- A window that ends later starts no earlier. Leap seconds are left out: moving backward, one
counts as the second after it. -/
theorem cutoff_mono {now later : Instant} (window : Nat) (hnow : ¬ now.IsLeap)
    (hlater : ¬ later.IsLeap) (h : now ≤ later) : now.cutoff window ≤ later.cutoff window := by
  rcases cutoff_parts now window (Or.inr hnow) with ⟨hs, hn⟩ | ⟨_, heq⟩
  · rcases cutoff_parts later window (Or.inr hlater) with ⟨hs', hn'⟩ | ⟨hlt, _⟩
    · rw [carry_eq_zero hnow] at hs
      rw [carry_eq_zero hlater] at hs'
      unfold IsLeap at hnow hlater
      rw [le_def] at h ⊢
      rw [hs, hn, hs', hn']
      omega
    · have hmin := (now.cutoff window).valid.min_le
      rw [carry_eq_zero hnow] at hs
      rw [carry_eq_zero hlater] at hlt
      rw [le_def] at h
      omega
  · rw [heq]
    exact first_le _

/-- From a leap second on, the start of the window can move backward. -/
example :
    let now : Instant := ⟨59, 1500000000, by decide⟩
    let later : Instant := ⟨60, 200000000, by decide⟩
    now ≤ later ∧ later.cutoff 60 < now.cutoff 60 := by decide

end Instant
end FailureAlarm
