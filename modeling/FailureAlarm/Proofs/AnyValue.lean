import FailureAlarm.Proofs.Record
import Mathlib.Data.List.Induction
import Mathlib.Data.String.Basic

/-!
# Any value comes out sorted

Where any value may stand, the members of its objects come out in the order of their keys, each key once
(`Value.IsSorted`, `Decoder.any_sorted`). No value has an empty text (`Value.text_ne_empty`).
-/

namespace FailureAlarm
namespace Json

open Digits

namespace Value

variable {key : String} {v : Value} {ms : List (String × Value)}

/-! ### Members in the order of their keys -/

/-- The keys increase. -/
def KeysIncrease (ms : List (String × Value)) : Prop := ms.Pairwise (·.1 < ·.1)

/-- Putting a member in brings no other one. -/
theorem mem_of_mem_put {m : String × Value} (h : m ∈ put key v ms) : m = (key, v) ∨ m ∈ ms := by
  induction ms with
  | nil => exact .inl (List.mem_singleton.mp h)
  | cons n ms ih =>
      obtain ⟨k, w⟩ := n
      rw [put] at h
      split at h
      · exact List.mem_cons.mp h
      split at h
      · rcases List.mem_cons.mp h with h | h
        · exact .inl h
        · exact .inr (List.mem_cons_of_mem _ h)
      · rcases List.mem_cons.mp h with rfl | h
        · exact .inr List.mem_cons_self
        · rcases ih h with h | h
          · exact .inl h
          · exact .inr (List.mem_cons_of_mem _ h)

/-- A member is put where its key belongs. -/
theorem keysIncrease_put (h : KeysIncrease ms) : KeysIncrease (put key v ms) := by
  induction ms with
  | nil => exact List.pairwise_singleton _ _
  | cons n ms ih =>
      obtain ⟨k, w⟩ := n
      obtain ⟨hfirst, hrest⟩ := List.pairwise_cons.mp h
      -- The new member goes before the first one, in its place, or somewhere behind it.
      rw [put]
      split
      · next hlt =>
          refine List.pairwise_cons.mpr ⟨fun m hm => ?_, h⟩
          rcases List.mem_cons.mp hm with rfl | hm
          · exact hlt
          · exact lt_trans hlt (hfirst m hm)
      split
      · next heq =>
          subst heq
          exact List.pairwise_cons.mpr ⟨hfirst, hrest⟩
      · next hnlt hne =>
          have hlt : k < key := lt_of_le_of_ne (not_lt.mp hnlt) (Ne.symm hne)
          refine List.pairwise_cons.mpr ⟨fun m hm => ?_, ih hrest⟩
          rcases mem_of_mem_put hm with rfl | hm
          · exact hlt
          · exact hfirst m hm

/-- The last member is put in last. -/
theorem sorted_concat (ms : List (String × Value)) (key : String) (v : Value) :
    sorted (ms ++ [(key, v)]) = put key v (sorted ms) := by
  unfold sorted
  rw [List.foldl_append]
  rfl

/-- What putting in each of the members keeps holds of the sorted members. -/
theorem sorted_induction {P : List (String × Value) → Prop} (hnil : P [])
    (hput : ∀ key v, (key, v) ∈ ms → ∀ acc, P acc → P (put key v acc)) : P (sorted ms) := by
  have hfold : ∀ (rest acc : List (String × Value)), (∀ m ∈ rest, m ∈ ms) → P acc →
      P (rest.foldl (fun acc m => put m.1 m.2 acc) acc) := by
    intro rest
    induction rest with
    | nil => exact fun _ _ h => h
    | cons m rest ih =>
        intro acc hms h
        obtain ⟨hm, hrest⟩ := List.forall_mem_cons.mp hms
        exact ih _ hrest (hput m.1 m.2 hm acc h)
  exact hfold ms [] (fun _ h => h) hnil

theorem keysIncrease_sorted (ms : List (String × Value)) : KeysIncrease (sorted ms) :=
  sorted_induction .nil fun _ _ _ _ h => keysIncrease_put h

theorem mem_of_mem_sorted {m : String × Value} (h : m ∈ sorted ms) : m ∈ ms := by
  have hall : ∀ m ∈ sorted ms, m ∈ ms := by
    apply sorted_induction (P := fun acc => ∀ m ∈ acc, m ∈ ms)
    · rintro m ⟨⟩
    · intro key v hmem acc h m hm
      rcases mem_of_mem_put hm with rfl | hm
      · exact hmem
      · exact h m hm
  exact hall m h

mutual

/-- The keys of every object in a value increase. -/
def IsSorted : Value → Prop
  | null | bool _ | number _ | string _ => True
  | array items => AreSorted items
  | object members => KeysIncrease members ∧ MembersAreSorted members

/-- The keys of every object in the items increase. -/
def AreSorted : List Value → Prop
  | [] => True
  | v :: vs => v.IsSorted ∧ AreSorted vs

/-- The keys of every object in the values of members increase. -/
def MembersAreSorted : List (String × Value) → Prop
  | [] => True
  | (_, v) :: ms => v.IsSorted ∧ MembersAreSorted ms

end

theorem membersAreSorted_iff : MembersAreSorted ms ↔ ∀ m ∈ ms, m.2.IsSorted := by
  induction ms with
  | nil => simp [MembersAreSorted]
  | cons m ms ih => simp only [MembersAreSorted, ih, List.forall_mem_cons]

theorem isSorted_object (h : MembersAreSorted ms) : (object (sorted ms)).IsSorted := by
  rw [membersAreSorted_iff] at h
  refine ⟨keysIncrease_sorted ms, membersAreSorted_iff.mpr fun m hm => ?_⟩
  exact h m (mem_of_mem_sorted hm)

/-! ### Texts -/

theorem positional_ne_nil (d : Decimal) (tail : List Char) : d.positional tail ≠ [] := by
  have hdigits := digits_ne_nil d.digits
  unfold Decimal.positional
  dsimp only
  split
  · simp [hdigits]
  split
  · simp
  · simp

theorem scientific_ne_nil (d : Decimal) : d.scientific ≠ [] := by
  simp [Decimal.scientific]

/-- A number is written with at least one character. -/
theorem number_ne_nil (n : Number) : n.text ≠ [] := by
  cases n with
  | integer n =>
      have hdigits := digits_ne_nil n.natAbs
      show Digits.ofInt n ≠ []
      unfold Digits.ofInt
      split
      · simp
      · exact hdigits
  | real x =>
      show Number.realText x ≠ []
      intro h
      unfold Number.realText at h
      obtain ⟨-, hbody⟩ := List.append_eq_nil_iff.mp h
      split at hbody
      · exact positional_ne_nil _ _ hbody
      · exact scientific_ne_nil _ hbody

/-- **No text of a value is empty.** -/
theorem text_ne_empty (v : Value) : v.text ≠ "" := by
  have hchars : v.chars ≠ [] := by
    cases v with
    | number n => exact number_ne_nil n
    | null => exact List.cons_ne_nil _ _
    | bool b =>
        cases b with
        | true => exact List.cons_ne_nil _ _
        | false => exact List.cons_ne_nil _ _
    | string s => exact List.cons_ne_nil _ _
    | array vs => exact List.cons_ne_nil _ _
    | object ms => exact List.cons_ne_nil _ _
  intro h
  apply hchars
  rw [← String.toList_ofList (l := v.chars)]
  exact congrArg String.toList h

end Value

namespace Decoder

open Value (IsSorted AreSorted MembersAreSorted)

/-- An array is read item by item, one level further down. -/
theorem any_array {items : List Tree} {closed : Bool} {depth : Nat} {v : Value}
    (h : any depth (.array items closed) = .ok v) :
    ∃ vs, anyItems (depth + 1) items = .ok vs ∧ v = .array vs := by
  rw [any] at h
  split at h
  · obtain ⟨vs, hitems, hclosed⟩ := ok_of_bind h
    split at hclosed
    · cases hclosed
      exact ⟨vs, hitems, rfl⟩
    · cases hclosed
  · cases h

/-- An object is read member by member, and the members come out in the order of their keys. -/
theorem any_object {members : List (Option String × Tree)} {closed : Bool} {depth : Nat} {v : Value}
    (h : any depth (.object members closed) = .ok v) :
    ∃ ms, anyMembers (depth + 1) members = .ok ms ∧ v = .object (Value.sorted ms) := by
  rw [any] at h
  split at h
  · obtain ⟨ms, hmembers, hclosed⟩ := ok_of_bind h
    split at hclosed
    · cases hclosed
      exact ⟨ms, hmembers, rfl⟩
    · cases hclosed
  · cases h

mutual

/-- **Any value comes out sorted.** -/
theorem any_sorted : ∀ {t : Tree} {depth : Nat} {v : Value}, any depth t = .ok v → v.IsSorted
  | .null, _, _, h | .bool _, _, _, h | .number (some _), _, _, h | .string (some _), _, _, h => by
    cases h
    trivial
  | .array _ _, _, _, h => by
    obtain ⟨vs, hitems, rfl⟩ := any_array h
    exact anyItems_sorted hitems
  | .object _ _, _, _, h => by
    obtain ⟨ms, hmembers, rfl⟩ := any_object h
    exact Value.isSorted_object (anyMembers_sorted hmembers)
  | .number none, _, _, h | .string none, _, _, h | .oddKey _, _, _, h | .broken, _, _, h => by
    cases h

/-- The values of items come out sorted. -/
theorem anyItems_sorted : ∀ {ts : List Tree} {depth : Nat} {vs : List Value},
    anyItems depth ts = .ok vs → AreSorted vs
  | [], _, _, h => by
    cases h
    trivial
  | t :: ts, depth, vs, h => by
    rw [anyItems] at h
    obtain ⟨v, hv, hrest⟩ := ok_of_bind h
    obtain ⟨vs, hvs, hlist⟩ := ok_of_bind hrest
    cases hlist
    exact ⟨any_sorted hv, anyItems_sorted hvs⟩

/-- The values of members come out sorted. -/
theorem anyMembers_sorted : ∀ {ts : List (Option String × Tree)} {depth : Nat}
    {ms : List (String × Value)}, anyMembers depth ts = .ok ms → MembersAreSorted ms
  | [], _, _, h => by
    cases h
    trivial
  | (none, _) :: _, _, _, h => by cases h
  | (some key, t) :: ts, depth, ms, h => by
    rw [anyMembers] at h
    obtain ⟨v, hv, hrest⟩ := ok_of_bind h
    obtain ⟨ms, hms, hlist⟩ := ok_of_bind hrest
    cases hlist
    exact ⟨any_sorted hv, anyMembers_sorted hms⟩

end

end Decoder
end Json
end FailureAlarm
