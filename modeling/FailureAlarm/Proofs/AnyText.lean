import FailureAlarm.Proofs.AnyValue

/-!
# Any value is read back in order

The text of a value that is read as any value gives the value with the members of its objects in the order
of their keys (`Value.inOrder`, `Decoder.any_tree`), if its arrays and objects are not nested too deep
(`Value.height`). Members whose keys increase already stay as they are (`Value.sorted_eq`).
-/

namespace FailureAlarm
namespace Json

namespace Value

mutual

/-- How deep arrays and objects are nested in a value. -/
def height : Value → Nat
  | null | bool _ | number _ | string _ => 0
  | array items => itemsHeight items + 1
  | object members => membersHeight members + 1

/-- How deep arrays and objects are nested in items. -/
def itemsHeight : List Value → Nat
  | [] => 0
  | v :: vs => max v.height (itemsHeight vs)

/-- How deep arrays and objects are nested in the values of members. -/
def membersHeight : List (String × Value) → Nat
  | [] => 0
  | (_, v) :: ms => max v.height (membersHeight ms)

end

mutual

/-- The value with the members of its objects in the order of their keys. -/
def inOrder : Value → Value
  | null => null
  | bool b => bool b
  | number n => number n
  | string s => string s
  | array items => array (itemsInOrder items)
  | object members => object (sorted (membersInOrder members))

/-- Items with the members of their objects in the order of their keys. -/
def itemsInOrder : List Value → List Value
  | [] => []
  | v :: vs => v.inOrder :: itemsInOrder vs

/-- Members in their own order, but with the members of the objects inside in the order of their keys. -/
def membersInOrder : List (String × Value) → List (String × Value)
  | [] => []
  | (k, v) :: ms => (k, v.inOrder) :: membersInOrder ms

end

theorem keysIncrease_iff {ms : List (String × Value)} :
    KeysIncrease ms ↔ (ms.map (·.1)).Pairwise (· < ·) := List.pairwise_map.symm

/-- A member whose key is after all others goes to the end. -/
theorem put_eq_concat {key : String} {v : Value} {ms : List (String × Value)}
    (h : ∀ m ∈ ms, m.1 < key) : put key v ms = ms ++ [(key, v)] := by
  induction ms with
  | nil => rfl
  | cons m ms ih =>
      obtain ⟨k, w⟩ := m
      obtain ⟨hlt, hrest⟩ := List.forall_mem_cons.mp h
      rw [put, if_neg (lt_asymm hlt), if_neg (ne_of_gt hlt), ih hrest, List.cons_append]

/-- **Members whose keys increase are in order already.** -/
theorem sorted_eq {ms : List (String × Value)} (h : KeysIncrease ms) : sorted ms = ms := by
  induction ms using List.reverseRecOn with
  | nil => rfl
  | append_singleton ms m ih =>
      obtain ⟨key, v⟩ := m
      obtain ⟨hms, -, hlast⟩ := List.pairwise_append.mp h
      rw [sorted_concat, ih hms]
      exact put_eq_concat fun m hm => hlast m hm (key, v) List.mem_cons_self

end Value

namespace Decoder

open Value (itemTrees memberTrees itemsHeight membersHeight itemsInOrder membersInOrder)

mutual

/-- **Any value is read as it is, in order.** -/
theorem any_tree : ∀ (v : Value) (depth : Nat), depth + v.height ≤ 127 →
    any depth v.tree = .ok v.inOrder
  | .null, _, _ | .bool _, _, _ | .number _, _, _ | .string _, _, _ => by
    simp only [Value.tree, any, Value.inOrder]
  | .array vs, depth, h => by
    rw [Value.height] at h
    have hnest : mayNest depth = true := decide_eq_true (by omega)
    have hitems := anyItems_trees vs (depth + 1) (by omega)
    rw [Value.tree, any, if_pos hnest, hitems]
    rfl
  | .object ms, depth, h => by
    rw [Value.height] at h
    have hnest : mayNest depth = true := decide_eq_true (by omega)
    have hmembers := anyMembers_trees ms (depth + 1) (by omega)
    rw [Value.tree, any, if_pos hnest, hmembers]
    rfl

/-- Items are read as they are, in order. -/
theorem anyItems_trees : ∀ (vs : List Value) (depth : Nat), depth + itemsHeight vs ≤ 127 →
    anyItems depth (itemTrees vs) = .ok (itemsInOrder vs)
  | [], _, _ => rfl
  | v :: vs, depth, h => by
    rw [itemsHeight] at h
    have hv := any_tree v depth (by omega)
    have hvs := anyItems_trees vs depth (by omega)
    rw [itemTrees, anyItems, hv, hvs]
    rfl

/-- Members are read as they are, with the objects inside in order. -/
theorem anyMembers_trees : ∀ (ms : List (String × Value)) (depth : Nat),
    depth + membersHeight ms ≤ 127 → anyMembers depth (memberTrees ms) = .ok (membersInOrder ms)
  | [], _, _ => rfl
  | (k, v) :: ms, depth, h => by
    rw [membersHeight] at h
    have hv := any_tree v depth (by omega)
    have hms := anyMembers_trees ms depth (by omega)
    rw [memberTrees, anyMembers, hv, hms]
    rfl

end

end Decoder
end Json
end FailureAlarm
