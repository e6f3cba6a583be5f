import FailureAlarm.Proofs.Record
import FailureAlarm.Toml.Document

/-!
# The keys of a table are different

No table of a document has a key twice, at any depth (`Value.IsKeyed`). While a document is read, this
holds of all its drafts (`Draft.IsKeyed`): a member is changed where its key stands, and a new one is only
added if its key does not stand there yet (`areKeyed_update`). Every operation on drafts is made of such
changes, and every line of such operations, so it holds of what a text is read as (`Document.read_keyed`).
-/

namespace FailureAlarm
namespace Toml

open Json.Decoder (ok_of_bind)

/-- The keys of every table in the value are different. -/
inductive Value.IsKeyed : Value → Prop
  | text (s : String) : IsKeyed (.text s)
  | integer (n : Int) : IsKeyed (.integer n)
  | real (x : Floating) : IsKeyed (.real x)
  | bool (b : Bool) : IsKeyed (.bool b)
  | moment (s : String) : IsKeyed (.moment s)
  | array {items : List Value} : (∀ v ∈ items, IsKeyed v) → IsKeyed (.array items)
  | table {members : List (String × Value)} : (members.map (·.1)).Nodup →
      (∀ m ∈ members, IsKeyed m.2) → IsKeyed (.table members)

namespace Draft

/-- The keys of every table in the draft are different. -/
inductive IsKeyed : Draft → Prop
  | value {v : Value} : v.IsKeyed → IsKeyed (.value v)
  | table {maker : Maker} {members : Members} : (members.map (·.1)).Nodup →
      (∀ m ∈ members, IsKeyed m.2) → IsKeyed (.table maker members)
  | tables {items : List Members} : (∀ ms ∈ items, (ms.map (·.1)).Nodup) →
      (∀ ms ∈ items, ∀ m ∈ ms, IsKeyed m.2) → IsKeyed (.tables items)

/-- The keys of the members are different, and so are those of every table in them. -/
structure AreKeyed (ms : Members) : Prop where
  nodup : (ms.map (·.1)).Nodup
  members : ∀ m ∈ ms, m.2.IsKeyed

/-- A change of a table after which its keys are different, if they were so before. -/
def Keeps (change : Members → Option Members) : Prop :=
  ∀ ms ms', AreKeyed ms → change ms = some ms' → AreKeyed ms'

/-- A change of a member after which all keys in it are different, if they were so before. -/
def KeepsMember (change : Option Draft → Option Draft) : Prop :=
  ∀ old d, (∀ d' ∈ old, d'.IsKeyed) → change old = some d → d.IsKeyed

theorem areKeyed_nil : AreKeyed [] := ⟨List.nodup_nil, fun _ hm => by cases hm⟩

theorem areKeyed_table {maker : Maker} {ms : Members} (h : (Draft.table maker ms).IsKeyed) :
    AreKeyed ms := by
  cases h with
  | table hnodup hmembers => exact ⟨hnodup, hmembers⟩

/-- Who has made a table does not matter for its keys. -/
theorem isKeyed_table {ms : Members} (h : AreKeyed ms) (maker : Maker) :
    (Draft.table maker ms).IsKeyed := .table h.nodup h.members

theorem areKeyed_tables {items : List Members} (h : (Draft.tables items).IsKeyed) :
    ∀ ms ∈ items, AreKeyed ms := by
  cases h with
  | tables hnodup hmembers => exact fun ms hms => ⟨hnodup ms hms, hmembers ms hms⟩

theorem isKeyed_tables {items : List Members} (h : ∀ ms ∈ items, AreKeyed ms) :
    (Draft.tables items).IsKeyed :=
  .tables (fun ms hms => (h ms hms).nodup) fun ms hms => (h ms hms).members

/-! ### Changes -/

/-- A member in front keeps the keys different if its key is new. -/
theorem areKeyed_cons {k : String} {d : Draft} {ms : Members} :
    AreKeyed ((k, d) :: ms) ↔ k ∉ ms.map (·.1) ∧ d.IsKeyed ∧ AreKeyed ms := by
  constructor
  · intro h
    obtain ⟨hnew, hnodup⟩ := List.nodup_cons.mp h.nodup
    obtain ⟨hd, hmembers⟩ := List.forall_mem_cons.mp h.members
    exact ⟨hnew, hd, hnodup, hmembers⟩
  · rintro ⟨hnew, hd, hms⟩
    exact ⟨List.nodup_cons.mpr ⟨hnew, hms.nodup⟩, List.forall_mem_cons.mpr ⟨hd, hms.members⟩⟩

/-- No key but that of the member comes in. -/
theorem mem_keys_update {key k : String} {change : Option Draft → Option Draft} {ms ms' : Members}
    (h : update key change ms = some ms') (hk : k ∈ ms'.map (·.1)) : k = key ∨ k ∈ ms.map (·.1) := by
  induction ms generalizing ms' with
  | nil =>
      obtain ⟨d, -, rfl⟩ := Option.map_eq_some_iff.mp h
      exact .inl (List.mem_singleton.mp hk)
  | cons m ms ih =>
      obtain ⟨k', d⟩ := m
      rw [update] at h
      split at h
      · obtain ⟨d', -, rfl⟩ := Option.map_eq_some_iff.mp h
        exact .inr hk
      · obtain ⟨ms'', hrest, rfl⟩ := Option.map_eq_some_iff.mp h
        rcases List.mem_cons.mp hk with rfl | hk
        · exact .inr List.mem_cons_self
        · exact (ih hrest hk).imp_right (List.mem_cons_of_mem _)

/-- **A change of one member keeps the keys different.** The member is changed where its key stands; it is
added only at the end of a search that has not found the key, so that it is new then. -/
theorem areKeyed_update {change : Option Draft → Option Draft} (hchange : KeepsMember change)
    (key : String) : Keeps (update key change) := by
  intro ms
  induction ms with
  | nil =>
      intro ms' _ h
      obtain ⟨d, hd, rfl⟩ := Option.map_eq_some_iff.mp h
      have hkeyed := hchange none d (fun _ h => by cases h) hd
      exact areKeyed_cons.mpr ⟨List.not_mem_nil, hkeyed, areKeyed_nil⟩
  | cons m ms ih =>
      intro ms' hms h
      obtain ⟨k, d⟩ := m
      obtain ⟨hnew, hd, hrest⟩ := areKeyed_cons.mp hms
      rw [update] at h
      split at h
      · obtain ⟨d', hd', rfl⟩ := Option.map_eq_some_iff.mp h
        have hkeyed := hchange (some d) d' (fun _ h => by cases h; exact hd) hd'
        exact areKeyed_cons.mpr ⟨hnew, hkeyed, hrest⟩
      · next hne =>
          obtain ⟨ms'', hupdate, rfl⟩ := Option.map_eq_some_iff.mp h
          -- The rest can have got the key that is looked for, and this member has another one.
          refine areKeyed_cons.mpr ⟨fun hk => ?_, hd, ih ms'' hrest hupdate⟩
          rcases mem_keys_update hupdate hk with heq | hin
          · exact hne heq
          · exact hnew hin

/-- A header that leads into an array of tables leads into its last one. The others stay as they are. -/
theorem areKeyed_updateLast {change : Members → Option Members} (hchange : Keeps change)
    {items items' : List Members} (hitems : ∀ ms ∈ items, AreKeyed ms)
    (h : updateLast change items = some items') : ∀ ms ∈ items', AreKeyed ms := by
  induction items generalizing items' with
  | nil => cases h
  | cons ms items ih =>
      obtain ⟨hms, hrest⟩ := List.forall_mem_cons.mp hitems
      cases items with
      | nil =>
          obtain ⟨ms', hms', rfl⟩ := Option.map_eq_some_iff.mp h
          exact List.forall_mem_singleton.mpr (hchange ms ms' hms hms')
      | cons ms₂ items =>
          rw [updateLast] at h
          · obtain ⟨items'', hupdate, rfl⟩ := Option.map_eq_some_iff.mp h
            exact List.forall_mem_cons.mpr ⟨hms, ih hrest hupdate⟩
          · rintro ⟨⟩

/-- A change at the end of the path of a header. -/
theorem keeps_descend {change : Members → Option Members} (hchange : Keeps change)
    (path : List String) : Keeps (descend change path) := by
  induction path with
  | nil =>
      intro ms ms' hms h
      exact hchange ms ms' hms h
  | cons key path ih =>
      intro ms ms' hms h
      refine areKeyed_update ?_ key ms ms' hms h
      intro old d hold hd
      dsimp only at hd
      -- On the way the path goes into a new table, a table that is there, or the last of an array.
      split at hd
      · obtain ⟨inner, hinner, rfl⟩ := Option.map_eq_some_iff.mp hd
        exact isKeyed_table (ih [] inner areKeyed_nil hinner) _
      · cases hd
      · next maker inner =>
          obtain ⟨inner', hinner, rfl⟩ := Option.map_eq_some_iff.mp hd
          exact isKeyed_table (ih _ _ (areKeyed_table (hold _ rfl)) hinner) _
      · next items =>
          obtain ⟨items', hitems, rfl⟩ := Option.map_eq_some_iff.mp hd
          exact isKeyed_tables (areKeyed_updateLast ih (areKeyed_tables (hold _ rfl)) hitems)

/-- The header of a table begins a new one, or takes over one that has only been passed through. -/
theorem keepsMember_beginTable : KeepsMember beginTable := by
  intro old d hold hd
  unfold beginTable at hd
  split at hd
  · cases hd
    exact isKeyed_table areKeyed_nil _
  · cases hd
    exact isKeyed_table (areKeyed_table (hold _ rfl)) _
  · cases hd

/-- The header of an item begins a new table at the end of its array. It shares no keys with those before.
-/
theorem keepsMember_beginItem : KeepsMember beginItem := by
  intro old d hold hd
  unfold beginItem at hd
  split at hd
  · cases hd
    exact isKeyed_tables (List.forall_mem_singleton.mpr areKeyed_nil)
  · next items =>
      cases hd
      refine isKeyed_tables fun ms hms => ?_
      rcases List.mem_append.mp hms with hms | hms
      · exact areKeyed_tables (hold _ rfl) ms hms
      · rw [List.mem_singleton.mp hms]
        exact areKeyed_nil
  · cases hd

/-- A value is placed under a dotted key. -/
theorem keeps_place (key : String) {v : Value} (hv : v.IsKeyed) (path : List String)
    (mayAdd : Bool) : Keeps (place key v path mayAdd) := by
  induction path generalizing mayAdd with
  | nil =>
      intro ms ms' hms h
      rw [place] at h
      -- At the end of the path the value is put in, if nothing is there yet.
      split at h
      · refine areKeyed_update ?_ key ms ms' hms h
        intro old d _ hd
        dsimp only at hd
        split at hd
        · cases hd
        · cases hd
          exact .value hv
      · cases h
  | cons k path ih =>
      intro ms ms' hms h
      refine areKeyed_update ?_ k ms ms' hms h
      intro old d hold hd
      dsimp only at hd
      split at hd
      -- Further up a table is entered: a new one, one that is there, or the last of an array of tables.
      · obtain ⟨inner, hinner, rfl⟩ := Option.map_eq_some_iff.mp hd
        exact isKeyed_table (ih _ [] inner areKeyed_nil hinner) _
      · cases hd
      · cases hd
      · next maker inner _ =>
          obtain ⟨inner', hinner, rfl⟩ := Option.map_eq_some_iff.mp hd
          exact isKeyed_table (ih _ _ _ (areKeyed_table (hold _ rfl)) hinner) _
      · next items =>
          obtain ⟨items', hitems, rfl⟩ := Option.map_eq_some_iff.mp hd
          exact isKeyed_tables (areKeyed_updateLast (ih _) (areKeyed_tables (hold _ rfl)) hitems)

/-! ### Finished tables -/

/-- To finish the members is to finish each by itself; the recursion of `closeMembers` only makes that
visible as structural. -/
theorem closeMembers_eq (ms : Members) : closeMembers ms = ms.map fun m => (m.1, close m.2) := by
  induction ms with
  | nil => rfl
  | cons m ms ih => rw [closeMembers, ih, List.map_cons]

/-- Each item of an array of tables becomes a table. -/
theorem closeItems_eq (items : List Members) :
    closeItems items = items.map fun ms => .table (closeMembers ms) := by
  induction items with
  | nil => rfl
  | cons ms items ih => rw [closeItems, ih, List.map_cons]

/-- A table is finished when its members are. -/
theorem isKeyed_closeMembers {ms : Members} (hnodup : (ms.map (·.1)).Nodup)
    (hclose : ∀ m ∈ ms, (close m.2).IsKeyed) : (Value.table (closeMembers ms)).IsKeyed := by
  rw [closeMembers_eq]
  refine .table ?_ ?_
  · rw [List.map_map]
    exact hnodup
  · intro m' hm'
    obtain ⟨m, hm, rfl⟩ := List.mem_map.mp hm'
    exact hclose m hm

/-- **A finished draft has different keys.** The induction is on how the draft is known to be keyed, which
goes as deep as the draft does. -/
theorem isKeyed_close {d : Draft} (h : d.IsKeyed) : (close d).IsKeyed := by
  induction h with
  | value hv => exact hv
  | table hnodup _ ih => exact isKeyed_closeMembers hnodup ih
  | tables hnodup _ ih =>
      rw [close, closeItems_eq]
      refine .array fun v hv => ?_
      obtain ⟨ms, hms, rfl⟩ := List.mem_map.mp hv
      exact isKeyed_closeMembers (hnodup ms hms) (ih ms hms)

theorem AreKeyed.close {ms : Members} (h : AreKeyed ms) : (Value.table (closeMembers ms)).IsKeyed :=
  isKeyed_closeMembers h.nodup fun m hm => isKeyed_close (h.members m hm)

end Draft

/-! ### Values that are read -/

theorem isKeyed_integer {n : Int} {v : Value} (h : integer? n = some v) : v.IsKeyed := by
  unfold integer? at h
  split at h
  · cases h
    exact .integer n
  · cases h

theorem isKeyed_real {negative : Bool} {n : Floating.Numeral} {v : Value}
    (h : real? negative n = some v) : v.IsKeyed := by
  unfold real? at h
  split at h
  · cases h
  · cases h
    exact .real _

/-- A decimal number is a real one if it has a fraction or an exponent, and else an integer. -/
theorem isKeyed_decimal {negative : Bool} {cs rest : List Char} {v : Value}
    (h : decimal negative cs = some (v, rest)) : v.IsKeyed := by
  obtain ⟨⟨whole, cs⟩, -, h⟩ := Option.bind_eq_some_iff.mp h
  dsimp only at h
  split at h
  · obtain ⟨⟨fraction, cs⟩, -, h⟩ := Option.bind_eq_some_iff.mp h
    obtain ⟨⟨e, cs⟩, -, h⟩ := Option.bind_eq_some_iff.mp h
    obtain ⟨x, hx, hv⟩ := Option.map_eq_some_iff.mp h
    cases hv
    exact isKeyed_real hx
  · obtain ⟨⟨e, cs⟩, -, h⟩ := Option.bind_eq_some_iff.mp h
    split at h
    · obtain ⟨x, hx, hv⟩ := Option.map_eq_some_iff.mp h
      cases hv
      exact isKeyed_real hx
    · obtain ⟨x, hx, hv⟩ := Option.map_eq_some_iff.mp h
      cases hv
      exact isKeyed_integer hx

theorem isKeyed_based {base : Nat} {cs rest : List Char} {v : Value}
    (h : based base cs = some (v, rest)) : v.IsKeyed := by
  obtain ⟨⟨ds, cs⟩, -, h⟩ := Option.bind_eq_some_iff.mp h
  obtain ⟨x, hx, hv⟩ := Option.map_eq_some_iff.mp h
  cases hv
  exact isKeyed_integer hx

/-- A number is written in a base, or as one of the names of infinity and of what is no number, or in
decimals. -/
theorem isKeyed_number {cs rest : List Char} {v : Value} (h : number cs = some (v, rest)) :
    v.IsKeyed := by
  unfold number at h
  split at h
  · exact isKeyed_based h
  · exact isKeyed_based h
  · exact isKeyed_based h
  · dsimp only at h
    split at h
    · cases h
      exact .real _
    · cases h
      exact .real _
    · exact isKeyed_decimal h

/-- A moment is a time of day, a date, or both, with an offset or without one. However it is written, it
is a moment. -/
theorem isKeyed_moment {cs rest : List Char} {v : Value} (h : moment cs = some (v, rest)) :
    v.IsKeyed := by
  unfold moment at h
  split at h
  · obtain ⟨⟨t, cs⟩, -, hv⟩ := Option.map_eq_some_iff.mp h
    cases hv
    exact .moment _
  · rcases Option.or_eq_some_iff.mp h with h | ⟨-, h⟩
    · obtain ⟨divider, -, h⟩ := Option.bind_eq_some_iff.mp h
      split at h
      · obtain ⟨⟨t, cs⟩, -, h⟩ := Option.bind_eq_some_iff.mp h
        obtain ⟨⟨z, cs⟩, -, h⟩ := Option.bind_eq_some_iff.mp h
        cases h
        exact .moment _
      · cases h
    · cases h
      exact .moment _

/-- What begins with a digit or a sign is a moment if it can be read as one, and else a number. -/
theorem isKeyed_literal {cs rest : List Char} {v : Value} (h : literal cs = some (v, rest)) :
    v.IsKeyed := by
  rcases Option.or_eq_some_iff.mp h with h | ⟨-, h⟩
  · exact isKeyed_moment h
  · exact isKeyed_number h

namespace Document

open Draft (Keeps AreKeyed)

/-- The values with names are the two truth values. -/
theorem isKeyed_named {cs rest : List Char} {v : Value} (h : named cs = some (v, rest)) :
    v.IsKeyed := by
  unfold named at h
  split at h
  · cases h
    exact .bool true
  · cases h
    exact .bool false
  · cases h

mutual

/-- A value that is read has tables with different keys. -/
theorem isKeyed_value : ∀ (fuel depth : Nat) {cs rest : List Char} {v : Value},
    value fuel depth cs = some (v, rest) → v.IsKeyed
  | 0, _, _, _, _, h => by cases h
  | fuel + 1, depth, cs, rest, v, h => by
    unfold value at h
    split at h
    · obtain ⟨⟨s, cs⟩, -, hv⟩ := Option.map_eq_some_iff.mp h
      cases hv
      exact .text s
    · obtain ⟨⟨s, cs⟩, -, hv⟩ := Option.map_eq_some_iff.mp h
      cases hv
      exact .text s
    · split at h
      · obtain ⟨⟨vs, cs⟩, hitems, hv⟩ := Option.map_eq_some_iff.mp h
        cases hv
        exact .array (isKeyed_items fuel (depth + 1) hitems)
      · cases h
    · split at h
      · split at h
        · cases h
          exact .table List.nodup_nil fun _ hm => by cases hm
        -- The members of an inline table are added one by one to a draft.
        · obtain ⟨⟨ms, cs⟩, hmembers, hv⟩ := Option.map_eq_some_iff.mp h
          cases hv
          exact (areKeyed_members fuel (depth + 1) Draft.areKeyed_nil hmembers).close
      · cases h
    · exact isKeyed_named h
    · exact isKeyed_named h
    · exact isKeyed_literal h

/-- Items that are read have tables with different keys. -/
theorem isKeyed_items : ∀ (fuel depth : Nat) {cs rest : List Char} {vs : List Value},
    items fuel depth cs = some (vs, rest) → ∀ v ∈ vs, v.IsKeyed
  | 0, _, _, _, _, h => by cases h
  | fuel + 1, depth, cs, rest, vs, h => by
    unfold items at h
    obtain ⟨cs, -, h⟩ := Option.bind_eq_some_iff.mp h
    dsimp only at h
    split at h
    · cases h
      exact List.forall_mem_nil _
    · obtain ⟨⟨v, cs⟩, hvalue, h⟩ := Option.bind_eq_some_iff.mp h
      have hv := isKeyed_value fuel depth hvalue
      obtain ⟨cs, -, h⟩ := Option.bind_eq_some_iff.mp h
      dsimp only at h
      split at h
      · cases h
        exact List.forall_mem_singleton.mpr hv
      · obtain ⟨⟨vs, cs⟩, hitems, hvs⟩ := Option.map_eq_some_iff.mp h
        cases hvs
        exact List.forall_mem_cons.mpr ⟨hv, isKeyed_items fuel depth hitems⟩
      · cases h

/-- Members that are read in braces have different keys. -/
theorem areKeyed_members : ∀ (fuel depth : Nat) {cs rest : List Char} {ms ms' : Draft.Members},
    AreKeyed ms → members fuel depth ms cs = some (ms', rest) → AreKeyed ms'
  | 0, _, _, _, _, _, _, h => by cases h
  | fuel + 1, depth, cs, rest, ms, ms', hms, h => by
    unfold members at h
    obtain ⟨⟨⟨path, name⟩, cs⟩, -, h⟩ := Option.bind_eq_some_iff.mp h
    obtain ⟨⟨_, cs⟩, -, h⟩ := Option.bind_eq_some_iff.mp h
    obtain ⟨⟨v, cs⟩, hvalue, h⟩ := Option.bind_eq_some_iff.mp h
    obtain ⟨placed, hplace, h⟩ := Option.bind_eq_some_iff.mp h
    have hplaced := Draft.keeps_place name (isKeyed_value fuel depth hvalue) path true ms placed hms hplace
    split at h
    · cases h
      exact hplaced
    · exact areKeyed_members fuel depth hplaced h
    · cases h

end

/-! ### Lines that are read -/

/-- A line with the header of a table: all on its way down to the table is kept, and so is the table. -/
theorem areKeyed_tableHeader {p p' : Progress} {cs rest : List Char} (hp : AreKeyed p.root)
    (h : tableHeader p cs = some (p', rest)) : AreKeyed p'.root := by
  obtain ⟨⟨⟨path, name⟩, cs⟩, -, h⟩ := Option.bind_eq_some_iff.mp h
  obtain ⟨⟨_, cs⟩, -, h⟩ := Option.bind_eq_some_iff.mp h
  obtain ⟨root, hroot, h⟩ := Option.bind_eq_some_iff.mp h
  obtain ⟨rest, -, hp'⟩ := Option.map_eq_some_iff.mp h
  cases hp'
  have hkeeps := Draft.areKeyed_update Draft.keepsMember_beginTable name
  exact Draft.keeps_descend hkeeps path p.root root hp hroot

/-- A line with the header of an item. -/
theorem areKeyed_itemHeader {p p' : Progress} {cs rest : List Char} (hp : AreKeyed p.root)
    (h : itemHeader p cs = some (p', rest)) : AreKeyed p'.root := by
  obtain ⟨⟨⟨path, name⟩, cs⟩, -, h⟩ := Option.bind_eq_some_iff.mp h
  obtain ⟨⟨_, cs⟩, -, h⟩ := Option.bind_eq_some_iff.mp h
  obtain ⟨⟨_, cs⟩, -, h⟩ := Option.bind_eq_some_iff.mp h
  obtain ⟨root, hroot, h⟩ := Option.bind_eq_some_iff.mp h
  obtain ⟨rest, -, hp'⟩ := Option.map_eq_some_iff.mp h
  cases hp'
  have hkeeps := Draft.areKeyed_update Draft.keepsMember_beginItem name
  exact Draft.keeps_descend hkeeps path p.root root hp hroot

/-- A line with a key and a value. The value goes into the table of the last header, which is at the end
of the path kept for it. -/
theorem areKeyed_assignment {p p' : Progress} {cs rest : List Char} (hp : AreKeyed p.root)
    (h : assignment p cs = some (p', rest)) : AreKeyed p'.root := by
  obtain ⟨⟨⟨path, name⟩, cs⟩, -, h⟩ := Option.bind_eq_some_iff.mp h
  obtain ⟨⟨_, cs⟩, -, h⟩ := Option.bind_eq_some_iff.mp h
  obtain ⟨⟨v, cs⟩, hvalue, h⟩ := Option.bind_eq_some_iff.mp h
  obtain ⟨root, hroot, h⟩ := Option.bind_eq_some_iff.mp h
  obtain ⟨rest, -, hp'⟩ := Option.map_eq_some_iff.mp h
  cases hp'
  have hkeeps := Draft.keeps_place name (isKeyed_value _ _ hvalue) path true
  exact Draft.keeps_descend hkeeps p.path p.root root hp hroot

/-- Every line leaves different keys. -/
theorem areKeyed_line {p p' : Progress} {cs rest : List Char} (hp : AreKeyed p.root)
    (h : line p cs = some (p', rest)) : AreKeyed p'.root := by
  unfold line at h
  split at h
  · exact areKeyed_itemHeader hp h
  · exact areKeyed_tableHeader hp h
  · obtain ⟨rest, -, hp'⟩ := Option.map_eq_some_iff.mp h
    cases hp'
    exact hp
  · obtain ⟨rest, -, hp'⟩ := Option.map_eq_some_iff.mp h
    cases hp'
    exact hp
  · obtain ⟨rest, -, hp'⟩ := Option.map_eq_some_iff.mp h
    cases hp'
    exact hp
  · exact areKeyed_assignment hp h

/-- All lines, one after the other. The induction is on the number of lines that are allowed. -/
theorem areKeyed_lines {fuel : Nat} {p p' : Progress} {cs : List Char} (hp : AreKeyed p.root)
    (h : lines fuel p cs = some p') : AreKeyed p'.root := by
  induction fuel generalizing p cs with
  | zero => cases h
  | succ fuel ih =>
      rw [lines] at h
      split at h
      · cases h
        exact hp
      · obtain ⟨⟨p₁, cs⟩, hline, h⟩ := Option.bind_eq_some_iff.mp h
        exact ih (areKeyed_line hp hline) h

/-- **No table of a document has a key twice.** -/
theorem read_keyed {text : String} {members : List (String × Value)} (h : read? text = some members) :
    (Value.table members).IsKeyed := by
  obtain ⟨p, hlines, rfl⟩ := Option.map_eq_some_iff.mp h
  exact (areKeyed_lines Draft.areKeyed_nil hlines).close

end Document

end Toml
end FailureAlarm
