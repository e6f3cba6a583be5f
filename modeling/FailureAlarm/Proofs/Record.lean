import FailureAlarm.Json.Decode
import FailureAlarm.Proofs.Rereading
import Mathlib.Data.List.Nodup

/-!
# What a record is read from

Two sides of reading a record:

* **Forth.** An object that has the fields of a record in their order is read as the record, if each of
  its values is read by the field of its name (`record_of_written`). This is how a record is written, and
  `decodeText_text` takes it to whole texts.
* **Back.** A record that was read came from parts: `Tree.part?` finds the part of a field in an object by
  its key and in an array by its place. A field that is a column of the record (`Record.Column`) holds what
  its part is decoded to, or its value in the blank record if there is no such part (`Column.part`),
  in whatever order the other members come.
-/

namespace FailureAlarm
namespace Json

/-- The part of a record that is its field `name`, the fields being `names`. -/
def Tree.part? (names : List String) (name : String) : Tree → Option Tree
  | .object members _ => (members.find? (·.1 = some name)).map (·.2)
  | .array items _ => items[names.idxOf name]?
  | _ => none

namespace Decoder

variable {α β σ : Type}

/-! ### What is behind a result -/

section

variable {ε ε' : Type} {x : Except ε α}

theorem ok_of_bind {k : α → Except ε β} {b : β} (h : (x >>= k) = .ok b) :
    ∃ a, x = .ok a ∧ k a = .ok b := by
  cases x with
  | error e => cases h
  | ok a => exact ⟨a, rfl, h⟩

theorem ok_of_map {f : α → β} {b : β} (h : x.map f = .ok b) : ∃ a, x = .ok a ∧ f a = b := by
  cases x with
  | error e => cases h
  | ok a => exact ⟨a, rfl, Except.ok.inj h⟩

theorem ok_of_mapError {g : ε → ε'} {a : α} (h : x.mapError g = .ok a) : x = .ok a := by
  cases x with
  | error e => cases h
  | ok b => cases h; rfl

end

/-! ### Written records -/

theorem option_string_tree (o : Option String) (depth : Nat) :
    option string depth (Value.ofOption o).tree = .ok o := by
  cases o with
  | none => rfl
  | some s => rfl

/-- A value other than null is read by what is inside the option. -/
theorem option_of_ne_null {t : Tree} (h : t ≠ .null) (decode : Decoder α) (depth : Nat) :
    option decode depth t = (decode depth t).map some := by
  cases t with
  | null => exact absurd rfl h
  | _ => rfl

@[simp] theorem name_field (name : String) (absence : Absence) (decode : Decoder α) (set : α → σ → σ) :
    (field name absence decode set).name = name := rfl

/-- A field puts what it has decoded into the record. -/
@[simp] theorem read_eq_ok_iff {name : String} {absence : Absence} {decode : Decoder α} {set : α → σ → σ}
    {depth : Nat} {t : Tree} {update : σ → σ} :
    (field name absence decode set).read depth t = .ok update ↔
      ∃ v, decode depth t = .ok v ∧ set v = update := by
  show (decode depth t).map set = .ok update ↔ _
  constructor
  · exact ok_of_map
  · rintro ⟨v, hv, rfl⟩
    rw [hv]
    rfl

theorem field_read {name : String} {absence : Absence} {decode : Decoder α} {set : α → σ → σ}
    {depth : Nat} {t : Tree} {v : α} (h : decode depth t = .ok v) :
    (field name absence decode set).read depth t = .ok (set v) :=
  read_eq_ok_iff.mpr ⟨v, h, rfl⟩

/-- The members have the names of the fields, and reading them one after the other makes `s'` of `s`. -/
inductive Written (depth : Nat) : List (Field σ) → List (String × Value) → σ → σ → Prop
  | nil {s} : Written depth [] [] s s
  | cons {f fs v ms s s' update} : f.read depth v.tree = .ok update →
      Written depth fs ms (update s) s' → Written depth (f :: fs) ((f.name, v) :: ms) s s'

/-- The names of the fields of a record. -/
def Record.names (r : Record σ) : List String := r.fields.map (·.name)

/-- A field is found by its name. -/
theorem find_field {fields : List (Field σ)} (hnodup : (fields.map (·.name)).Nodup) {f : Field σ}
    (hf : f ∈ fields) : fields.find? (·.name = f.name) = some f := by
  cases hfind : fields.find? (·.name = f.name) with
  | none => exact absurd (decide_eq_true rfl) (List.find?_eq_none.mp hfind f hf)
  | some g =>
      have hname : g.name = f.name := by simpa using List.find?_some hfind
      rw [List.inj_on_of_nodup_map hnodup (List.mem_of_find?_eq_some hfind) hf hname]

/-- The members of an object that lists the fields are all read. The induction is on the members that
are still to come; `past` are the fields read before. -/
theorem readMembers_written {depth : Nat} {fields fs : List (Field σ)} {ms : List (String × Value)}
    {s s' : σ} (h : Written depth fs ms s s') (hnodup : (fields.map (·.name)).Nodup)
    (past : List (Field σ)) (hfields : fields = past ++ fs) :
    readMembers fields depth (Value.memberTrees ms) (past.map (·.name)).reverse s =
      .ok ((fields.map (·.name)).reverse, s') := by
  induction h generalizing past with
  | nil =>
      rw [hfields, List.append_nil]
      rfl
  | @cons f fs v ms s s' update hread _ ih =>
      have hfind := find_field hnodup (f := f) (by simp [hfields])
      have hnew : f.name ∉ (past.map (·.name)).reverse := by
        rw [hfields, List.map_append, List.map_cons] at hnodup
        rw [List.mem_reverse]
        intro hmem
        exact (List.nodup_append.mp hnodup).2.2 _ hmem _ List.mem_cons_self rfl
      have hrest := ih (past ++ [f]) (by simp [hfields])
      rw [List.map_append, List.reverse_append] at hrest
      simp only [Value.memberTrees, readMembers, hfind, if_neg hnew, hread]
      exact hrest

/-- **A record is read back from the object that lists its fields.** -/
theorem record_of_written {r : Record σ} {depth : Nat} {ms : List (String × Value)} {s : σ}
    (hnodup : r.names.Nodup) (hdepth : depth < 127)
    (h : Written (depth + 1) r.fields ms r.blank s) :
    record r depth (Value.object ms).tree = .ok s := by
  have hmembers := readMembers_written h hnodup [] rfl
  -- All the fields were there, so none is missing.
  have hnone : r.fields.find? (fun f => f.absence = .required &&
      !(r.fields.map (·.name)).reverse.contains f.name) = none := by
    rw [List.find?_eq_none]
    intro f hf
    have hmem : f.name ∈ r.fields.map (·.name) := List.mem_map_of_mem hf
    simp [hmem]
  have hnest : mayNest depth = true := decide_eq_true hdepth
  show record r depth (.object (Value.memberTrees ms) true) = _
  rw [List.map_nil, List.reverse_nil] at hmembers
  simp only [record, if_pos hnest, hmembers, bind, Except.bind, hnone, not_true_eq_false, if_false]

/-- The text of a value is decoded as its tree is. -/
theorem decodeText_text {v : Value} (h : v.IsWhole) (decode : Decoder α) :
    decodeText decode v.text = decode 0 v.tree := by
  unfold decodeText
  rw [Tree.read_text h]
  dsimp only
  cases decode 0 v.tree with
  | ok a => rfl
  | error e => rfl

/-- What is decoded from a text is decoded from its tree. -/
theorem decode_of_decodeText {decode : Decoder α} {text : String} {a : α}
    (h : decodeText decode text = .ok a) : decode 0 (Tree.read text).1 = .ok a := by
  unfold decodeText at h
  dsimp only at h
  split at h
  · cases h
  · next b hread =>
      split at h
      · cases h
        exact hread
      · cases h

/-! ### Columns -/

/-- In a record with these fields, the field `name` decodes what `get` reads off, and no other field
changes that. -/
structure Column (fields : List (Field σ)) (name : String) (decode : Decoder α) (get : σ → α) :
    Prop where
  nodup : (fields.map (·.name)).Nodup
  sets : ∀ f ∈ fields, f.name = name → ∀ {depth t update}, f.read depth t = .ok update →
    ∀ s, decode depth t = .ok (get (update s))
  keeps : ∀ f ∈ fields, f.name ≠ name → ∀ {depth t update}, f.read depth t = .ok update →
    ∀ s, get (update s) = get s

/-- After the reading of a part, `get` reads off what it was decoded to; nothing has changed if there was
no part. -/
def Holds (decode : Decoder α) (get : σ → α) (depth : Nat) (s s' : σ) : Option Tree → Prop
  | none => get s' = get s
  | some t => decode depth t = .ok (get s')

variable {fields : List (Field σ)} {name : String} {decode : Decoder α} {get : σ → α}

/-- What is held does not depend on where the reading started, as far as it is not about this field. -/
theorem Holds.of_keep {depth : Nat} {s u s' : σ} {part : Option Tree} (hkeep : get u = get s)
    (h : Holds decode get depth u s' part) : Holds decode get depth s s' part := by
  cases part with
  | none => exact Eq.trans h hkeep
  | some t => exact h

theorem Column.tail {f : Field σ} (c : Column (f :: fields) name decode get) :
    Column fields name decode get where
  nodup := (List.nodup_cons.mp c.nodup).2
  sets g hg := c.sets g (List.mem_cons_of_mem f hg)
  keeps g hg := c.keeps g (List.mem_cons_of_mem f hg)

/-- A member is passed over, or it is read as the field of its key, whose key is new. -/
theorem readMembers_cons {depth : Nat} {key : String} {t : Tree} {ms : List (Option String × Tree)}
    {seen : List String} {s : σ} {r : List String × σ}
    (h : readMembers fields depth ((some key, t) :: ms) seen s = .ok r) :
    (key ∉ fields.map (·.name) ∧ readMembers fields depth ms seen s = .ok r) ∨
      ∃ f ∈ fields, f.name = key ∧ key ∉ seen ∧ ∃ update, f.read depth t = .ok update ∧
        readMembers fields depth ms (key :: seen) (update s) = .ok r := by
  rw [readMembers] at h
  -- A key that no field has is passed over; one that a field has must not have come before.
  cases hfind : fields.find? (·.name = key) with
  | none =>
      rw [hfind] at h
      refine .inl ⟨?_, h⟩
      intro hmem
      obtain ⟨f, hf, hname⟩ := List.mem_map.mp hmem
      exact List.find?_eq_none.mp hfind f hf (decide_eq_true hname)
  | some f =>
      rw [hfind] at h
      have hname : f.name = key := by simpa using List.find?_some hfind
      by_cases hseen : key ∈ seen
      · simp only [if_pos hseen] at h
        cases h
      · simp only [if_neg hseen] at h
        obtain ⟨update, hread, hrest⟩ := ok_of_bind h
        exact .inr ⟨f, List.mem_of_find?_eq_some hfind, hname, hseen, update, ok_of_mapError hread,
          hrest⟩

/-- The first member with the key of a column is read as the column, and a second one is refused, so a
key that has been seen does not come again. -/
theorem readMembers_column (c : Column fields name decode get)
    (hmem : name ∈ fields.map (·.name)) {depth : Nat} {ms : List (Option String × Tree)}
    {seen seen' : List String} {s s' : σ} (h : readMembers fields depth ms seen s = .ok (seen', s')) :
    (name ∈ seen → get s' = get s) ∧
      (name ∉ seen →
        Holds decode get depth s s' ((ms.find? (·.1 = some name)).map (·.2))) := by
  induction ms generalizing seen s with
  | nil =>
      cases h
      exact ⟨fun _ => rfl, fun _ => rfl⟩
  | cons m ms ih =>
      obtain ⟨_ | key, t⟩ := m
      · cases h
      rcases readMembers_cons h with ⟨hother, hrest⟩ | ⟨f, hf, hname, hnew, update, hread, hrest⟩
      · -- The column is among the fields, so this is the key of something else.
        have hne : key ≠ name := fun heq => hother (heq ▸ hmem)
        rw [List.find?_cons_of_neg (by simpa using hne)]
        exact ih hrest
      obtain ⟨hold, hlater⟩ := ih hrest
      by_cases hkey : key = name
      · subst hkey
        refine ⟨fun hin => absurd hin hnew, fun _ => ?_⟩
        rw [List.find?_cons_of_pos (by simp)]
        -- What comes after this member leaves the column as it is.
        have hset := c.sets f hf hname hread s
        rw [← hold List.mem_cons_self] at hset
        exact hset
      · have hkeep := c.keeps f hf (hname ▸ hkey) hread s
        rw [List.find?_cons_of_neg (by simpa using hkey)]
        constructor
        · intro hin
          exact (hold (List.mem_cons_of_mem key hin)).trans hkeep
        · intro hnot
          exact (hlater (by simp [hnot, Ne.symm hkey])).of_keep hkeep

theorem readItems_cons {wanted : String} {depth : Nat} {closed : Bool} {f : Field σ} {t : Tree}
    {ts : List Tree} {index : Nat} {s s' : σ}
    (h : readItems wanted depth closed (f :: fields) (t :: ts) index s = .ok s') :
    ∃ update, f.read depth t = .ok update ∧
      readItems wanted depth closed fields ts (index + 1) (update s) = .ok s' := by
  rw [readItems] at h
  obtain ⟨update, hread, hrest⟩ := ok_of_bind h
  exact ⟨update, ok_of_mapError hread, hrest⟩

/-- An array that has come to its end leaves the record as it is. -/
theorem readItems_nil {wanted : String} {depth : Nat} {closed : Bool} {index : Nat} {s s' : σ}
    (h : readItems wanted depth closed fields [] index s = .ok s') : s' = s := by
  induction fields generalizing index with
  | nil =>
      rw [readItems] at h
      split at h
      · cases h
        rfl
      · cases h
  | cons f fs ih =>
      rw [readItems] at h
      split at h
      · cases h
      split at h
      · exact ih h
      · cases h

/-- The item that stands where a column stands is read as the column. -/
theorem readItems_column (c : Column fields name decode get) {wanted : String} {depth : Nat}
    {closed : Bool} {ts : List Tree} {index : Nat} {s s' : σ}
    (h : readItems wanted depth closed fields ts index s = .ok s') :
    (name ∉ fields.map (·.name) → get s' = get s) ∧
      (name ∈ fields.map (·.name) →
        Holds decode get depth s s' ts[(fields.map (·.name)).idxOf name]?) := by
  induction fields generalizing ts index s with
  | nil =>
      cases ts with
      | nil => exact ⟨fun _ => by rw [readItems_nil h], fun hin => by cases hin⟩
      | cons t ts => cases h
  | cons f fs ih =>
      have hnodup := List.nodup_cons.mp c.nodup
      cases ts with
      | nil =>
          rw [readItems_nil h]
          exact ⟨fun _ => rfl, fun _ => rfl⟩
      | cons t ts =>
          obtain ⟨update, hread, hrest⟩ := readItems_cons h
          obtain ⟨hout, hin⟩ := ih c.tail hrest
          rw [List.map_cons]
          -- The item at this place is that of the column, or the column is further on.
          by_cases hname : f.name = name
          · subst hname
            refine ⟨fun hnot => absurd List.mem_cons_self hnot, fun _ => ?_⟩
            rw [List.idxOf_cons_self]
            have hset := c.sets f List.mem_cons_self rfl hread s
            rw [← hout hnodup.1] at hset
            exact hset
          · have hkeep := c.keeps f List.mem_cons_self hname hread s
            rw [List.idxOf_cons_ne _ hname, List.mem_cons, or_iff_right (Ne.symm hname)]
            constructor
            · intro hnot
              exact (hout hnot).trans hkeep
            · intro hmem
              exact (hin hmem).of_keep hkeep

/-- An accepted object has had all its members read. -/
theorem members_of_record {r : Record σ} {depth : Nat} {ms : List (Option String × Tree)}
    {closed : Bool} {s : σ} (h : record r depth (.object ms closed) = .ok s) :
    ∃ seen, readMembers r.fields (depth + 1) ms [] r.blank = .ok (seen, s) := by
  simp only [record] at h
  split at h
  · obtain ⟨⟨seen, s'⟩, hmembers, hrest⟩ := ok_of_bind h
    dsimp only at hrest
    split at hrest
    · cases hrest
    · split at hrest
      · cases hrest
      · cases hrest
        exact ⟨seen, hmembers⟩
  · cases h

/-- An accepted array has had all its items read. -/
theorem items_of_record {r : Record σ} {depth : Nat} {ts : List Tree} {closed : Bool} {s : σ}
    (h : record r depth (.array ts closed) = .ok s) :
    readItems r.describe (depth + 1) closed r.fields ts 0 r.blank = .ok s := by
  simp only [record] at h
  split at h
  · exact h
  · cases h

/-- **A column of a record holds what its part is decoded to**, wherever that part stands. -/
theorem Column.part {r : Record σ} (c : Column r.fields name decode get)
    (hmem : name ∈ r.names) {depth : Nat} {t : Tree} {s : σ} (h : record r depth t = .ok s) :
    Holds decode get (depth + 1) r.blank s (t.part? r.names name) := by
  cases t with
  | object ms closed =>
      obtain ⟨seen, hmembers⟩ := members_of_record h
      exact (readMembers_column c hmem hmembers).2 List.not_mem_nil
  | array ts closed => exact (readItems_column c (items_of_record h)).2 hmem
  | number n => cases n <;> cases h
  | string s => cases s <;> cases h
  | _ => cases h

/-- Two records hold the same in a column that was read from the same part. -/
theorem Holds.unique {depth : Nat} {s s₁ s₂ : σ} {part : Option Tree}
    (h₁ : Holds decode get depth s s₁ part) (h₂ : Holds decode get depth s s₂ part) :
    get s₁ = get s₂ := by
  cases part with
  | none => exact Eq.trans h₁ (Eq.symm h₂)
  | some t => exact Except.ok.inj (Eq.trans (Eq.symm h₁) h₂)

end Decoder
end Json
end FailureAlarm
