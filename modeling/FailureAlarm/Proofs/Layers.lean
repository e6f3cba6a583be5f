import FailureAlarm.Proofs.Numeral
import FailureAlarm.Settings.Load
import Mathlib.Data.List.Nodup

/-!
# Layers of settings

What is found in a table after something was laid over one of its members: what was laid there, or what
was there before (`Entry.member?_put`). A layer whose keys are different and in lower case counts where
it says something, and what it says of a table is laid over that table (`Entry.member?_putAll`).

Two steps into an entry lead to a setting (`Entry.at?`). A path that goes elsewhere leaves it as it is
(`Path.at?_set_of_spares`), and so does a layer of such paths (`at?_overlay_of_spares`).
-/

namespace FailureAlarm

/-! ### Texts in lower case -/

/-- A character of ASCII that is no capital letter. -/
def LowerCase.IsLower (c : Char) : Prop := (c.toNat < 65 ∨ 90 < c.toNat) ∧ c.toNat < 128

/-- No rule about letters beyond ASCII applies to such a character. -/
theorem LowerCase.ofChar_of_isLower {c : Char} (h : IsLower c) : ofChar c = [c] := by
  have hlower : c.toLower = c := by
    unfold Char.toLower
    refine dif_neg fun hupper => ?_
    simp only [ge_iff_le, UInt32.le_iff_toNat_le] at hupper
    have hval : c.val.toNat = c.toNat := rfl
    have hA : 'A'.val.toNat = 65 := rfl
    have hZ : 'Z'.val.toNat = 90 := rfl
    have hcapital := h.1
    omega
  unfold ofChar
  dsimp only
  rw [if_pos h.2, hlower]

/-- A text without capital letters stays as it is. -/
theorem lowerCase_of_isLower {s : String} (h : ∀ c ∈ s.toList, LowerCase.IsLower c) : lowerCase s = s := by
  have hchars : s.toList.flatMap LowerCase.ofChar = s.toList := by
    rw [List.flatMap_congr fun c hc => LowerCase.ofChar_of_isLower (h c hc), List.flatMap_singleton']
  unfold lowerCase
  rw [hchars, String.ofList_toList]

namespace Settings

/-! ### Members -/

namespace Entry

/-- The member with a key. -/
def find (key : String) (members : Members) : Option Entry := (members.find? (·.1 = key)).map (·.2)

/-- The first member with the key is the one that is found. -/
theorem find_cons (key k : String) (e : Entry) (members : Members) :
    find key ((k, e) :: members) = if k = key then some e else find key members := by
  unfold find
  rw [List.find?_cons]
  by_cases h : k = key
  · simp [h]
  · simp [h]

/-- What is found is among the members, with the key that was looked for. -/
theorem mem_of_find {key : String} {members : Members} {e : Entry} (h : find key members = some e) :
    (key, e) ∈ members := by
  obtain ⟨⟨k, e'⟩, hfind, rfl⟩ := Option.map_eq_some_iff.mp h
  have hkey : k = key := by simpa using List.find?_some hfind
  rw [← hkey]
  exact List.mem_of_find?_eq_some hfind

/-- To update a key changes what is found under it, from what was found there or from nothing, and leaves
alone what is found under other keys. -/
theorem find_update (key k : String) (change : Option Entry → Entry) (members : Members) :
    find k (update key change members) =
      if key = k then some (change (find key members)) else find k members := by
  induction members with
  | nil => exact find_cons k key _ []
  | cons m members ih =>
      obtain ⟨k', e⟩ := m
      rw [update]
      by_cases hkey : k' = key
      · subst hkey
        rw [if_pos rfl, find_cons, find_cons, if_pos rfl, find_cons]
        split
        · rfl
        · rfl
      · rw [if_neg hkey, find_cons, ih, find_cons, if_neg hkey, find_cons]
        by_cases hk : key = k
        · rw [if_pos hk, if_pos hk, if_neg (hk ▸ hkey)]
        · rw [if_neg hk, if_neg hk]

/-- The member of an entry with a key. -/
def member? (key : String) : Entry → Option Entry
  | .table _ members => find key members
  | _ => none

/-- The entry is a table. -/
def IsTable (e : Entry) : Prop := ∃ o members, e = .table o members

/-- An entry with a member is a table. If it was none before, it is replaced by one. -/
theorem isTable_updateMember (key : String) (change : Option Entry → Entry) (e : Entry) :
    (updateMember key change e).IsTable := by
  cases e <;> exact ⟨_, _, rfl⟩

/-- The same for entries: what was no table had no members. -/
theorem member?_updateMember (key k : String) (change : Option Entry → Entry) (e : Entry) :
    (updateMember key change e).member? k =
      if key = k then some (change (e.member? key)) else e.member? k := by
  cases e with
  | table o members => exact find_update key k change members
  | scalar o s => exact find_update key k change []
  | array o items => exact find_update key k change []

/-- What comes of `e` when it is laid over `old`. -/
def laidOver (e : Entry) (old : Option Entry) : Entry :=
  match e with
  | .table _ members => putAll members (old.getD blank)
  | e => e

/-- To put in an entry under a key is to lay it over what stands there, the key being in lower case. That
tables are merged and other entries are not is left to `laidOver`. -/
theorem put_eq (key : String) (e under : Entry) :
    put key e under = updateMember (lowerCase key) e.laidOver under := by
  cases e with
  | table o members => rw [put]; rfl
  | scalar o s =>
      rw [put]
      · rfl
      · rintro _ _ ⟨⟩
  | array o items =>
      rw [put]
      · rfl
      · rintro _ _ ⟨⟩

/-- What stands under other keys is left alone. -/
theorem member?_put (key k : String) (e under : Entry) :
    (put key e under).member? k =
      if lowerCase key = k then some (e.laidOver (under.member? k)) else under.member? k := by
  rw [put_eq, member?_updateMember]
  by_cases h : lowerCase key = k
  · rw [if_pos h, if_pos h, h]
  · rw [if_neg h, if_neg h]

/-- The keys of a layer are different and in lower case. -/
structure IsLayer (members : Members) : Prop where
  nodup : (members.map (·.1)).Nodup
  lower : ∀ m ∈ members, lowerCase m.1 = m.1

theorem IsLayer.tail {m : String × Entry} {members : Members} (h : IsLayer (m :: members)) :
    IsLayer members where
  nodup := (List.nodup_cons.mp h.nodup).2
  lower m' hm' := h.lower m' (List.mem_cons_of_mem m hm')

/-- Nothing is found under a key that does not occur. -/
theorem find_eq_none {key : String} {members : Members} (h : key ∉ members.map (·.1)) :
    find key members = none := by
  cases hfind : find key members with
  | none => rfl
  | some e => exact absurd (List.mem_map_of_mem (f := Prod.fst) (mem_of_find hfind)) h

/-- **A layer counts where it says something.** -/
theorem member?_putAll {members : Members} (h : IsLayer members) (under : Entry) (k : String) :
    (putAll members under).member? k =
      ((find k members).map (laidOver · (under.member? k))).or (under.member? k) := by
  induction members generalizing under with
  | nil =>
      rw [putAll]
      rfl
  | cons m members ih =>
      obtain ⟨key, e⟩ := m
      have hlower : lowerCase key = key := h.lower (key, e) List.mem_cons_self
      have hnew : key ∉ members.map (·.1) := (List.nodup_cons.mp h.nodup).1
      rw [putAll, ih h.tail, member?_put, hlower, find_cons]
      by_cases hkey : key = k
      · -- No other member of the layer has this key.
        rw [if_pos hkey, if_pos hkey, ← hkey, find_eq_none hnew]
        rfl
      · rw [if_neg hkey, if_neg hkey]

/-- What something is put into is a table afterwards. -/
theorem isTable_put (key : String) (e under : Entry) : (put key e under).IsTable := by
  rw [put_eq]
  exact isTable_updateMember _ _ _

/-- A table remains one under any layer. -/
theorem isTable_putAll (members : Members) {under : Entry} (h : under.IsTable) :
    (putAll members under).IsTable := by
  induction members generalizing under with
  | nil =>
      rw [putAll]
      exact h
  | cons m members ih =>
      rw [putAll]
      exact ih (isTable_put _ _ _)

/-! ### Two steps -/

/-- Where a setting is found: the key of its section, and its own. -/
abbrev Place := String × String

/-- The entry at a place. -/
def at? (place : Place) (e : Entry) : Option Entry := (e.member? place.1).bind (member? place.2)

theorem at?_table (o : Option Origin) (members : Members) (place : Place) :
    (Entry.table o members).at? place = (find place.1 members).bind (member? place.2) := rfl

/-- The second step is taken in the section that the first one leads to. -/
theorem at?_of_member {place : Place} {e e' : Entry} (h : e.member? place.1 = some e') :
    e.at? place = e'.member? place.2 := by
  rw [at?, h]
  rfl

/-- The place of an entry is inside a table. -/
theorem isTable_of_at? {place : Place} {e e' x : Entry} (h : e.member? place.1 = some e')
    (hx : e.at? place = some x) : e'.IsTable := by
  rw [at?_of_member h] at hx
  cases e' with
  | table o members => exact ⟨o, members, rfl⟩
  | _ => cases hx

end Entry

namespace Path

open Entry (Place at? laidOver)

variable {e under : Entry} {place : Place}

/-- The path leads to the place. -/
def LeadsTo (place : Place) (path : Path) : Prop :=
  ∃ s n, path = [.member s, .member n] ∧ lowerCase s = place.1 ∧ lowerCase n = place.2

/-- The path goes to another section, or to another setting of the section. -/
def Spares (place : Place) (path : Path) : Prop :=
  ∃ s rest, path = .member s :: rest ∧
    (lowerCase s ≠ place.1 ∨ ∃ n rest', rest = .member n :: rest' ∧ lowerCase n ≠ place.2)

/-- What the member at the head of a path becomes. -/
def change (e : Entry) (rest : Path) (old : Option Entry) : Entry :=
  if rest = [] then e.laidOver old else set e rest (old.getD .nothing)

/-- A path that begins with a key updates the member with that key; the rest of the path says how. -/
theorem set_member (e : Entry) (key : String) (rest : Path) (under : Entry) :
    set e (.member key :: rest) under = under.updateMember (lowerCase key) (change e rest) := by
  cases rest with
  | nil =>
      rw [set, Entry.put_eq]
      rfl
  | cons step rest =>
      rw [set]
      · rfl
      · rintro ⟨⟩

/-- What is set by way of a key is a member of a table afterwards. -/
theorem isTable_set (e : Entry) (key : String) (rest : Path) (under : Entry) :
    (set e (.member key :: rest) under).IsTable := by
  rw [set_member]
  exact Entry.isTable_updateMember _ _ _

/-- The first step of a path decides which member is changed. -/
theorem member?_set (e : Entry) (key k : String) (rest : Path) (under : Entry) :
    (set e (.member key :: rest) under).member? k =
      if lowerCase key = k then some (change e rest (under.member? k)) else under.member? k := by
  rw [set_member, Entry.member?_updateMember]
  by_cases h : lowerCase key = k
  · rw [if_pos h, if_pos h, h]
  · rw [if_neg h, if_neg h]

/-- A path that leads elsewhere changes nothing at the place. -/
theorem at?_set_of_spares {path : Path} (h : path.Spares place) :
    (set e path under).at? place = under.at? place := by
  obtain ⟨s, rest, rfl, hother | ⟨n, rest, rfl, hother⟩⟩ := h
  · rw [at?, member?_set, if_neg hother]
    rfl
  · by_cases hs : lowerCase s = place.1
    · rw [at?, member?_set, if_pos hs]
      show (set e (.member n :: rest) _).member? place.2 = _
      rw [member?_set, if_neg hother, at?]
      cases under.member? place.1 <;> rfl
    · rw [at?, member?_set, if_neg hs]
      rfl

/-- A path that leads to the place lays a plain value there. -/
theorem at?_set_of_leadsTo {path : Path} (h : path.LeadsTo place) (o : Option Origin) (v : Scalar) :
    (set (.scalar o v) path under).at? place = some (.scalar o v) := by
  obtain ⟨s, n, rfl, hs, hn⟩ := h
  rw [at?, member?_set, if_pos hs]
  show (set (.scalar o v) [.member n] _).member? place.2 = _
  rw [member?_set, if_pos hn]
  rfl

/-! ### Keys that are one step -/

/-- A lower-case letter, a digit or an underscore. -/
def isNameChar (c : Char) : Bool := ('a' ≤ c && c ≤ 'z') || Digits.isDigit c || c = '_'

/-- The key is made of lower-case letters, digits and underscores. -/
def IsName (key : String) : Prop := key ≠ "" ∧ key.toList.all isNameChar = true

instance (key : String) : Decidable (IsName key) := by
  unfold IsName
  infer_instance

/-- Each character of a name is of one of three kinds. -/
theorem IsName.cases {key : String} (h : IsName key) {c : Char} (hc : c ∈ key.toList) :
    ('a' ≤ c ∧ c ≤ 'z') ∨ Digits.isDigit c = true ∨ c = '_' := by
  have hchar := List.all_eq_true.mp h.2 c hc
  simpa only [isNameChar, Bool.or_eq_true, Bool.and_eq_true, decide_eq_true_eq, or_assoc] using hchar

/-- The code points of the characters of names. -/
theorem toNat_of_isName {key : String} (h : IsName key) {c : Char} (hc : c ∈ key.toList) :
    (48 ≤ c.toNat ∧ c.toNat ≤ 57) ∨ c.toNat = 95 ∨ (97 ≤ c.toNat ∧ c.toNat ≤ 122) := by
  rcases h.cases hc with hletter | hdigit | rfl
  · refine .inr (.inr ?_)
    simpa [Char.le_def, UInt32.le_iff_toNat_le] using hletter
  · exact .inl (Digits.toNat_of_isDigit hdigit)
  · exact .inr (.inl rfl)

/-- There are no capital letters in a name. -/
theorem lowerCase_of_isName {key : String} (h : IsName key) : lowerCase key = key := by
  refine lowerCase_of_isLower fun c hc => ?_
  have hcode := toNat_of_isName h hc
  exact ⟨by omega, by omega⟩

/-- A name has no dots and no brackets, so it is one step: the whole of it is read as the first part of a
path, and nothing is left. -/
theorem ofKey_of_isName {key : String} (h : IsName key) : ofKey key = [.member key] := by
  -- A name has neither dots nor brackets, so all of it is one part.
  have hparts : key.toList.takeWhile isPart = key.toList := by
    apply List.takeWhile_eq_self_iff.mpr
    intro c hc
    rcases h.cases hc with ⟨hlow, hhigh⟩ | hdigit | rfl
    · simp [isPart, hlow, hhigh]
    · simp [isPart, hdigit]
    · rfl
  have hne : key.toList ≠ [] := fun hnil => h.1 (String.toList_eq_nil_iff.mp hnil)
  have hpart : part? key.toList = some (key, []) := by
    unfold part?
    rw [hparts]
    cases hcs : key.toList with
    | nil => exact absurd hcs hne
    | cons c cs =>
        show some (String.ofList (c :: cs), (c :: cs).drop (c :: cs).length) = _
        rw [List.drop_length, ← hcs, String.ofList_toList]
  have hread : read? key = some [.member key] := by
    unfold read?
    rw [hpart]
    rfl
  unfold ofKey
  rw [hread]
  rfl

end Path

/-! ### Layers of plain values -/

open Entry (Place at?)

theorem overlay_cons (m : String × Entry) (members : Entry.Members) (under : Entry) :
    overlay (m :: members) under = overlay members (Path.set m.2 (Path.ofKey m.1) under) := rfl

/-- Layers in a row are laid one after the other. -/
theorem overlay_append (xs ys : Entry.Members) (under : Entry) :
    overlay (xs ++ ys) under = overlay ys (overlay xs under) := List.foldl_append

/-- Keys that are one step each are put in one after the other. -/
theorem overlay_of_names {members : Entry.Members} (h : ∀ m ∈ members, Path.IsName m.1)
    (under : Entry) : overlay members under = Entry.putAll members under := by
  induction members generalizing under with
  | nil =>
      rw [Entry.putAll]
      rfl
  | cons m members ih =>
      obtain ⟨hm, hrest⟩ := List.forall_mem_cons.mp h
      rw [overlay_cons, Path.ofKey_of_isName hm, Entry.putAll, ih hrest]
      rfl

/-- A layer that leads elsewhere changes nothing at the place. -/
theorem at?_overlay_of_spares {place : Place} {members : Entry.Members}
    (h : ∀ m ∈ members, (Path.ofKey m.1).Spares place) (under : Entry) :
    (overlay members under).at? place = under.at? place := by
  induction members generalizing under with
  | nil => rfl
  | cons m members ih =>
      obtain ⟨hm, hrest⟩ := List.forall_mem_cons.mp h
      rw [overlay_cons, ih hrest, Path.at?_set_of_spares hm]

end Settings
end FailureAlarm
