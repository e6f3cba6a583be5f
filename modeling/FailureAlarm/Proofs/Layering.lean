import FailureAlarm.Proofs.AnyText
import FailureAlarm.Proofs.Leaf
import FailureAlarm.Proofs.TomlKeys

/-!
# Settings are layered one by one

What a leaf is set to depends on its own sources alone: its variable in the environment, its entry in the
file, its default, the first of them that is there (`Leaf.effective`). For this every variable that counts
has to name a leaf (`NameLeaves`), and the sections that the file mentions have to be tables (`IsTidy`).
Then the settings can be loaded exactly if every leaf can be (`isOk_load`), and each is set to what its
own source says (`effective_of_load`). One more variable that can be read changes its own leaf
(`load_with_variable`).

The file is a layer over nothing, since the keys of its tables are different
(`isLayer_of_fileMembers`); over it the variables are laid one after the other (`at?_environment`).
-/

namespace FailureAlarm
namespace Settings

open Entry (Place find member? at? laidOver putAll IsLayer)
open Json (Value)
open Json.Decoder (ok_of_bind)

/-! ### The file -/

namespace Entry

/-- The members of an object become entries one by one, under the same keys. -/
theorem ofJsonMembers_eq (o : Origin) (ms : List (String × Value)) :
    ofJsonMembers o ms = ms.map fun m => (m.1, ofJson o m.2) := by
  induction ms with
  | nil => rfl
  | cons m ms ih => rw [ofJsonMembers, ih, List.map_cons]

/-- So do the members of a table of a document. -/
theorem ofTomlMembers_eq (o : Origin) (ms : List (String × Toml.Value)) :
    ofTomlMembers o ms = ms.map fun m => (m.1, ofToml o m.2) := by
  induction ms with
  | nil => rfl
  | cons m ms ih => rw [ofTomlMembers, ih, List.map_cons]

/-- The keys of a table are different, and so are those of the tables in it. -/
structure HasKeys (members : Members) : Prop where
  nodup : (members.map (·.1)).Nodup
  inner : ∀ m ∈ members, ∀ o inner, m.2 = .table o inner → (inner.map (·.1)).Nodup

/-- Keys that increase are different. -/
theorem nodup_ofJsonMembers (o : Origin) {ms : List (String × Value)} (h : Value.KeysIncrease ms) :
    ((ofJsonMembers o ms).map (·.1)).Nodup := by
  rw [ofJsonMembers_eq, List.map_map]
  exact (Value.keysIncrease_iff.mp h).imp ne_of_lt

/-- The keys of a table of a document are different as they are read. -/
theorem nodup_ofTomlMembers (o : Origin) {ms : List (String × Toml.Value)}
    (h : (Toml.Value.table ms).IsKeyed) : ((ofTomlMembers o ms).map (·.1)).Nodup := by
  rw [ofTomlMembers_eq, List.map_map]
  cases h with
  | table hnodup _ => exact hnodup

/-- Only objects become tables. -/
theorem eq_object_of_ofJson {p : Origin} {o : Option Origin} {v : Value} {inner : Members}
    (h : ofJson p v = .table o inner) : ∃ ms, v = .object ms ∧ inner = ofJsonMembers p ms := by
  cases v with
  | object ms =>
      cases h
      exact ⟨ms, rfl, rfl⟩
  | number n =>
      cases n with
      | integer n =>
          rw [ofJson] at h
          split at h <;> cases h
      | real x => cases h
  | _ => cases h

/-- A JSON file may name a key twice, but what is read from it is sorted, and has each key once. -/
theorem hasKeys_jsonMembers {text : String} {members : Members} (h : jsonMembers text = .ok members) :
    HasKeys members := by
  unfold jsonMembers at h
  split at h
  · next ms hms =>
      cases h
      have hsorted := Json.Decoder.any_sorted (Json.Decoder.decode_of_decodeText hms)
      obtain ⟨hkeys, hvalues⟩ := hsorted
      refine ⟨nodup_ofJsonMembers _ hkeys, ?_⟩
      rw [ofJsonMembers_eq]
      intro m hm o inner htable
      obtain ⟨⟨k, v⟩, hv, rfl⟩ := List.mem_map.mp hm
      obtain ⟨ms', rfl, rfl⟩ := eq_object_of_ofJson htable
      exact nodup_ofJsonMembers _ (Value.membersAreSorted_iff.mp hvalues _ hv).1
  · cases h

/-- A file of the other kind that names a key twice is not read at all. -/
theorem hasKeys_tomlMembers {text : String} {members : Members} (h : tomlMembers text = .ok members) :
    HasKeys members := by
  unfold tomlMembers at h
  split at h
  · next ms hms =>
      cases h
      have hkeyed := Toml.Document.read_keyed hms
      refine ⟨nodup_ofTomlMembers _ hkeyed, ?_⟩
      rw [ofTomlMembers_eq]
      intro m hm o inner htable
      obtain ⟨⟨k, v⟩, hv, rfl⟩ := List.mem_map.mp hm
      cases hkeyed with
      | table _ hmembers =>
          have hin := hmembers _ hv
          cases v with
          | table ms' =>
              cases htable
              exact nodup_ofTomlMembers _ hin
          | _ => cases htable
  · cases h

theorem hasKeys_nil : HasKeys [] := ⟨List.nodup_nil, fun _ hm => by cases hm⟩

end Entry

/-- A JSON text that was written gives the members of its object, sorted. -/
theorem jsonMembers_text {ms : List (String × Value)} (hwhole : (Value.object ms).IsWhole)
    (hheight : (Value.object ms).height ≤ 127) :
    jsonMembers (Value.object ms).text =
      .ok (Entry.ofJsonMembers .jsonFile (Value.sorted (Value.membersInOrder ms))) := by
  unfold jsonMembers
  rw [Json.Decoder.decodeText_text hwhole, Json.Decoder.any_tree _ 0 (by omega)]
  rfl

/-- The keys of the tables of a file are different. -/
theorem hasKeys_fileMembers {files : List (String × String)} {members : Entry.Members}
    (h : fileMembers files = .ok members) : Entry.HasKeys members := by
  unfold fileMembers at h
  dsimp only at h
  split at h
  · cases h
    exact Entry.hasKeys_nil
  · exact Entry.hasKeys_tomlMembers h
  · exact Entry.hasKeys_jsonMembers h
  · cases h
    exact Entry.hasKeys_nil

/-- The keys of a file are names, and the sections that it mentions are tables, whose keys are names
as well. -/
structure IsTidy (members : Entry.Members) : Prop where
  names : ∀ m ∈ members, Path.IsName m.1
  sections : ∀ l : Leaf, ∀ e, find l.place.1 members = some e →
    ∃ o inner, e = .table o inner ∧ ∀ m ∈ inner, Path.IsName m.1

/-- A file that says nothing is tidy. -/
theorem isTidy_nil : IsTidy [] where
  names _ hm := by cases hm
  sections _ _ he := by cases he

/-- Keys that are names are in lower case. -/
theorem isLayer_of_names {members : Entry.Members} (hnodup : (members.map (·.1)).Nodup)
    (hnames : ∀ m ∈ members, Path.IsName m.1) : IsLayer members where
  nodup := hnodup
  lower m hm := Path.lowerCase_of_isName (hnames m hm)

/-- What the file says about a leaf. -/
def Leaf.said? (l : Leaf) (members : Entry.Members) : Option Entry :=
  (find l.place.1 members).bind (member? l.place.2)

/-- No leaf is a table, whatever is in the table. -/
theorem Leaf.read_laidOver (l : Leaf) (e : Entry) : l.read (e.laidOver none) = l.read e := by
  cases e with
  | table o members =>
      obtain ⟨o', members', h⟩ := Entry.isTable_putAll members ⟨none, [], rfl⟩
      show l.read (putAll members .blank) = _
      rw [show putAll members .blank = _ from h]
      cases l <;> rfl
  | _ => rfl

section

variable {members : Entry.Members} (hkeys : Entry.HasKeys members) (htidy : IsTidy members)

include hkeys htidy

/-- The sections of the file are laid over nothing, so each is there as the file has it. -/
theorem member?_file (k : String) :
    (overlay members .blank).member? k = (find k members).map (laidOver · none) := by
  have hlayer := isLayer_of_names hkeys.nodup htidy.names
  rw [overlay_of_names htidy.names, Entry.member?_putAll hlayer]
  exact Option.or_none

/-- The sections that the file mentions come out as tables. -/
theorem sectioned_file : Sectioned (overlay members .blank) := by
  intro l e he
  rw [member?_file hkeys htidy] at he
  obtain ⟨e', he', rfl⟩ := Option.map_eq_some_iff.mp he
  obtain ⟨o, inner, rfl, -⟩ := htidy.sections l e' he'
  exact Entry.isTable_putAll inner ⟨none, [], rfl⟩

/-- What the file says about a leaf is found there. -/
theorem at?_file (l : Leaf) :
    (overlay members .blank).at? l.place = (l.said? members).map (laidOver · none) := by
  rw [at?, member?_file hkeys htidy, Leaf.said?]
  cases hfind : find l.place.1 members with
  | none => rfl
  | some e =>
      obtain ⟨o, inner, rfl, hnames⟩ := htidy.sections l e hfind
      have hinner := hkeys.inner _ (Entry.mem_of_find hfind) o inner rfl
      show (putAll inner .blank).member? l.place.2 = (find l.place.2 inner).map (laidOver · none)
      rw [Entry.member?_putAll (isLayer_of_names hinner hnames)]
      exact Option.or_none

end

/-! ### The environment -/

/-- The name of the variable of a leaf, in lower case. -/
def Leaf.variable (l : Leaf) : String := "failwatch__" ++ l.place.1 ++ "__" ++ l.place.2

/-- There are so few leaves that their names can be compared one by one. -/
theorem Leaf.variable_injective {l l' : Leaf} (h : l.variable = l'.variable) : l = l' := by
  cases l <;> cases l' <;> first | rfl | exact absurd h (by decide)

/-- The name of a variable that counts. -/
def Counts (name : String) : Prop := variablePrefix.isPrefixOf (lowerCase name).toList = true

/-- What a variable says about the leaf that it names. -/
def ofVariable (text : String) : Entry := .scalar (some .environment) (variableScalar text)

/-- Every variable that counts names a leaf, and no two name the same. -/
structure NameLeaves (environment : List (String × String)) : Prop where
  known : ∀ v ∈ environment, Counts v.1 → ∃ l : Leaf, lowerCase v.1 = l.variable
  once : environment.Pairwise fun v w =>
    ∀ l : Leaf, lowerCase v.1 = l.variable → lowerCase w.1 ≠ l.variable

/-- An environment with the variable of one leaf. -/
theorem nameLeaves_singleton {l : Leaf} {name : String} (h : lowerCase name = l.variable)
    (text : String) : NameLeaves [(name, text)] where
  known v hv _ := ⟨l, by rw [List.mem_singleton.mp hv]; exact h⟩
  once := List.pairwise_singleton _ _

/-- The text of the variable of a leaf. -/
def Leaf.text? (l : Leaf) (environment : List (String × String)) : Option String :=
  (environment.find? fun v => lowerCase v.1 = l.variable).map (·.2)

/-- The first variable with the name of the leaf counts. -/
theorem Leaf.text?_cons (l : Leaf) (v : String × String) (environment : List (String × String)) :
    l.text? (v :: environment) =
      if lowerCase v.1 = l.variable then some v.2 else l.text? environment := by
  unfold text?
  rw [List.find?_cons]
  by_cases hv : lowerCase v.1 = l.variable
  · simp [hv]
  · simp [hv]

/-- In a longer environment the first part counts before the second. -/
theorem Leaf.text?_append (l : Leaf) (xs ys : List (String × String)) :
    l.text? (xs ++ ys) = (l.text? xs).or (l.text? ys) := by
  unfold text?
  rw [List.find?_append, Option.map_or]

theorem Leaf.text?_eq_none {l : Leaf} {environment : List (String × String)}
    (h : ∀ v ∈ environment, lowerCase v.1 ≠ l.variable) : l.text? environment = none := by
  unfold text?
  rw [Option.map_eq_none_iff, List.find?_eq_none]
  intro v hv hl
  exact h v hv (of_decide_eq_true hl)

/-- The variable of a leaf is not that of another one. -/
theorem Leaf.variable_ne {l l' : Leaf} {name : String} (hname : lowerCase name = l.variable)
    (h : l' ≠ l) : lowerCase name ≠ l'.variable := by
  rw [hname]
  exact fun heq => h (variable_injective heq).symm

/-- The variables of leaves have the prefix of those that count. -/
theorem counts_variable (l : Leaf) {name : String} (h : lowerCase name = l.variable) : Counts name := by
  unfold Counts
  rw [h]
  cases l <;> decide

/-- The variable of a leaf leads to the place of the leaf. -/
theorem variableMember?_of_leaf {l : Leaf} {name : String} (h : lowerCase name = l.variable)
    (text : String) : ∃ key, variableMember? name text = some (key, ofVariable text) ∧
      Path.ofKey key = [.member l.place.1, .member l.place.2] := by
  have hcounts : variablePrefix.isPrefixOf (lowerCase name).toList = true := counts_variable l h
  refine ⟨_, if_pos hcounts, ?_⟩
  rw [h]
  cases l <;> decide

/-- Other variables of the environment say nothing. -/
theorem variableMember?_of_not_counts {name : String} (h : ¬ Counts name) (text : String) :
    variableMember? name text = none := if_neg h

theorem lowerCase_place (l : Leaf) :
    lowerCase l.place.1 = l.place.1 ∧ lowerCase l.place.2 = l.place.2 := by
  cases l <;> decide

/-- The two parts of the name of a variable lead to the place of its leaf. -/
theorem leadsTo_place (l : Leaf) :
    Path.LeadsTo l.place [.member l.place.1, .member l.place.2] :=
  ⟨_, _, rfl, (lowerCase_place l).1, (lowerCase_place l).2⟩

/-- The path to a leaf spares every other leaf. -/
theorem spares_place {l l' : Leaf} (h : l' ≠ l) :
    Path.Spares l.place [.member l'.place.1, .member l'.place.2] := by
  refine ⟨_, _, rfl, ?_⟩
  rw [(lowerCase_place l').1]
  by_cases hsection : l'.place.1 = l.place.1
  · refine .inr ⟨_, _, rfl, ?_⟩
    rw [(lowerCase_place l').2]
    exact fun hname => h (Leaf.place_injective (Prod.ext hsection hname))
  · exact .inl hsection

theorem environmentMembers_cons (v : String × String) (environment : List (String × String)) :
    environmentMembers (v :: environment) =
      (variableMember? v.1 v.2).toList ++ environmentMembers environment := by
  unfold environmentMembers
  rw [List.filterMap_cons]
  cases h : variableMember? v.1 v.2 with
  | none => simp [h]
  | some m => simp [h]

theorem environmentMembers_append (xs ys : List (String × String)) :
    environmentMembers (xs ++ ys) = environmentMembers xs ++ environmentMembers ys :=
  List.filterMap_append

/-- Every variable names a leaf of its own if the first one is left out, too. -/
theorem NameLeaves.tail {v : String × String} {environment : List (String × String)}
    (h : NameLeaves (v :: environment)) : NameLeaves environment where
  known w hw := h.known w (List.mem_cons_of_mem v hw)
  once := (List.pairwise_cons.mp h.once).2

/-- The first variable either counts for nothing, or it names a leaf and is laid there. -/
theorem overlay_variable {v : String × String} {environment : List (String × String)}
    (h : NameLeaves (v :: environment)) (under : Entry) :
    (¬ Counts v.1 ∧ overlay (environmentMembers (v :: environment)) under =
        overlay (environmentMembers environment) under) ∨
      ∃ l : Leaf, lowerCase v.1 = l.variable ∧
        overlay (environmentMembers (v :: environment)) under =
          overlay (environmentMembers environment)
            (Path.set (ofVariable v.2) [.member l.place.1, .member l.place.2] under) := by
  rw [environmentMembers_cons]
  by_cases hcounts : Counts v.1
  · obtain ⟨l, hl⟩ := h.known v List.mem_cons_self hcounts
    obtain ⟨key, hkey, hpath⟩ := variableMember?_of_leaf hl v.2
    refine .inr ⟨l, hl, ?_⟩
    rw [hkey, ← hpath]
    rfl
  · refine .inl ⟨hcounts, ?_⟩
    rw [variableMember?_of_not_counts hcounts]
    rfl

/-- **A leaf is what its variable says**, or it is as it was before. -/
theorem at?_environment {environment : List (String × String)} (h : NameLeaves environment)
    (l : Leaf) (under : Entry) :
    (overlay (environmentMembers environment) under).at? l.place =
      ((l.text? environment).map ofVariable).or (under.at? l.place) := by
  induction environment generalizing under with
  | nil => rfl
  | cons v environment ih =>
      rw [l.text?_cons]
      rcases overlay_variable h under with ⟨hcounts, heq⟩ | ⟨l', hl', heq⟩
      · have hne : lowerCase v.1 ≠ l.variable := fun hl => hcounts (counts_variable l hl)
        rw [heq, ih h.tail, if_neg hne]
      · rw [heq, ih h.tail]
        by_cases hl : l = l'
        · subst hl
          -- No later variable names the same leaf.
          have hnone : l.text? environment = none := Leaf.text?_eq_none fun w hw =>
            (List.pairwise_cons.mp h.once).1 w hw l hl'
          rw [hnone, if_pos hl']
          exact Path.at?_set_of_leadsTo (leadsTo_place l) _ _
        · rw [if_neg (Leaf.variable_ne hl' hl), Path.at?_set_of_spares (spares_place (Ne.symm hl))]

/-- The variables leave the sections tables. -/
theorem sectioned_environment {environment : List (String × String)} (h : NameLeaves environment)
    {under : Entry} (hunder : Sectioned under) :
    Sectioned (overlay (environmentMembers environment) under) := by
  induction environment generalizing under with
  | nil => exact hunder
  | cons v environment ih =>
      rcases overlay_variable h under with ⟨-, heq⟩ | ⟨l', -, heq⟩
      · rw [heq]
        exact ih h.tail hunder
      · rw [heq]
        refine ih h.tail fun l e he => ?_
        rw [Path.member?_set] at he
        split at he
        · cases he
          exact Path.isTable_set _ _ _ _
        · exact hunder l e he

/-! ### All sources -/

/-- What a leaf is set to: what its variable says, if there is one, else what the file says, if it says
something, and else its default. -/
def Leaf.effective (l : Leaf) (members : Entry.Members) (environment : List (String × String)) :
    Except Mismatch Datum :=
  match l.text? environment, l.said? members with
  | some text, _ => l.read (ofVariable text)
  | none, some e => l.read e
  | none, none => .ok (l.get {})

section

variable {files environment : List (String × String)} {members : Entry.Members}

/-- The settings are read from the file with the environment laid over it. -/
theorem load_eq (hfile : fileMembers files = .ok members) :
    load files environment =
      ofEntry (overlay (environmentMembers environment) (overlay members .blank)) := by
  unfold load
  rw [hfile]
  rfl

/-- The variable counts for nothing, or it leaves the leaf alone. -/
def Leaf.IsSparedBy (l : Leaf) (v : String × String) : Prop :=
  ∀ m, variableMember? v.1 v.2 = some m → (Path.ofKey m.1).Spares l.place

/-- **The variable of a leaf decides about it**, if the later ones leave it alone, whatever the file says
and whatever the earlier ones are about. -/
theorem read_of_variable {l : Leaf} {before later : List (String × String)} {name text : String}
    (hname : lowerCase name = l.variable) (hlater : ∀ v ∈ later, l.IsSparedBy v) {u : Settings}
    (h : load files (before ++ (name, text) :: later) = .ok u) :
    l.read (ofVariable text) = .ok (l.get u) := by
  obtain ⟨members, hfile, -⟩ := ok_of_bind h
  rw [load_eq hfile] at h
  obtain ⟨key, hkey, hpath⟩ := variableMember?_of_leaf hname text
  have hspares : ∀ m ∈ environmentMembers later, (Path.ofKey m.1).Spares l.place := by
    intro m hm
    obtain ⟨v, hv, hvm⟩ := List.mem_filterMap.mp hm
    exact hlater v hv m hvm
  have hmembers : environmentMembers (before ++ (name, text) :: later) =
      environmentMembers before ++ (key, ofVariable text) :: environmentMembers later := by
    rw [environmentMembers_append, environmentMembers_cons, hkey]
    rfl
  rw [hmembers, overlay_append, overlay_cons] at h
  -- From here on only the last two layers matter: the variable, and what comes after it.
  generalize overlay (environmentMembers before) (overlay members .blank) = under at h
  have hat : (overlay (environmentMembers later)
      (Path.set (ofVariable text) (Path.ofKey key) under)).at? l.place = some (ofVariable text) := by
    rw [at?_overlay_of_spares hspares, hpath]
    exact Path.at?_set_of_leadsTo (leadsTo_place l) _ _
  have hvalue := value_of_ofEntry h l fun e he => Entry.isTable_of_at? he hat
  rw [hat] at hvalue
  exact hvalue

variable (hfile : fileMembers files = .ok members) (htidy : IsTidy members)
  (hnames : NameLeaves environment)

include hfile htidy hnames

/-- **Where a leaf comes from.** At the place of a leaf stands what its variable says; if there is none,
what the file says; and else nothing, so that it has its default. -/
theorem value_eq_effective (l : Leaf) :
    l.value ((overlay (environmentMembers environment) (overlay members .blank)).at? l.place) =
      l.effective members environment := by
  rw [at?_environment hnames, at?_file (hasKeys_fileMembers hfile) htidy, Leaf.effective]
  cases l.text? environment with
  | some text => rfl
  | none =>
      cases l.said? members with
      | none => rfl
      | some e => exact l.read_laidOver e

/-- With all sources laid over each other, the sections are tables. -/
theorem sectioned_all :
    Sectioned (overlay (environmentMembers environment) (overlay members .blank)) :=
  sectioned_environment hnames (sectioned_file (hasKeys_fileMembers hfile) htidy)

/-- The settings are loaded exactly if every leaf is. -/
theorem isOk_load : (∃ u, load files environment = .ok u) ↔
    ∀ l : Leaf, ∃ d, l.effective members environment = .ok d := by
  simp only [load_eq hfile, isOk_ofEntry (sectioned_all hfile htidy hnames),
    value_eq_effective hfile htidy hnames]

/-- Every leaf of the settings that are loaded is what it is read as. -/
theorem effective_of_load {u : Settings} (h : load files environment = .ok u) (l : Leaf) :
    l.effective members environment = .ok (l.get u) := by
  rw [load_eq hfile] at h
  rw [← value_eq_effective hfile htidy hnames]
  exact value_of_ofEntry h l (sectioned_all hfile htidy hnames l)

end

/-! ### One more variable -/

section

variable {before later : List (String × String)} {l : Leaf} {name text : String}

/-- Every variable still names a leaf of its own if one is left out. -/
theorem NameLeaves.without (h : NameLeaves (before ++ (name, text) :: later)) :
    NameLeaves (before ++ later) where
  known v hv := h.known v ((List.sublist_cons_self _ later).append_left before |>.subset hv)
  once := h.once.sublist ((List.sublist_cons_self _ later).append_left before)

/-- The variable of a leaf gives it its text, and has nothing to say about other leaves. -/
theorem text?_insert (h : NameLeaves (before ++ (name, text) :: later))
    (hname : lowerCase name = l.variable) :
    l.text? (before ++ (name, text) :: later) = some text ∧
      ∀ l' ≠ l, l'.text? (before ++ (name, text) :: later) = l'.text? (before ++ later) := by
  constructor
  · have hbefore : l.text? before = none := Leaf.text?_eq_none fun v hv hl =>
      (List.pairwise_append.mp h.once).2.2 v hv _ List.mem_cons_self l hl hname
    rw [l.text?_append, hbefore, Option.none_or, l.text?_cons, if_pos hname]
  · intro l' hl'
    rw [l'.text?_append, l'.text?_append, l'.text?_cons, if_neg (Leaf.variable_ne hname hl')]

/-- **What could be loaded can be loaded with one more variable** if that can be read; only its leaf
changes. -/
theorem load_with_variable {files : List (String × String)} {members : Entry.Members}
    (hfile : fileMembers files = .ok members) (htidy : IsTidy members)
    (hnames : NameLeaves (before ++ (name, text) :: later)) (hname : lowerCase name = l.variable)
    {d : Datum} (hread : l.read (ofVariable text) = .ok d) {u : Settings}
    (hu : load files (before ++ later) = .ok u) :
    ∃ u', load files (before ++ (name, text) :: later) = .ok u' ∧ l.get u' = d ∧
      ∀ l' ≠ l, l'.get u' = l'.get u := by
  obtain ⟨hself, hothers⟩ := text?_insert hnames hname
  have hl : l.effective members (before ++ (name, text) :: later) = .ok d := by
    rw [Leaf.effective, hself]
    exact hread
  have hl' (l' : Leaf) (hne : l' ≠ l) :
      l'.effective members (before ++ (name, text) :: later) = .ok (l'.get u) := by
    rw [Leaf.effective, hothers l' hne]
    exact effective_of_load hfile htidy hnames.without hu l'
  -- All is loaded: the leaf with the new variable can be read, and the others could be read before.
  obtain ⟨u', hu'⟩ := (isOk_load hfile htidy hnames).mpr fun l' => by
    by_cases heq : l' = l
    · exact ⟨d, heq ▸ hl⟩
    · exact ⟨_, hl' l' heq⟩
  have hget := effective_of_load hfile htidy hnames hu'
  exact ⟨u', hu', Except.ok.inj ((hget l).symm.trans hl),
    fun l' hne => Except.ok.inj ((hget l').symm.trans (hl' l' hne))⟩

end

/-- **Settings are layered one by one.** If the sections that the file mentions are tables and every
variable that counts names a leaf of its own, then loading fails exactly if some leaf cannot be read from
its own source, and otherwise every leaf is what it is read as. So a variable that can be read makes up
for whatever the file says about its leaf, and changing some variables leaves the other leaves alone. -/
theorem layered_by_leaf {files environment : List (String × String)} {members : Entry.Members}
    (hfile : fileMembers files = .ok members) (htidy : IsTidy members)
    (hnames : NameLeaves environment) :
    ((∃ e, load files environment = .error e) ↔
      ∃ (l : Leaf) (m : Mismatch), l.effective members environment = .error m) ∧
    (∀ u, load files environment = .ok u →
      ∀ l : Leaf, l.effective members environment = .ok (l.get u)) ∧
    (∀ (l : Leaf) text d, l.text? environment = some text → l.read (ofVariable text) = .ok d →
      ((∃ u, load files environment = .ok u) ↔
        ∀ l' ≠ l, ∃ d', l'.effective members environment = .ok d') ∧
      ∀ u, load files environment = .ok u → l.get u = d) ∧
    ∀ environment' u u', NameLeaves environment' → load files environment = .ok u →
      load files environment' = .ok u' →
      ∀ l : Leaf, l.text? environment' = l.text? environment → l.get u' = l.get u := by
  have hisOk := isOk_load hfile htidy hnames
  refine ⟨?_, fun u hu l => effective_of_load hfile htidy hnames hu l, ?_, ?_⟩
  · constructor
    · rintro ⟨e, he⟩
      -- If no leaf failed, all of them would be read, and then the settings would be loaded.
      by_contra hnone
      obtain ⟨u, hu⟩ := hisOk.mpr fun l => by
        cases hl : l.effective members environment with
        | ok d => exact ⟨d, rfl⟩
        | error m => exact absurd ⟨l, m, hl⟩ hnone
      rw [he] at hu
      cases hu
    · rintro ⟨l, m, hm⟩
      cases hload : load files environment with
      | error e => exact ⟨e, rfl⟩
      | ok u =>
          rw [effective_of_load hfile htidy hnames hload l] at hm
          cases hm
  · intro l text d htext hd
    have hl : l.effective members environment = .ok d := by
      rw [Leaf.effective, htext]
      exact hd
    constructor
    · rw [hisOk]
      constructor
      · exact fun h l' _ => h l'
      · intro h l'
        by_cases heq : l' = l
        · exact ⟨d, heq ▸ hl⟩
        · exact h l' heq
    · intro u hu
      rw [effective_of_load hfile htidy hnames hu l] at hl
      exact Except.ok.inj hl
  · intro environment' u u' hnames' hu hu' l htext
    have heffective := effective_of_load hfile htidy hnames hu l
    have heffective' := effective_of_load hfile htidy hnames' hu' l
    rw [Leaf.effective, htext, ← Leaf.effective, heffective] at heffective'
    exact (Except.ok.inj heffective').symm

/-- A variable makes up for a window in words; the other settings come from the file, or are the default
ones. -/
theorem layered_by_leaf_of_repair :
    let file : Value := .object [
      ("alerting", .object [("window_seconds", .string "a minute")]),
      ("pager", .object [("component", .string "edge-proxy")])]
    let files := [("failwatch.json", file.text)]
    let environment := [("FAILWATCH__ALERTING__WINDOW_SECONDS", "120")]
    ∃ members, fileMembers files = .ok members ∧ IsTidy members ∧ NameLeaves environment ∧
      ∃ u, load files environment = .ok u ∧ u.alerting.windowSeconds = 120 ∧
        u.paging.component = "edge-proxy" ∧ u.paging.timeoutSeconds = 10 := by
  intro file files environment
  let members : Entry.Members := [
    ("alerting", .table (some .jsonFile)
      [("window_seconds", .scalar (some .jsonFile) (.text "a minute"))]),
    ("pager", .table (some .jsonFile)
      [("component", .scalar (some .jsonFile) (.text "edge-proxy"))])]
  have hfile : fileMembers files = .ok members := by
    have hjson : fileMembers files = jsonMembers file.text := rfl
    rw [hjson, jsonMembers_text (by simp [Value.IsWhole, Value.MembersAreWhole]) (by decide)]
    rfl
  have htidy : IsTidy members := by
    refine ⟨by decide, fun l e he => ?_⟩
    cases l <;> cases he <;> exact ⟨_, _, rfl, by decide⟩
  have hnames : NameLeaves environment := nameLeaves_singleton (l := .windowSeconds) (by decide) _
  -- The environment repairs the only leaf that the file spoils, so the loading cannot fail.
  have hall : ∀ l : Leaf, ∃ d, l.effective members environment = .ok d := by
    intro l
    cases l <;> exact ⟨_, rfl⟩
  obtain ⟨hfails, hsets, -⟩ := layered_by_leaf hfile htidy hnames
  cases hload : load files environment with
  | error e =>
      obtain ⟨l, m, hm⟩ := hfails.mp ⟨e, hload⟩
      obtain ⟨d, hd⟩ := hall l
      rw [hd] at hm
      cases hm
  | ok u =>
      have hwindow : Except.ok (Datum.whole 120) = _ := hsets u hload .windowSeconds
      have hcomponent : Except.ok (Datum.text "edge-proxy") = _ := hsets u hload .component
      have htimeout : Except.ok (Datum.whole 10) = _ := hsets u hload .timeoutSeconds
      refine ⟨members, hfile, htidy, hnames, u, rfl, ?_, ?_, ?_⟩
      · exact (Int.ofNat_inj.mp (Datum.whole.inj (Except.ok.inj hwindow))).symm
      · exact (Datum.text.inj (Except.ok.inj hcomponent)).symm
      · exact (Int.ofNat_inj.mp (Datum.whole.inj (Except.ok.inj htimeout))).symm

end Settings
end FailureAlarm
