import FailureAlarm.Proofs.Layers
import FailureAlarm.Proofs.Record

/-!
# Settings one by one

Settings are read section by section, and a section is put together setting by setting
(`Section.assemble`). Here they are told apart again: each single setting is a `Leaf`, which has its place
in the entries, the way in which it is read, and its value in the settings.

If every section that is there is a table, then all is read exactly if every leaf is (`isOk_ofEntry`), and
then each leaf is what its own entry says, or its default (`value_of_ofEntry`).
-/

namespace FailureAlarm
namespace Settings

open Entry (Place find member? at? IsTable)
open Json.Decoder (ok_of_bind ok_of_map)

/-- The value of a single setting. -/
inductive Datum where
  | text (s : String)
  | whole (n : Int)
  | truth (b : Bool)
deriving DecidableEq, Repr

/-- What an entry is read as, or the default if there is none. -/
def valueOr (read : Entry → Except Mismatch Datum) (default : Datum) :
    Option Entry → Except Mismatch Datum
  | none => .ok default
  | some e => read e

/-! ### Sections -/

@[simp] theorem name_setting {α σ : Type} (name : String) (read : Entry → Except Mismatch α)
    (set : α → σ → σ) : (setting name read set).name = name := rfl

@[simp] theorem read_setting {α σ : Type} (name : String) (read : Entry → Except Mismatch α)
    (set : α → σ → σ) (e : Entry) : (setting name read set).read e = (read e).map set := rfl

@[simp] theorem map_map {ε α β γ : Type} (x : Except ε α) (f : α → β) (g : β → γ) :
    (x.map f).map g = x.map fun a => g (f a) := by
  cases x <;> rfl

@[simp] theorem map_eq_ok_iff {ε α β : Type} {f : α → β} {x : Except ε α} {b : β} :
    x.map f = .ok b ↔ ∃ a, x = .ok a ∧ f a = b := by
  constructor
  · exact ok_of_map
  · rintro ⟨a, rfl, rfl⟩
    rfl

namespace Section

variable {σ : Type} {s : Section σ} {name : String} {read : Entry → Except Mismatch Datum}
  {get : σ → Datum} {members : Entry.Members} {v v' : σ}

/-- Read settings one after the other. -/
def assemble (given : List (Setting σ × Entry × String)) (v : σ) : Except Error σ :=
  given.foldlM (fun value (f, e, place) =>
    match f.read e with
    | .ok change => .ok (change value)
    | .error m => .error (.wrongType m.found m.wanted place e.origin)) v

/-- The settings that have entries in a table. -/
def givenIn (key : String) (members : Entry.Members) (settings : List (Setting σ)) :
    List (Setting σ × Entry × String) :=
  settings.filterMap fun f => (members.find? (·.1 = f.name)).map fun (_, e) => (f, e, s!"{key}.{f.name}")

/-- Of the settings of a section, those count that the table mentions, with the place where they stand. -/
theorem givenIn_cons (key : String) (members : Entry.Members) (f : Setting σ) (fs : List (Setting σ)) :
    givenIn key members (f :: fs) =
      ((find f.name members).map fun e => (f, e, s!"{key}.{f.name}")).toList ++
        givenIn key members fs := by
  unfold givenIn find
  rw [List.filterMap_cons]
  cases members.find? (·.1 = f.name) <;> rfl

/-- A setting is read if it has an entry, and then the others are. -/
theorem assemble_cons {key : String} {f : Setting σ} {fs : List (Setting σ)}
    (h : assemble (givenIn key members (f :: fs)) v = .ok v') :
    (find f.name members = none ∧ assemble (givenIn key members fs) v = .ok v') ∨
      ∃ e change, find f.name members = some e ∧ f.read e = .ok change ∧
        assemble (givenIn key members fs) (change v) = .ok v' := by
  rw [givenIn_cons] at h
  cases hfind : find f.name members with
  | none =>
      rw [hfind] at h
      exact .inl ⟨rfl, h⟩
  | some e =>
      rw [hfind] at h
      obtain ⟨w, hw, hrest⟩ := ok_of_bind h
      dsimp only at hw
      cases hread : f.read e with
      | error m =>
          rw [hread] at hw
          cases hw
      | ok change =>
          rw [hread] at hw
          cases hw
          exact .inr ⟨e, change, rfl, hread, hrest⟩

/-- All settings with entries are read exactly if each of them is. -/
theorem isOk_assemble (key : String) (members : Entry.Members) (fs : List (Setting σ)) (v : σ) :
    (∃ v', assemble (givenIn key members fs) v = .ok v') ↔
      ∀ f ∈ fs, ∀ e, find f.name members = some e → ∃ change, f.read e = .ok change := by
  induction fs generalizing v with
  | nil => exact ⟨fun _ f hf => (by cases hf), fun _ => ⟨v, rfl⟩⟩
  | cons f fs ih =>
      rw [List.forall_mem_cons]
      constructor
      · rintro ⟨v', h⟩
        rcases assemble_cons h with ⟨hnone, hrest⟩ | ⟨e, change, hfind, hread, hrest⟩
        · refine ⟨fun e he => ?_, (ih v).mp ⟨v', hrest⟩⟩
          rw [hnone] at he
          cases he
        · refine ⟨fun e' he' => ?_, (ih _).mp ⟨v', hrest⟩⟩
          rw [hfind] at he'
          cases he'
          exact ⟨change, hread⟩
      -- The settings are read in their order, and a setting that can be read hands over to the next.
      · rintro ⟨hf, hrest⟩
        rw [givenIn_cons]
        cases hfind : find f.name members with
        | none => exact (ih v).mpr hrest
        | some e =>
            obtain ⟨change, hread⟩ := hf e hfind
            obtain ⟨v', hv'⟩ := (ih (change v)).mpr hrest
            refine ⟨v', ?_⟩
            show (match f.read e with
              | .ok change => Except.ok (change v)
              | .error m => _).bind _ = _
            rw [hread]
            exact hv'

/-- Among these settings, the one called `name` makes what `get` reads off what `read` makes of its
entry, and no other one changes that. -/
structure Column (settings : List (Setting σ)) (name : String) (read : Entry → Except Mismatch Datum)
    (get : σ → Datum) : Prop where
  nodup : (settings.map (·.name)).Nodup
  sets : ∀ f ∈ settings, f.name = name → ∀ e v, (f.read e).map (fun change => get (change v)) = read e
  keeps : ∀ f ∈ settings, f.name ≠ name → ∀ e v,
    (f.read e).map (fun change => get (change v)) = (f.read e).map fun _ => get v

/-- The rest of a column is a column. -/
theorem Column.tail {f : Setting σ} {fs : List (Setting σ)} (c : Column (f :: fs) name read get) :
    Column fs name read get where
  nodup := (List.nodup_cons.mp c.nodup).2
  sets g hg := c.sets g (List.mem_cons_of_mem f hg)
  keeps g hg := c.keeps g (List.mem_cons_of_mem f hg)

/-- A column is what its entry says, or stays as it was. -/
theorem assemble_column {key : String} {fs : List (Setting σ)} (c : Column fs name read get)
    (h : assemble (givenIn key members fs) v = .ok v') :
    (name ∉ fs.map (·.name) → get v' = get v) ∧
      (name ∈ fs.map (·.name) → valueOr read (get v) (find name members) = .ok (get v')) := by
  induction fs generalizing v with
  | nil =>
      cases h
      exact ⟨fun _ => rfl, fun hin => by cases hin⟩
  | cons f fs ih =>
      have hnew := (List.nodup_cons.mp c.nodup).1
      rw [List.map_cons, List.mem_cons]
      rcases assemble_cons h with ⟨hnone, hrest⟩ | ⟨e, change, hfind, hread, hrest⟩
      · obtain ⟨hout, hin⟩ := ih c.tail hrest
        by_cases hname : f.name = name
        · -- It is the setting of the column, and no later one has its name.
          subst hname
          refine ⟨fun hnot => absurd (.inl rfl) hnot, fun _ => ?_⟩
          rw [hnone, valueOr, hout hnew]
        · rw [or_iff_right (Ne.symm hname)]
          exact ⟨hout, hin⟩
      · obtain ⟨hout, hin⟩ := ih c.tail hrest
        by_cases hname : f.name = name
        · subst hname
          refine ⟨fun hnot => absurd (.inl rfl) hnot, fun _ => ?_⟩
          rw [hfind, valueOr, hout hnew, ← c.sets f List.mem_cons_self rfl e v, hread]
          rfl
        · have hkeep : get (change v) = get v := by
            have hsame := c.keeps f List.mem_cons_self hname e v
            rw [hread] at hsame
            exact Except.ok.inj hsame
          rw [or_iff_right (Ne.symm hname), ← hkeep]
          exact ⟨hout, hin⟩

/-- A section that is not mentioned has its defaults. -/
theorem read_of_none {blank : σ} (h : find s.key members = none) :
    s.read blank members = .ok blank := by
  unfold find at h
  unfold Section.read
  rw [Option.map_eq_none_iff.mp h]

/-- A section that is a table is put together from the settings that the table mentions. -/
theorem read_of_table {blank : σ} {o : Option Origin} {inner : Entry.Members}
    (h : find s.key members = some (.table o inner)) :
    s.read blank members = assemble (givenIn s.key inner s.settings) blank := by
  obtain ⟨⟨k, e⟩, hfind, rfl⟩ := Option.map_eq_some_iff.mp h
  unfold Section.read
  rw [hfind]
  rfl

/-- **A section is read exactly if each of its settings is.** -/
theorem isOk_read (blank : σ) {o : Option Origin}
    (htable : ∀ e, (Entry.table o members).member? s.key = some e → e.IsTable) :
    (∃ v, s.read blank members = .ok v) ↔
      ∀ f ∈ s.settings, ∀ x, (Entry.table o members).at? (s.key, f.name) = some x →
        ∃ change, f.read x = .ok change := by
  cases hfind : find s.key members with
  | none =>
      have hat (f : Setting σ) : (Entry.table o members).at? (s.key, f.name) = none := by
        rw [Entry.at?_table, hfind]
        rfl
      refine ⟨fun _ f _ x hx => ?_, fun _ => ⟨blank, read_of_none hfind⟩⟩
      rw [hat] at hx
      cases hx
  | some e =>
      obtain ⟨o', inner, rfl⟩ := htable e hfind
      have hat (f : Setting σ) : (Entry.table o members).at? (s.key, f.name) = find f.name inner := by
        rw [Entry.at?_table, hfind]
        rfl
      simp only [hat, read_of_table hfind]
      exact isOk_assemble s.key inner s.settings blank

/-- **A column of a section is what its entry says, or its default.** -/
theorem read_column (c : Column s.settings name read get) (hname : name ∈ s.settings.map (·.name))
    {blank : σ} {o : Option Origin}
    (htable : ∀ e, (Entry.table o members).member? s.key = some e → e.IsTable)
    (h : s.read blank members = .ok v) :
    valueOr read (get blank) ((Entry.table o members).at? (s.key, name)) = .ok (get v) := by
  cases hfind : find s.key members with
  | none =>
      rw [read_of_none hfind] at h
      cases h
      rw [Entry.at?_table, hfind]
      rfl
  | some e =>
      obtain ⟨o', inner, rfl⟩ := htable e hfind
      rw [read_of_table hfind] at h
      rw [Entry.at?_table, hfind]
      exact (assemble_column c h).2 hname

end Section

/-! ### Leaves -/

/-- A single setting. -/
inductive Leaf where
  | address
  | windowSeconds
  | threshold
  | maxLines
  | endpoint
  | timeoutSeconds
  | source
  | component
  | enabled
  | budgetSeconds
  | json
deriving DecidableEq, Repr

namespace Leaf

/-- Where the entry of a leaf is found. -/
@[simp] def place : Leaf → Place
  | address => ("server", "addr")
  | windowSeconds => ("alerting", "window_seconds")
  | threshold => ("alerting", "failure_threshold")
  | maxLines => ("alerting", "max_summary_errors")
  | endpoint => ("pager", "endpoint")
  | timeoutSeconds => ("pager", "timeout_secs")
  | source => ("pager", "source")
  | component => ("pager", "component")
  | enabled => ("watchdog", "enabled")
  | budgetSeconds => ("watchdog", "latency_budget_secs")
  | json => ("logging", "json")

/-- What the entry of a leaf is read as. -/
@[simp] def read : Leaf → Entry → Except Mismatch Datum
  | address | endpoint | source | component => fun e => (textOf e).map .text
  | windowSeconds | maxLines | timeoutSeconds | budgetSeconds => fun e =>
    (natOf e).map fun n : Nat => .whole n
  | threshold => fun e => (intOf e).map .whole
  | enabled | json => fun e => (boolOf e).map .truth

/-- The value of a leaf in settings. -/
def get : Leaf → Settings → Datum
  | address => fun s => .text s.server.address
  | windowSeconds => fun s => .whole s.alerting.windowSeconds
  | threshold => fun s => .whole s.alerting.threshold
  | maxLines => fun s => .whole s.alerting.maxLines
  | endpoint => fun s => .text s.paging.endpoint
  | timeoutSeconds => fun s => .whole s.paging.timeoutSeconds
  | source => fun s => .text s.paging.source
  | component => fun s => .text s.paging.component
  | enabled => fun s => .truth s.watchdog.enabled
  | budgetSeconds => fun s => .whole s.watchdog.budgetSeconds
  | json => fun s => .truth s.logging.json

/-- No two leaves have the same place. -/
theorem place_injective {l l' : Leaf} (h : l.place = l'.place) : l = l' := by
  cases l <;> cases l' <;> first | rfl | exact absurd h (by decide)

/-- **Settings are their leaves.** -/
theorem ext_get {s s' : Settings} (h : ∀ l : Leaf, l.get s = l.get s') : s = s' := by
  obtain ⟨⟨address⟩, ⟨window, threshold, lines⟩, ⟨endpoint, timeout, source, component⟩,
    ⟨enabled, budget⟩, ⟨json⟩⟩ := s
  obtain ⟨⟨address'⟩, ⟨window', threshold', lines'⟩, ⟨endpoint', timeout', source', component'⟩,
    ⟨enabled', budget'⟩, ⟨json'⟩⟩ := s'
  obtain rfl : address = address' := Datum.text.inj (h .address)
  obtain rfl : window = window' := Int.ofNat_inj.mp (Datum.whole.inj (h .windowSeconds))
  obtain rfl : threshold = threshold' := Datum.whole.inj (h .threshold)
  obtain rfl : lines = lines' := Int.ofNat_inj.mp (Datum.whole.inj (h .maxLines))
  obtain rfl : endpoint = endpoint' := Datum.text.inj (h .endpoint)
  obtain rfl : timeout = timeout' := Int.ofNat_inj.mp (Datum.whole.inj (h .timeoutSeconds))
  obtain rfl : source = source' := Datum.text.inj (h .source)
  obtain rfl : component = component' := Datum.text.inj (h .component)
  obtain rfl : enabled = enabled' := Datum.truth.inj (h .enabled)
  obtain rfl : budget = budget' := Int.ofNat_inj.mp (Datum.whole.inj (h .budgetSeconds))
  obtain rfl : json = json' := Datum.truth.inj (h .json)
  rfl

/-- What a leaf is set to by its entry, or by default. -/
def value (l : Leaf) : Option Entry → Except Mismatch Datum := valueOr l.read (l.get {})

end Leaf

/-! ### All sections -/

/-- The settings are read section by section, and no section looks at another. -/
theorem ofMembers_eq_ok_iff {members : Entry.Members} {u : Settings} :
    ofMembers members = .ok u ↔
      serverSection.read {} members = .ok u.server ∧ alertingSection.read {} members = .ok u.alerting ∧
      pagingSection.read {} members = .ok u.paging ∧ watchdogSection.read {} members = .ok u.watchdog ∧
      logSection.read {} members = .ok u.logging := by
  constructor
  · intro h
    obtain ⟨server, hserver, h⟩ := ok_of_bind h
    obtain ⟨alerting, halerting, h⟩ := ok_of_bind h
    obtain ⟨paging, hpaging, h⟩ := ok_of_bind h
    obtain ⟨watchdog, hwatchdog, h⟩ := ok_of_bind h
    obtain ⟨logging, hlogging, h⟩ := ok_of_bind h
    cases h
    exact ⟨hserver, halerting, hpaging, hwatchdog, hlogging⟩
  · rintro ⟨hserver, halerting, hpaging, hwatchdog, hlogging⟩
    unfold ofMembers
    rw [hserver, halerting, hpaging, hwatchdog, hlogging]
    rfl

/-- Read settings from an entry. -/
def ofEntry : Entry → Except Error Settings
  | .table _ members => ofMembers members
  | _ => .ok {}

/-- The sections that are there are tables. -/
def Sectioned (e : Entry) : Prop := ∀ l : Leaf, ∀ e', e.member? l.place.1 = some e' → e'.IsTable

/-- A leaf that is a column of its section. -/
theorem value_of_column {σ : Type} {s : Section σ} {blank v : σ} {o : Option Origin}
    {members : Entry.Members} {u : Settings} {l : Leaf} (get : σ → Datum)
    (c : Section.Column s.settings l.place.2 l.read get)
    (hname : l.place.2 ∈ s.settings.map (·.name)) (hkey : l.place.1 = s.key)
    (hblank : l.get {} = get blank) (hget : l.get u = get v)
    (htable : ∀ e, (Entry.table o members).member? l.place.1 = some e → e.IsTable)
    (h : s.read blank members = .ok v) :
    l.value ((Entry.table o members).at? l.place) = .ok (l.get u) := by
  have hplace : l.place = (s.key, l.place.2) := Prod.ext hkey rfl
  rw [hkey] at htable
  rw [Leaf.value, hblank, hget, hplace]
  exact Section.read_column c hname htable h

/-- **A leaf is what its entry says**, or its default, if its section is a table or not there. -/
theorem value_of_ofEntry {e : Entry} {u : Settings} (h : ofEntry e = .ok u) (l : Leaf)
    (htable : ∀ e', e.member? l.place.1 = some e' → e'.IsTable) :
    l.value (e.at? l.place) = .ok (l.get u) := by
  cases e with
  | table o members =>
      obtain ⟨hserver, halerting, hpaging, hwatchdog, hlogging⟩ := ofMembers_eq_ok_iff.mp h
      -- Each leaf is a column of its section; what has to be checked is that no other setting changes it.
      cases l
      case address =>
        exact value_of_column (fun v => .text v.address)
          ⟨by decide, by simp [serverSection], by simp [serverSection]⟩ (by decide) rfl rfl rfl
          htable hserver
      case windowSeconds =>
        exact value_of_column (fun v => .whole v.windowSeconds)
          ⟨by decide, by simp [alertingSection], by simp [alertingSection]⟩ (by decide) rfl rfl rfl
          htable halerting
      case threshold =>
        exact value_of_column (fun v => .whole v.threshold)
          ⟨by decide, by simp [alertingSection], by simp [alertingSection]⟩ (by decide) rfl rfl rfl
          htable halerting
      case maxLines =>
        exact value_of_column (fun v => .whole v.maxLines)
          ⟨by decide, by simp [alertingSection], by simp [alertingSection]⟩ (by decide) rfl rfl rfl
          htable halerting
      case endpoint =>
        exact value_of_column (fun v => .text v.endpoint)
          ⟨by decide, by simp [pagingSection], by simp [pagingSection]⟩ (by decide) rfl rfl rfl
          htable hpaging
      case timeoutSeconds =>
        exact value_of_column (fun v => .whole v.timeoutSeconds)
          ⟨by decide, by simp [pagingSection], by simp [pagingSection]⟩ (by decide) rfl rfl rfl
          htable hpaging
      case source =>
        exact value_of_column (fun v => .text v.source)
          ⟨by decide, by simp [pagingSection], by simp [pagingSection]⟩ (by decide) rfl rfl rfl
          htable hpaging
      case component =>
        exact value_of_column (fun v => .text v.component)
          ⟨by decide, by simp [pagingSection], by simp [pagingSection]⟩ (by decide) rfl rfl rfl
          htable hpaging
      case enabled =>
        exact value_of_column (fun v => .truth v.enabled)
          ⟨by decide, by simp [watchdogSection], by simp [watchdogSection]⟩ (by decide) rfl rfl rfl
          htable hwatchdog
      case budgetSeconds =>
        exact value_of_column (fun v => .whole v.budgetSeconds)
          ⟨by decide, by simp [watchdogSection], by simp [watchdogSection]⟩ (by decide) rfl rfl rfl
          htable hwatchdog
      case json =>
        exact value_of_column (fun v => .truth v.json)
          ⟨by decide, by simp [logSection], by simp [logSection]⟩ (by decide) rfl rfl rfl
          htable hlogging
  | scalar o v => cases h; rfl
  | array o items => cases h; rfl

/-- A setting is read if its leaf is. -/
theorem exists_change {α σ : Type} {name : String} {read : Entry → Except Mismatch α}
    {set : α → σ → σ} {datum : α → Datum} {default : Datum} {o : Option Entry} {x : Entry}
    (h : ∃ d, valueOr (fun e => (read e).map datum) default o = .ok d) (hx : o = some x) :
    ∃ change, (setting name read set).read x = .ok change := by
  subst hx
  obtain ⟨d, hd⟩ := h
  obtain ⟨a, ha, -⟩ := ok_of_map hd
  exact ⟨set a, map_eq_ok_iff.mpr ⟨a, ha, rfl⟩⟩

/-- **All is read exactly if each leaf is**, if the sections that are there are tables. -/
theorem isOk_ofEntry {e : Entry} (htables : Sectioned e) :
    (∃ u, ofEntry e = .ok u) ↔ ∀ l : Leaf, ∃ d, l.value (e.at? l.place) = .ok d := by
  constructor
  · rintro ⟨u, hu⟩ l
    exact ⟨l.get u, value_of_ofEntry hu l (htables l)⟩
  · intro h
    cases e with
    | scalar o v => exact ⟨{}, rfl⟩
    | array o items => exact ⟨{}, rfl⟩
    | table o members =>
        -- A section can be read if its leaves can, whether the table mentions them or not.
        have hserver : ∃ v, serverSection.read {} members = .ok v := by
          refine (Section.isOk_read (s := serverSection) {} (htables .address)).mpr ?_
          simp only [serverSection, List.forall_mem_cons]
          exact ⟨fun _ => exists_change (h .address), List.forall_mem_nil _⟩
        have halerting : ∃ v, alertingSection.read {} members = .ok v := by
          refine (Section.isOk_read (s := alertingSection) {} (htables .windowSeconds)).mpr ?_
          simp only [alertingSection, List.forall_mem_cons]
          exact ⟨fun _ => exists_change (h .windowSeconds),
            fun _ => exists_change (h .threshold),
            fun _ => exists_change (h .maxLines), List.forall_mem_nil _⟩
        have hpaging : ∃ v, pagingSection.read {} members = .ok v := by
          refine (Section.isOk_read (s := pagingSection) {} (htables .endpoint)).mpr ?_
          simp only [pagingSection, List.forall_mem_cons]
          exact ⟨fun _ => exists_change (h .endpoint),
            fun _ => exists_change (h .timeoutSeconds),
            fun _ => exists_change (h .source),
            fun _ => exists_change (h .component), List.forall_mem_nil _⟩
        have hwatchdog : ∃ v, watchdogSection.read {} members = .ok v := by
          refine (Section.isOk_read (s := watchdogSection) {} (htables .enabled)).mpr ?_
          simp only [watchdogSection, List.forall_mem_cons]
          exact ⟨fun _ => exists_change (h .enabled),
            fun _ => exists_change (h .budgetSeconds), List.forall_mem_nil _⟩
        have hlogging : ∃ v, logSection.read {} members = .ok v := by
          refine (Section.isOk_read (s := logSection) {} (htables .json)).mpr ?_
          simp only [logSection, List.forall_mem_cons]
          exact ⟨fun _ => exists_change (h .json), List.forall_mem_nil _⟩
        obtain ⟨server, hserver⟩ := hserver
        obtain ⟨alerting, halerting⟩ := halerting
        obtain ⟨paging, hpaging⟩ := hpaging
        obtain ⟨watchdog, hwatchdog⟩ := hwatchdog
        obtain ⟨logging, hlogging⟩ := hlogging
        refine ⟨⟨server, alerting, paging, watchdog, logging⟩, ?_⟩
        exact ofMembers_eq_ok_iff.mpr ⟨hserver, halerting, hpaging, hwatchdog, hlogging⟩

end Settings
end FailureAlarm
