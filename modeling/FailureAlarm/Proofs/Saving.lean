import FailureAlarm.Proofs.Spelling

/-!
# Saved settings load back

Settings that were written to `failwatch.json` are loaded from there as they were (`load_saved`): the
values of strings and truth values are not interpreted there, and a whole number is kept if it fits in 64
bits with a sign (`Fits`).

A leaf that is a whole number can also be set by its variable. The numeral of such a number is read as
that number (`Leaf.read_numeral`), and a variable that can be read is added to what is loaded without
changing other leaves (`load_with_variable`).
-/

namespace FailureAlarm
namespace Settings

open Json (Value)
open Digits (ofInt)

/-! ### Whole numbers -/

/-- The leaf is a whole number, and can be `n` if that fits. -/
def Leaf.Takes (l : Leaf) (n : Int) : Prop :=
  match l with
  | windowSeconds | maxLines | timeoutSeconds | budgetSeconds => 0 ≤ n
  | threshold => True
  | _ => False

theorem Leaf.takes_of_get {l : Leaf} {s : Settings} {n : Int} (h : l.get s = .whole n) : l.Takes n := by
  cases l <;> cases h
  case threshold => trivial
  all_goals exact Int.natCast_nonneg _

/-- A leaf that can be a number is read from it. -/
theorem Leaf.read_whole {l : Leaf} {n : Int} (h : l.Takes n) (o : Option Origin) :
    l.read (.scalar o (.integer n)) = .ok (.whole n) := by
  have hnat (hn : 0 ≤ n) : (natOf (.scalar o (.integer n))).map (fun k : Nat => Datum.whole k) =
      .ok (.whole n) := by
    simp only [natOf, wholeOf, if_pos hn, Except.map, Int.toNat_of_nonneg hn]
  cases l
  case threshold => rfl
  case windowSeconds | maxLines | timeoutSeconds | budgetSeconds => exact hnat h
  all_goals exact h.elim

/-- The numeral of a number is read as that number. -/
theorem Leaf.read_numeral {l : Leaf} {n : Int} (h : l.Takes n) (hfits : FitsSigned n) :
    l.read (ofVariable (String.ofList (ofInt n))) = .ok (.whole n) := by
  rw [ofVariable, variableScalar_ofInt hfits]
  exact Leaf.read_whole h _

/-! ### The saved file -/

/-- The whole numbers of the settings fit in 64 bits with a sign. -/
def Fits (s : Settings) : Prop := ∀ (l : Leaf) n, l.get s = .whole n → FitsSigned n

/-- The form of a setting in JSON. -/
def Datum.toJson : Datum → Value
  | .text s => .string s
  | .whole n => .ofInt n
  | .truth b => .bool b

/-- What a file with saved settings says, in the order of the keys. -/
def saved (s : Settings) : Entry.Members :=
  let leaf (l : Leaf) : String × Entry := (l.place.2, .ofJson .jsonFile (l.get s).toJson)
  let table (key : String) (leaves : List Leaf) : String × Entry :=
    (key, .table (some .jsonFile) (leaves.map leaf))
  [ table "alerting" [.threshold, .maxLines, .windowSeconds],
    table "logging" [.json],
    table "pager" [.component, .endpoint, .source, .timeoutSeconds],
    table "server" [.address],
    table "watchdog" [.enabled, .budgetSeconds] ]

theorem Leaf.isName_key (l : Leaf) : Path.IsName l.place.2 := by
  cases l <;> decide

theorem isTidy_saved (s : Settings) : IsTidy s.saved where
  names := by
    have hkeys : ∀ k ∈ s.saved.map (·.1), Path.IsName k := by
      show ∀ k ∈ ["alerting", "logging", "pager", "server", "watchdog"], Path.IsName k
      decide
    exact fun m hm => hkeys m.1 (List.mem_map_of_mem hm)
  sections l e he := by
    cases l <;> cases he <;> exact ⟨_, _, rfl, List.forall_mem_map.mpr fun l' _ => l'.isName_key⟩

/-- Every leaf is in the saved file. -/
theorem said?_saved (l : Leaf) (s : Settings) :
    l.said? s.saved = some (.ofJson .jsonFile (l.get s).toJson) := by
  cases l <;> rfl

theorem isWhole_toJson {s : Settings} (h : s.Fits) : s.toJson.IsWhole := by
  have hwindow := h .windowSeconds _ rfl
  have hthreshold := h .threshold _ rfl
  have hlines := h .maxLines _ rfl
  have htimeout := h .timeoutSeconds _ rfl
  have hbudget := h .budgetSeconds _ rfl
  unfold FitsSigned at hwindow hthreshold hlines htimeout hbudget
  simp only [toJson, ServerSettings.toJson, Policy.toJson, PagingConfig.toJson, WatchPolicy.toJson,
    LogSettings.toJson, Value.ofNat, Value.ofInt, Value.IsWhole, Value.MembersAreWhole, Json.Tree.Fits,
    and_true, true_and]
  omega

theorem jsonMembers_saved {s : Settings} (h : s.Fits) : jsonMembers s.toJson.text = .ok s.saved := by
  have hwhole := isWhole_toJson h
  unfold toJson at hwhole ⊢
  rw [jsonMembers_text hwhole (by decide : 2 ≤ 127)]
  rfl

/-- A leaf is read from its saved form. -/
theorem Leaf.read_saved (l : Leaf) {s : Settings} (h : s.Fits) :
    l.read (.ofJson .jsonFile (l.get s).toJson) = .ok (l.get s) := by
  cases hget : l.get s with
  | whole n =>
      have hinteger : Entry.ofJson .jsonFile (Datum.whole n).toJson =
          .scalar (some .jsonFile) (.integer n) := if_pos (h l n hget).2
      rw [hinteger]
      exact Leaf.read_whole (Leaf.takes_of_get hget) _
  | text t => cases l <;> first | rfl | cases hget
  | truth b => cases l <;> first | rfl | cases hget

/-! ### Loading -/

/-- The text of the file with this name. -/
def fileText? (name : String) (files : List (String × String)) : Option String :=
  (files.find? (·.1 = name)).map (·.2)

/-- The JSON file is the one that counts if there is no other. -/
theorem fileMembers_json {files : List (String × String)} {text : String}
    (hplain : fileText? "failwatch" files = none) (htoml : fileText? "failwatch.toml" files = none)
    (hjson : fileText? "failwatch.json" files = some text) : fileMembers files = jsonMembers text := by
  have hnames : fileName ++ ".toml" = "failwatch.toml" ∧ fileName ++ ".json" = "failwatch.json" := by decide
  unfold fileText? at hplain htoml hjson
  unfold fileMembers
  dsimp only
  rw [hnames.1, hnames.2, htoml, hjson]
  unfold fileName
  rw [hplain]

theorem nameLeaves_of_not_counts {environment : List (String × String)}
    (h : ∀ v ∈ environment, ¬ Counts v.1) : NameLeaves environment where
  known v hv hcounts := absurd hcounts (h v hv)
  once := List.pairwise_of_forall_mem_list fun v hv _ _ l hl => absurd (counts_variable l hl) (h v hv)

/-- Saved settings are loaded as they were. -/
theorem load_saved {s : Settings} (h : s.Fits) {files environment : List (String × String)}
    (hfile : fileMembers files = .ok s.saved) (hnone : ∀ v ∈ environment, ¬ Counts v.1) :
    load files environment = .ok s := by
  have hnames := nameLeaves_of_not_counts hnone
  have heffective (l : Leaf) : l.effective s.saved environment = .ok (l.get s) := by
    have htext : l.text? environment = none :=
      Leaf.text?_eq_none fun v hv hl => hnone v hv (counts_variable l hl)
    rw [Leaf.effective, htext, said?_saved]
    exact l.read_saved h
  obtain ⟨u, hu⟩ := (isOk_load hfile (isTidy_saved s) hnames).mpr fun l => ⟨_, heffective l⟩
  have hsame : u = s := Leaf.ext_get fun l => by
    have hl := effective_of_load hfile (isTidy_saved s) hnames hu l
    rw [heffective l] at hl
    exact (Except.ok.inj hl).symm
  rw [hu, hsame]

/-- The settings file, if there is one, is tidy. -/
def HasTidyFile (files : List (String × String)) : Prop :=
  ∃ members, fileMembers files = .ok members ∧ IsTidy members

/-- **Saved settings load back.** Let the whole numbers of the settings fit in 64 bits with a sign, and let
`failwatch.json` hold them as JSON. If no variable counts then they are loaded from there as they were.

The numeral of such a number can be given for a leaf that is a whole number: what could be loaded without
this variable can be loaded with it, and the leaf is that number, while the other leaves stay as they are.
And whatever the files are and the earlier variables say, if the settings are loaded then the leaf is that
number. -/
theorem saved_loads {s : Settings} (hfits : s.Fits) {files environment : List (String × String)}
    (hplain : fileText? "failwatch" files = none) (htoml : fileText? "failwatch.toml" files = none)
    (hjson : fileText? "failwatch.json" files = some s.toJson.text)
    (hnone : ∀ v ∈ environment, ¬ Counts v.1) :
    load files environment = .ok s ∧ HasTidyFile files ∧
    ∀ (l : Leaf) n, l.Takes n → FitsSigned n → ∀ name, lowerCase name = l.variable →
      (∀ files before later u, HasTidyFile files →
        NameLeaves (before ++ (name, String.ofList (ofInt n)) :: later) →
        load files (before ++ later) = .ok u →
        ∃ u', load files (before ++ (name, String.ofList (ofInt n)) :: later) = .ok u' ∧
          l.get u' = .whole n ∧ ∀ l' ≠ l, l'.get u' = l'.get u) ∧
      ∀ files before later u, (∀ v ∈ later, l.IsSparedBy v) →
        load files (before ++ (name, String.ofList (ofInt n)) :: later) = .ok u →
        l.get u = .whole n := by
  have hfile : fileMembers files = .ok s.saved := by
    rw [fileMembers_json hplain htoml hjson, jsonMembers_saved hfits]
  refine ⟨load_saved hfits hfile hnone, ⟨_, hfile, isTidy_saved s⟩, ?_⟩
  intro l n hl hn name hname
  -- A variable with a number is read as the number, so the results about variables apply to it.
  have hread := Leaf.read_numeral hl hn
  constructor
  · rintro files before later u ⟨members, hmembers, htidy⟩ hnames hu
    exact load_with_variable hmembers htidy hnames hname hread hu
  · intro files before later u hlater hu
    rw [read_of_variable hname hlater hu] at hread
    exact Except.ok.inj hread

/-- Texts that look like something else, and the least and the greatest number. A variable changes the
threshold and nothing else. -/
theorem saved_loads_of_odd_texts :
    let s : Settings := {
      server := { address := "true" }
      alerting := { windowSeconds := 9223372036854775807, threshold := -9223372036854775808 }
      paging := { source := "007", component := "1e3" } }
    let files := [("failwatch.json", s.toJson.text)]
    load files [("HOME", "/")] = .ok s ∧
      ∃ u, load files [("FAILWATCH__ALERTING__FAILURE_THRESHOLD", "-7")] = .ok u ∧
        u.alerting.threshold = -7 ∧ u.paging.source = "007" := by
  intro s files
  have hfits : s.Fits := by
    intro l n hn
    cases l <;> cases hn <;> exact ⟨by decide, by decide⟩
  obtain ⟨hload, htidy, hvariable⟩ :=
    @saved_loads s hfits files [("HOME", "/")] rfl rfl rfl (by unfold Counts; decide)
  obtain ⟨hload', -, -⟩ := @saved_loads s hfits files [] rfl rfl rfl (fun _ hv => by cases hv)
  obtain ⟨u, hu, hthreshold, hothers⟩ := (hvariable .threshold (-7) trivial ⟨by decide, by decide⟩
    "FAILWATCH__ALERTING__FAILURE_THRESHOLD" (by decide)).1 files [] [] s htidy
    (nameLeaves_singleton (l := .threshold) (by decide) _) hload'
  exact ⟨hload, u, hu, Datum.whole.inj hthreshold, Datum.text.inj (hothers .source (by decide))⟩

end Settings
end FailureAlarm
