import FailureAlarm.Proofs.AnyValue
import FailureAlarm.Proofs.Transcript

/-!
# What a report says

The text of a notification is described by its parts (`Report.part`): those of the two sections of the
logging object, each of which may be missing, null or an object, or an array of its fields. What the
parts mean for the failure is said in `Report.Tells`, the three classifications by `Report.Labels` and
`Report.Coded`, and the identity by `Report.Copied`.

* `holds_section`: each field of a section holds what its part is decoded to, also if the section is
  missing, and then there is no such part;
* `reports_parts`: this for all the fields of an accepted text, from which everything about its failures
  is read off (`ReportsParts.tells`, `LoggingPayload.toFailure_congr`);
* `Notification.normalized`: an accepted text has a normal form, its failures are what its parts say, and
  texts that differ in how they say it have the same failures.
-/

namespace FailureAlarm

open Json (Tree Value Decoder)
open Json.Decoder (Column Holds)

/-! ### Names -/

/-- The fields of an identity with their names. -/
def Identity.columns : List (String × (Identity → Option String)) := [
  ("user_api_key_hash", (·.hash)), ("user_api_key_alias", (·.keyAlias)),
  ("user_api_key_org_id", (·.orgId)), ("user_api_key_team_id", (·.teamId)),
  ("user_api_key_user_id", (·.userId)), ("user_api_key_team_alias", (·.teamAlias)),
  ("user_api_key_end_user_id", (·.endUserId))]

theorem Identity.ext_columns {i j : Identity} (h : ∀ c ∈ columns, c.2 i = c.2 j) : i = j := by
  simp only [columns, List.forall_mem_cons] at h
  obtain ⟨h1, h2, h3, h4, h5, h6, h7, -⟩ := h
  cases i
  cases j
  simp only [mk.injEq]
  exact ⟨h1, h2, h3, h4, h5, h6, h7⟩

/-- The names of the fields. -/
def ErrorInformation.names : List String := ["error_class", "error_code", "llm_provider"]

/-- The names of the two sections. -/
def LoggingPayload.names : List String := ["metadata", "error_information"]

/-- The name of the only field. -/
def Notification.names : List String := ["standard_logging_object"]

/-! ### Parts of a text -/

namespace Report

/-- The part `name` of a section with the fields `names`; a section that is missing has no parts. -/
def part (names : List String) (sec : Option Tree) (name : String) : Option Tree :=
  sec.bind (·.part? names name)

/-- A section of the logging object in the text of a notification. -/
def sectionOf (text name : String) : Option Tree :=
  part LoggingPayload.names
    (part Notification.names (some (Tree.read text).1) "standard_logging_object") name

/-- A part of the metadata in the text of a notification. -/
def metadata (text : String) : String → Option Tree := part Identity.names (sectionOf text "metadata")

/-- A part of the error information in the text of a notification. -/
def error (text : String) : String → Option Tree :=
  part ErrorInformation.names (sectionOf text "error_information")

/-- Nothing is said: the part is missing, null or the empty string. -/
def Unsaid (t : Option Tree) : Prop := t = none ∨ t = some .null ∨ t = some (.string (some ""))

/-- The value is the string of the part, if there is one. -/
inductive Copied : Option Tree → Option String → Prop
  | missing : Copied none none
  | null : Copied (some .null) none
  | string (s : String) : Copied (some (.string (some s))) (some s)

/-- The label is absent if nothing is said, and otherwise the string of the part. -/
def Labels (t : Option Tree) (label : Option String) : Prop :=
  (label = none ↔ Unsaid t) ∧ ∀ s, label = some s → t = some (.string (some s))

/-- What an error code becomes: it is absent if nothing is said, a string as it is, and the compact text
of any other value, the keys of its objects sorted. -/
inductive Coded : Option Tree → Option String → Prop
  | unsaid {t} (h : Unsaid t) : Coded t none
  | string {s} (h : s ≠ "") : Coded (some (.string (some s))) (some s)
  | other {t v} (hnull : t ≠ .null) (hstring : ∀ s, t ≠ .string (some s))
      (hvalue : Decoder.any 3 t = .ok v) (hsorted : v.IsSorted) : Coded (some t) (some v.text)

/-- The failure is what the text of a notification says, observed at `time`. -/
structure Tells (text : String) (time : Instant) (f : Failure) : Prop where
  time : f.time = time
  errorClass : Labels (error text "error_class") f.errorClass
  code : Coded (error text "error_code") f.code
  provider : Labels (error text "llm_provider") f.provider
  identity : ∀ c ∈ Identity.columns, Copied (metadata text c.1) (c.2 f.identity)

/-- A section that is missing, null or without members. -/
def Blank (sec : Option Tree) : Prop :=
  sec = none ∨ sec = some .null ∨ sec = some (.object [] true)

/-- The sections are the same or both blank. -/
def SameSection (sec sec' : Option Tree) : Prop := sec = sec' ∨ Blank sec ∧ Blank sec'

/-- The error information of two texts is the same, but that the first gives the error code as the integer
`k` and the second as the string of its digits. -/
structure SameButDigits (k : Int) (text text' : String) : Prop where
  errorClass : error text "error_class" = error text' "error_class"
  integer : error text "error_code" = some (.number (some (.integer k)))
  digits : error text' "error_code" = some (.string (some (String.ofList (Digits.ofInt k))))
  provider : error text "llm_provider" = error text' "llm_provider"

/-- There are no parts in a section that is not there, or that is null. -/
theorem part_of_blank {sec : Option Tree} (h : Blank sec) (names : List String) (name : String) :
    part names sec name = none := by
  rcases h with rfl | rfl | rfl
  · rfl
  · rfl
  · rfl

/-- Sections that are read alike have the same parts. -/
theorem SameSection.part {sec sec' : Option Tree} (h : SameSection sec sec') (names : List String)
    (name : String) : part names sec name = part names sec' name := by
  rcases h with rfl | ⟨h, h'⟩
  · rfl
  · rw [part_of_blank h, part_of_blank h']

end Report

open Report (part sectionOf Unsaid Copied Labels Coded Tells)

/-! ### Fields are their parts -/

/-- An error code is any value, and becomes its text. -/
def ErrorInformation.anyCode : Decoder (Option String) :=
  fun depth t => (Decoder.any depth t).map codeText

section

variable {depth : Nat} {t : Tree}

/-- The payload is read from the member that is named for it. -/
theorem Notification.holds_payload {n : Notification} (h : decoder depth t = .ok n) :
    Holds (Decoder.option LoggingPayload.decoder) (·.payload) (depth + 1) {} n
      (t.part? names "standard_logging_object") := by
  unfold decoder at h
  exact Column.part ⟨by decide, by simp, by simp⟩ (by decide) h

/-- So are the metadata of a payload. -/
theorem LoggingPayload.holds_metadata {p : LoggingPayload} (h : decoder depth t = .ok p) :
    Holds (Decoder.option metadataDecoder) (·.metadata) (depth + 1) {} p
      (t.part? names "metadata") := by
  unfold decoder at h
  exact Column.part ⟨by decide, by simp, by simp⟩ (by decide) h

/-- And so is what it says about the error. -/
theorem LoggingPayload.holds_error {p : LoggingPayload} (h : decoder depth t = .ok p) :
    Holds (Decoder.option ErrorInformation.decoder) (·.error) (depth + 1) {} p
      (t.part? names "error_information") := by
  unfold decoder at h
  exact Column.part ⟨by decide, by simp, by simp⟩ (by decide) h

/-- The class of an error is a text. -/
theorem ErrorInformation.holds_errorClass {e : ErrorInformation} (h : decoder depth t = .ok e) :
    Holds (Decoder.option Decoder.string) (·.errorClass) (depth + 1) {} e
      (t.part? names "error_class") := by
  unfold decoder at h
  exact Column.part ⟨by decide, by simp, by simp⟩ (by decide) h

/-- The code of an error is read as any code: a text, a number or a truth value. -/
theorem ErrorInformation.holds_code {e : ErrorInformation} (h : decoder depth t = .ok e) :
    Holds anyCode (·.code) (depth + 1) {} e (t.part? names "error_code") := by
  unfold decoder at h
  exact Column.part ⟨by decide, by simp [anyCode], by simp⟩ (by decide) h

/-- The provider is a text. -/
theorem ErrorInformation.holds_provider {e : ErrorInformation} (h : decoder depth t = .ok e) :
    Holds (Decoder.option Decoder.string) (·.provider) (depth + 1) {} e
      (t.part? names "llm_provider") := by
  unfold decoder at h
  exact Column.part ⟨by decide, by simp, by simp⟩ (by decide) h

/-- Each column of an identity is a text of its own name. They are gone through as a list, so that there
is one lemma for all of them. -/
theorem Identity.holds_column {i : Identity} (h : metadataDecoder depth t = .ok i)
    {c : String × (Identity → Option String)} (hc : c ∈ columns) :
    Holds (Decoder.option Decoder.string) c.2 (depth + 1) {} i (t.part? names c.1) := by
  unfold metadataDecoder at h
  have hcolumn : Column (fields .defaulted) c.1 (Decoder.option Decoder.string) c.2 := by
    simp only [columns, List.mem_cons, List.not_mem_nil, or_false] at hc
    rcases hc with rfl | rfl | rfl | rfl | rfl | rfl | rfl
    all_goals exact ⟨by decide, by simp [fields], by simp [fields]⟩
  have hname : c.1 ∈ names := List.mem_map_of_mem (f := Prod.fst) hc
  exact hcolumn.part hname h

end

/-- **A field of a section holds what its part is decoded to**, also if there is no such section: then
there is no such part either, and the field is blank. -/
theorem holds_section {α σ τ : Type} {decode : Decoder σ} {decodePart : Decoder α} {get : σ → α}
    {getSection : τ → Option σ} {names : List String} {name : String} {depth : Nat} {blank : σ}
    {r₀ r : τ} {sec : Option Tree}
    (hpart : ∀ {t s}, decode depth t = .ok s →
      Holds decodePart get (depth + 1) blank s (t.part? names name))
    (hblank : getSection r₀ = none) (h : Holds (Decoder.option decode) getSection depth r₀ r sec) :
    Holds decodePart get (depth + 1) blank ((getSection r).getD blank) (part names sec name) := by
  cases sec with
  | none =>
      have hnone : getSection r = none := Eq.trans h hblank
      rw [hnone]
      rfl
  | some t =>
      have hread : Decoder.option decode depth t = .ok (getSection r) := h
      by_cases hnull : t = .null
      · subst hnull
        rw [← Except.ok.inj hread]
        rfl
      · rw [Decoder.option_of_ne_null hnull] at hread
        obtain ⟨s, hs, hsome⟩ := Decoder.ok_of_map hread
        rw [← hsome]
        exact hpart hs

/-- The fields of a logging object hold what the parts of the text are decoded to. -/
structure ReportsParts (text : String) (p : LoggingPayload) : Prop where
  errorClass : Holds (Decoder.option Decoder.string) (·.errorClass) 3 {} (p.error.getD {})
    (Report.error text "error_class")
  code : Holds ErrorInformation.anyCode (·.code) 3 {} (p.error.getD {})
    (Report.error text "error_code")
  provider : Holds (Decoder.option Decoder.string) (·.provider) 3 {} (p.error.getD {})
    (Report.error text "llm_provider")
  identity : ∀ c ∈ Identity.columns, Holds (Decoder.option Decoder.string) c.2 3 {}
    (p.metadata.getD {}) (Report.metadata text c.1)

/-- A notification that can be read tells each part of its payload from the text, whichever way it was
written in. -/
theorem reports_parts {text : String} {n : Notification} {p : LoggingPayload}
    (h : Json.decodeText Notification.decoder text = .ok n) (hp : n.payload = some p) :
    ReportsParts text p := by
  have hpayload := Notification.holds_payload (Decoder.decode_of_decodeText h)
  have hmetadata := holds_section LoggingPayload.holds_metadata rfl hpayload
  have herror := holds_section LoggingPayload.holds_error rfl hpayload
  rw [hp] at hmetadata herror
  exact {
    errorClass := holds_section ErrorInformation.holds_errorClass rfl herror
    code := holds_section ErrorInformation.holds_code rfl herror
    provider := holds_section ErrorInformation.holds_provider rfl herror
    identity := fun c hc => holds_section (fun hi => Identity.holds_column hi hc) rfl hmetadata }

/-! ### What the parts mean -/

/-- Only the empty text is dropped. -/
theorem nonEmpty_some (s : String) : nonEmpty (some s) = if s = "" then none else some s := by
  simp [nonEmpty, Option.filter]

/-- A text that stands there is copied; null, or nothing, gives nothing. -/
theorem copied_of_holds {σ : Type} {get : σ → Option String} {depth : Nat} {blank s : σ}
    {t : Option Tree} (h : Holds (Decoder.option Decoder.string) get depth blank s t)
    (hblank : get blank = none) : Copied t (get s) := by
  cases t with
  | none =>
      have hnone : get s = none := Eq.trans h hblank
      rw [hnone]
      exact .missing
  | some t =>
      have hread : Decoder.option Decoder.string depth t = .ok (get s) := h
      cases t with
      | null =>
          rw [← Except.ok.inj hread]
          exact .null
      | string o =>
          cases o with
          | none => cases hread
          | some x =>
              rw [← Except.ok.inj hread]
              exact .string x
      | number n => cases n <;> cases hread
      | _ => cases hread

/-- What is copied is what stands there, and nothing else is. -/
theorem Report.Copied.eq_some_iff {t : Option Tree} {o : Option String} (h : Copied t o) {s : String} :
    o = some s ↔ t = some (.string (some s)) := by
  cases h with
  | missing => simp
  | null => simp
  | string x => simp

/-- A label is the copied string, unless it is empty. -/
theorem Report.Copied.labels {t : Option Tree} {o : Option String} (h : Copied t o) :
    Labels t (nonEmpty o) := by
  cases h with
  | missing => exact ⟨by simp [Unsaid, nonEmpty], by rintro s ⟨⟩⟩
  | null => exact ⟨by simp [Unsaid, nonEmpty], by rintro s ⟨⟩⟩
  | string s =>
      rw [nonEmpty_some]
      by_cases hs : s = ""
      · rw [if_pos hs]
        exact ⟨by simp [Unsaid, hs], by rintro s ⟨⟩⟩
      · rw [if_neg hs]
        refine ⟨by simp [Unsaid, hs], ?_⟩
        rintro x ⟨⟩
        rfl

/-- A value that is neither null nor a string counts with its text. -/
theorem codeText_any {depth : Nat} {t : Tree} {v : Value} (h : Decoder.any depth t = .ok v)
    (hnull : t ≠ .null) (hstring : ∀ s, t ≠ .string (some s)) :
    ErrorInformation.codeText v = some v.text := by
  cases t with
  | null => exact absurd rfl hnull
  | string o =>
      cases o with
      | none => cases h
      | some s => exact absurd rfl (hstring s)
  | number n =>
      cases n with
      | none => cases h
      | some n =>
          cases h
          rfl
  -- What is not a text is kept as it was written, however deep it is.
  | array items closed =>
      obtain ⟨vs, -, rfl⟩ := Decoder.any_array h
      rfl
  | object members closed =>
      obtain ⟨ms, -, rfl⟩ := Decoder.any_object h
      rfl
  | bool b =>
      cases h
      rfl
  | _ => cases h

/-- What any value was read as is coded as its text, unless that is empty. -/
theorem coded_any {t : Tree} {v : Value} (h : Decoder.any 3 t = .ok v) :
    Coded (some t) (nonEmpty (ErrorInformation.codeText v)) := by
  by_cases hnull : t = .null
  · subst hnull
    cases h
    exact .unsaid (.inr (.inl rfl))
  by_cases hstring : ∃ s, t = .string (some s)
  · obtain ⟨s, rfl⟩ := hstring
    cases h
    show Coded _ (nonEmpty (some s))
    rw [nonEmpty_some]
    split
    · next hs => exact .unsaid (.inr (.inr (by rw [hs])))
    · next hs => exact .string hs
  · -- No other value has an empty text, so nothing is lost here.
    have hother : ∀ s, t ≠ .string (some s) := fun s hs => hstring ⟨s, hs⟩
    rw [codeText_any h hnull hother, nonEmpty_some, if_neg v.text_ne_empty]
    exact .other hnull hother h (Decoder.any_sorted h)

/-- A code is kept as a text, unless it is empty. -/
theorem coded_of_holds {e : ErrorInformation} {t : Option Tree}
    (h : Holds ErrorInformation.anyCode (·.code) 3 {} e t) : Coded t (nonEmpty e.code) := by
  cases t with
  | none =>
      have hnone : e.code = none := h
      rw [hnone]
      exact .unsaid (.inl rfl)
  | some t =>
      have hread : (Decoder.any 3 t).map ErrorInformation.codeText = .ok e.code := h
      obtain ⟨v, hv, hcode⟩ := Decoder.ok_of_map hread
      rw [← hcode]
      exact coded_any hv

/-- **The failure tells what the text says.** It is put together from the parts of the payload, and the
time is that of the call. -/
theorem ReportsParts.tells {text : String} {p : LoggingPayload} (h : ReportsParts text p)
    (time : Instant) : Tells text time (p.toFailure time) where
  time := rfl
  errorClass := (copied_of_holds h.errorClass rfl).labels
  code := coded_of_holds h.code
  provider := (copied_of_holds h.provider rfl).labels
  identity c hc := copied_of_holds (h.identity c hc) (by
    simp only [Identity.columns, List.mem_cons, List.not_mem_nil, or_false] at hc
    rcases hc with rfl | rfl | rfl | rfl | rfl | rfl | rfl
    all_goals rfl)

/-- The failure depends on what was classified, and on the identifiers. -/
theorem LoggingPayload.toFailure_congr {p q : LoggingPayload}
    (hclass : (p.error.getD {}).errorClass = (q.error.getD {}).errorClass)
    (hcode : (p.error.getD {}).code = (q.error.getD {}).code)
    (hprovider : (p.error.getD {}).provider = (q.error.getD {}).provider)
    (hidentity : ∀ c ∈ Identity.columns, c.2 (p.metadata.getD {}) = c.2 (q.metadata.getD {}))
    (time : Instant) : p.toFailure time = q.toFailure time := by
  unfold toFailure
  simp only [hclass, hcode, hprovider, Identity.ext_columns hidentity]

namespace Notification

open Report (SameSection SameButDigits)

/-- Texts that say the same have the same failures. -/
theorem toFailure_eq {text text' : String} {p p' : LoggingPayload} (h : ReportsParts text p)
    (h' : ReportsParts text' p')
    (hmetadata : SameSection (sectionOf text "metadata") (sectionOf text' "metadata"))
    (herror : SameSection (sectionOf text "error_information") (sectionOf text' "error_information") ∨
      ∃ k, SameButDigits k text text') (time : Instant) :
    p.toFailure time = p'.toFailure time := by
  have hidentity : ∀ c ∈ Identity.columns, c.2 (p.metadata.getD {}) = c.2 (p'.metadata.getD {}) := by
    intro c hc
    have hpart : Report.metadata text c.1 = Report.metadata text' c.1 := hmetadata.part _ _
    exact (h.identity c hc).unique (hpart ▸ h'.identity c hc)
  have hclass := h'.errorClass
  have hprovider := h'.provider
  rcases herror with hsame | ⟨k, hdigits⟩
  · -- All parts are the same.
    have hpart : ∀ name, Report.error text' name = Report.error text name :=
      fun name => (hsame.part _ name).symm
    have hcode := h'.code
    rw [hpart] at hclass hcode hprovider
    exact LoggingPayload.toFailure_congr (h.errorClass.unique hclass) (h.code.unique hcode)
      (h.provider.unique hprovider) hidentity time
  · -- The code is the text of the integer here and the string of the same digits there.
    have hcode := h.code
    have hcode' := h'.code
    rw [hdigits.integer] at hcode
    rw [hdigits.digits] at hcode'
    rw [← hdigits.errorClass] at hclass
    rw [← hdigits.provider] at hprovider
    have hdigit : (p.error.getD {}).code = (p'.error.getD {}).code :=
      Except.ok.inj (Eq.trans (Eq.symm hcode) hcode')
    exact LoggingPayload.toFailure_congr (h.errorClass.unique hclass) hdigit
      (h.provider.unique hprovider) hidentity time

/-- **An accepted text has a normal form**, the text of the notification that was read: it is read as the
same notification. The failures of the notification are what the parts of the text say. They are those of
any other text whose sections are the same or blank as well, and of one that gives an integer error code
as a string of digits; an integer of 64 bits is read as such wherever it stands. -/
theorem normalized {text : String} {n : Notification} (h : Json.decodeText decoder text = .ok n) :
    Json.decodeText decoder n.toJson.text = .ok n ∧
    (∀ p, n.payload = some p →
      (∀ time, Tells text time (p.toFailure time)) ∧
      ∀ text' n' p', Json.decodeText decoder text' = .ok n' → n'.payload = some p' →
        SameSection (sectionOf text "metadata") (sectionOf text' "metadata") →
        SameSection (sectionOf text "error_information") (sectionOf text' "error_information") ∨
          (∃ k, SameButDigits k text text') →
        ∀ time, p.toFailure time = p'.toFailure time) ∧
    ∀ k, Tree.Fits k → ∀ fuel rest, Tree.AfterNumber rest →
      Tree.value none (fuel + 1) (Digits.ofInt k ++ rest) =
        (.number (some (.integer k)), some rest) := by
  refine ⟨decoder_text n, fun p hp => ⟨?_, ?_⟩, ?_⟩
  · intro time
    exact (reports_parts h hp).tells time
  · intro text' n' p' h' hp' hmetadata herror time
    exact toFailure_eq (reports_parts h hp) (reports_parts h' hp') hmetadata herror time
  · intro k hk fuel rest hrest
    exact Tree.value_integer hk fuel hrest

/-- A report with empty metadata and the error code `429`. -/
def numberReport : Value :=
  .object [("standard_logging_object", .object [("metadata", .object []),
    ("error_information", .object [("error_code", .ofInt 429)])])]

/-- A report without metadata, and with the error code `"429"`. -/
def stringReport : Value :=
  .object [("standard_logging_object", .object [
    ("error_information", .object [("error_code", .string "429")])])]

theorem normalized_of_code_429 :
    ∃ n n' p p', Json.decodeText decoder numberReport.text = .ok n ∧ n.payload = some p ∧
      Json.decodeText decoder stringReport.text = .ok n' ∧ n'.payload = some p' ∧
      Json.decodeText decoder n.toJson.text = .ok n ∧
      ∀ time, Tells numberReport.text time (p.toFailure time) ∧ p.toFailure time = p'.toFailure time := by
  have hnumber : numberReport.IsWhole := by
    simp [numberReport, Value.IsWhole, Value.MembersAreWhole, Value.ofInt, Tree.Fits]
  have hstring : stringReport.IsWhole := by
    simp [stringReport, Value.IsWhole, Value.MembersAreWhole]
  have hread : Json.decodeText decoder numberReport.text =
      .ok ⟨some ⟨some {}, some ⟨none, some "429", none⟩⟩⟩ := by
    rw [Decoder.decodeText_text hnumber]
    rfl
  have hread' : Json.decodeText decoder stringReport.text =
      .ok ⟨some ⟨none, some ⟨none, some "429", none⟩⟩⟩ := by
    rw [Decoder.decodeText_text hstring]
    rfl
  -- One report has an empty section where the other has none, and this makes no difference.
  have hmetadata : SameSection (sectionOf numberReport.text "metadata")
      (sectionOf stringReport.text "metadata") := by
    unfold sectionOf
    rw [Tree.read_text hnumber, Tree.read_text hstring]
    exact .inr ⟨.inr (.inr rfl), .inl rfl⟩
  have hdigits : SameButDigits 429 numberReport.text stringReport.text := by
    constructor
    all_goals
      unfold Report.error sectionOf
      simp only [Tree.read_text hnumber, Tree.read_text hstring]
      rfl
  obtain ⟨hagain, htells, -⟩ := normalized hread
  obtain ⟨hfailure, hsame⟩ := htells _ rfl
  refine ⟨_, _, _, _, hread, rfl, hread', rfl, hagain, fun time => ⟨hfailure time, ?_⟩⟩
  exact hsame _ _ _ hread' rfl hmetadata (.inr ⟨429, hdigits⟩) time

end Notification
end FailureAlarm
