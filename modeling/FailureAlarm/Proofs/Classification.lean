import FailureAlarm.Digest
import FailureAlarm.Proofs.Report
import FailureAlarm.Proofs.Window

/-!
# Where empty classifications come from

A failure that was observed has no empty classification (`Failure.isFilled_observed`), so its line in a
digest has no empty field, and neither has any failure that an alarm comes to hold (`Alarm.isFilled_after`)
or to page (`Alarm.isFilled_batch`). A failure that is read from its own text takes what stands there: it
has an empty classification exactly if the text has one (`Failure.isFilled_iff_of_decoded`).
-/

namespace FailureAlarm

open Json (Tree Decoder)
open Json.Decoder (Column Holds)

namespace Failure

/-- The classifications of a failure, under the names that they have in its text. -/
def labels : List (String × (Failure → Option String)) :=
  [("error_class", (·.errorClass)), ("error_code", (·.code)), ("error_provider", (·.provider))]

/-- No classification is the empty string. -/
def IsFilled (f : Failure) : Prop := ∀ c ∈ labels, c.2 f ≠ some ""

theorem isFilled_iff (f : Failure) :
    f.IsFilled ↔ f.errorClass ≠ some "" ∧ f.code ≠ some "" ∧ f.provider ≠ some "" := by
  simp [IsFilled, labels]

instance (f : Failure) : Decidable f.IsFilled := decidable_of_iff' _ f.isFilled_iff

theorem nonEmpty_ne (o : Option String) : nonEmpty o ≠ some "" := by
  cases o with
  | none => rintro ⟨⟩
  | some s =>
      rw [nonEmpty_some]
      split
      · rintro ⟨⟩
      · next hs => exact fun h => hs (Option.some.inj h)

/-- **What was observed has no empty classification.** -/
theorem isFilled_observed (time : Instant) (errorClass code provider : Option String)
    (identity : Identity) : (observed time errorClass code provider identity).IsFilled := by
  rw [isFilled_iff]
  exact ⟨nonEmpty_ne errorClass, nonEmpty_ne code, nonEmpty_ne provider⟩

/-! ### Failures that are read -/

/-- The names of the fields. -/
def names : List String := ["timestamp", "error_class", "error_code", "error_provider", "identity"]

theorem holds_label {depth : Nat} {t : Tree} {f : Failure} (h : decoder depth t = .ok f)
    {c : String × (Failure → Option String)} (hc : c ∈ labels) :
    Holds (Decoder.option Decoder.string) c.2 (depth + 1) ⟨default, none, none, none, {}⟩ f
      (t.part? names c.1) := by
  unfold decoder at h
  simp only [labels, List.mem_cons, List.not_mem_nil, or_false] at hc
  rcases hc with rfl | rfl | rfl
  all_goals exact Column.part ⟨by decide, by simp, by simp⟩ (by decide) h

/-- A failure that was read has an empty classification exactly if its text has one. -/
theorem isFilled_iff_of_decoded {text : String} {f : Failure}
    (h : Json.decodeText decoder text = .ok f) :
    f.IsFilled ↔
      ∀ c ∈ labels, (Tree.read text).1.part? names c.1 ≠ some (.string (some "")) := by
  have hlabel : ∀ c ∈ labels, (c.2 f = some "" ↔
      (Tree.read text).1.part? names c.1 = some (.string (some ""))) := by
    intro c hc
    have hblank : c.2 ⟨default, none, none, none, {}⟩ = none := by
      simp only [labels, List.mem_cons, List.not_mem_nil, or_false] at hc
      rcases hc with rfl | rfl | rfl
      all_goals rfl
    exact (copied_of_holds (holds_label (Decoder.decode_of_decodeText h) hc) hblank).eq_some_iff
  unfold IsFilled
  exact forall₂_congr fun c hc => not_congr (hlabel c hc)

end Failure

/-! ### Digests -/

/-- The three fields of the line of a failure. -/
def Digest.fields (f : Failure) : List String :=
  Failure.labels.map fun c => (c.2 f).getD placeholder

theorem Digest.line_eq (f : Failure) :
    ∃ errorClass code provider, fields f = [errorClass, code, provider] ∧
      line f = s!"{errorClass} (code: {code}, provider: {provider})" :=
  ⟨_, _, _, rfl, rfl⟩

/-- A line has an empty field exactly if there is an empty classification; the placeholder is not
empty. -/
theorem Digest.fields_ne_iff (f : Failure) : (∀ field ∈ fields f, field ≠ "") ↔ f.IsFilled := by
  unfold fields Failure.IsFilled
  rw [List.forall_mem_map]
  refine forall₂_congr fun c _ => not_congr ?_
  cases c.2 f with
  | none => exact iff_of_false (by decide) (by rintro ⟨⟩)
  | some s => exact Option.some_inj.symm

/-! ### Runs -/

namespace Alarm

theorem isFilled_inWindow (a : Alarm) {now time : Instant} {p : LoggingPayload} {fs : List Failure}
    (h : ∀ f ∈ fs, f.IsFilled) : ∀ f ∈ a.inWindow now (fs ++ [p.toFailure time]), f.IsFilled := by
  intro f hf
  rcases List.mem_append.mp (List.mem_of_mem_filter hf) with hf | hf
  · exact h f hf
  · rw [List.mem_singleton] at hf
    rw [hf]
    exact Failure.isFilled_observed _ _ _ _ _

/-- A step leaves the store filled: the failure that it may bring was observed. -/
theorem isFilled_step (a : Alarm) {s : State} (h : ∀ f ∈ s.store.failures, f.IsFilled) (op : Op) :
    ∀ f ∈ (a.step s op).1.store.failures, f.IsFilled := by
  cases hop : op.isCall with
  | false =>
      rw [(a.step_elsewhere s hop).1]
      exact h
  | true =>
      cases op with
      | record reading n =>
          have hspec := a.record_spec reading n s
          rw [step_record]
          generalize a.record reading n s = r at hspec ⊢
          -- Only a failure that stays is new in the store; a page empties it.
          cases hspec with
          | below _ hk _ =>
              cases hk
              exact a.isFilled_inWindow h
          | reached _ _ _ => rintro f ⟨⟩
          | _ => exact h
      | retained reading =>
          have hspec := a.retained_spec reading s
          rw [step_retained]
          generalize a.retained reading s = r at hspec ⊢
          cases hspec with
          | counted _ hk =>
              cases hk
              exact fun f hf => h f (List.mem_of_mem_filter hf)
          | _ => exact h
      | _ => cases hop

/-- **An alarm never holds a failure with an empty classification.** -/
theorem isFilled_after (a : Alarm) (ops : List Op) : ∀ f ∈ (a.after ops).store.failures, f.IsFilled := by
  induction ops using List.reverseRecOn with
  | nil => rintro f ⟨⟩
  | append_singleton ops op ih =>
      rw [after_concat]
      exact a.isFilled_step ih op

/-- Nor is there one among the failures that it pages. -/
theorem isFilled_batch (a : Alarm) (ops : List Op) {op : Op}
    (h : (a.step (a.after ops) op).2.1.Crosses) :
    ∃ batch, (∀ f ∈ batch, f.IsFilled) ∧
      (a.step (a.after ops) op).2.2.pages = [((a.after ops).nextSending, a.page batch)] := by
  obtain ⟨now, p, -, hcross⟩ := crossing_of_crosses h
  exact ⟨_, a.isFilled_inWindow (a.isFilled_after ops), hcross.pages⟩

end Alarm

/-! ### The whole -/

namespace Failure

/-- **Only a failure that is read from its own text can have an empty classification**, and it has one
exactly if the text has. No failure that was observed has one, be it directly or as a payload, nor any
that an alarm holds or pages. The line of a failure in a digest has an empty field exactly if the failure
has an empty classification. -/
theorem isFilled_unless_read {text : String} {f : Failure}
    (h : Json.decodeText decoder text = .ok f) :
    (f.IsFilled ↔
      ∀ c ∈ labels, (Tree.read text).1.part? names c.1 ≠ some (.string (some ""))) ∧
    (∀ time errorClass code provider identity,
      (observed time errorClass code provider identity).IsFilled) ∧
    (∀ (p : LoggingPayload) time, (p.toFailure time).IsFilled) ∧
    (∀ (a : Alarm) ops, (∀ f ∈ (a.after ops).store.failures, f.IsFilled) ∧
      ∀ op, (a.step (a.after ops) op).2.1.Crosses → ∃ batch, (∀ f ∈ batch, f.IsFilled) ∧
        (a.step (a.after ops) op).2.2.pages = [((a.after ops).nextSending, a.page batch)]) ∧
    ∀ f : Failure, ∃ errorClass code provider,
      Digest.line f = s!"{errorClass} (code: {code}, provider: {provider})" ∧
      ((errorClass ≠ "" ∧ code ≠ "" ∧ provider ≠ "") ↔ f.IsFilled) := by
  refine ⟨isFilled_iff_of_decoded h, isFilled_observed, ?_, ?_, ?_⟩
  · intro p time
    exact isFilled_observed _ _ _ _ _
  · intro a ops
    exact ⟨a.isFilled_after ops, fun op h => a.isFilled_batch ops h⟩
  · intro f
    obtain ⟨errorClass, code, provider, hfields, hline⟩ := Digest.line_eq f
    refine ⟨errorClass, code, provider, hline, ?_⟩
    rw [← Digest.fields_ne_iff, hfields]
    simp

open Alarm (perMinute) in
/-- A failure with two classifications is read from its text, and one that is reported with an empty class
is paged. -/
theorem isFilled_unless_read_of_two :
    let f := observed default none (some "429") (some "openai") {}
    let op : Alarm.Op := .record (some default) ⟨some ⟨none, some ⟨some "", some "500", none⟩⟩⟩
    let r := (perMinute 1).step ((perMinute 1).after []) op
    (Json.decodeText decoder f.toJson.text = .ok f ∧ f.IsFilled ∧
      ∀ c ∈ labels, (Tree.read f.toJson.text).1.part? names c.1 ≠ some (.string (some ""))) ∧
    r.2.1.Crosses ∧ ∃ batch, (∀ f ∈ batch, f.IsFilled) ∧
      r.2.2.pages = [(0, (perMinute 1).page batch)] := by
  intro f op r
  have hread := decoder_text f
  obtain ⟨hdecoded, hobserved, -, halarm, -⟩ := isFilled_unless_read hread
  have hfilled := hobserved default none (some "429") (some "openai") {}
  have hcross : r.2.1.Crosses := ⟨0, rfl⟩
  refine ⟨⟨hread, hfilled, ?_⟩, hcross, ?_⟩
  · exact hdecoded.mp hfilled
  · exact (halarm (perMinute 1) []).2 op hcross

/-- The text of a failure with an empty class. -/
def emptyClass : String :=
  "\x7b\"timestamp\":\"2024-06-01T12:00:00Z\",\"error_class\":\"\",\"error_code\":\"1\"," ++
    "\"error_provider\":\"p\",\"identity\":\x7b\x7d\x7d"

/-- The failure with an empty class is accepted with it, and its line starts with an empty field. -/
theorem exists_read_with_empty_class :
    ∃ f, Json.decodeText decoder emptyClass = .ok f ∧ f.errorClass = some "" ∧ ¬ f.IsFilled ∧
      Digest.line f = " (code: 1, provider: p)" := by
  have hread : (Json.decodeText decoder emptyClass).map
      (fun f => (f.errorClass, Digest.line f)) = .ok (some "", " (code: 1, provider: p)") := by
    decide +kernel
  cases h : Json.decodeText decoder emptyClass with
  | error e =>
      rw [h] at hread
      cases hread
  | ok f =>
      rw [h] at hread
      injection hread with hread
      obtain ⟨hclass, hline⟩ := Prod.mk.inj hread
      exact ⟨f, rfl, hclass, fun hfilled => (isFilled_iff f).mp hfilled |>.1 hclass, hline⟩

end Failure
end FailureAlarm
