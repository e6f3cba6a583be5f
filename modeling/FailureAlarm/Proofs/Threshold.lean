import FailureAlarm.Proofs.Sending

/-!
# The store stays below the threshold

The alarm only ever asks whether the threshold is reached, and never by how much it is exceeded. That
it is not exceeded is an invariant of all runs: between steps the store holds fewer failures than the
threshold, and none if the threshold is not positive (`below_after`). Each failure that is recorded
adds one, so the failure that reaches the threshold makes up exactly the threshold
(`length_of_crossing`).

No order of the readings is assumed: a clock that jumps may drop other failures from the store, but
never makes it hold more. The only readings that matter are those at the two corners, a window without
any length (`empty_after`) and a threshold that is not positive.
-/

namespace FailureAlarm
namespace Alarm

/-! ### The invariant -/

/-- So many failures are below the threshold, where a threshold that is not positive allows none. -/
def Below (a : Alarm) (n : Nat) : Prop := (n : Int) < max a.policy.threshold 1

theorem below_zero (a : Alarm) : a.Below 0 := by
  unfold Below
  omega

theorem Below.mono {a : Alarm} {m n : Nat} (h : a.Below n) (hle : m ≤ n) : a.Below m := by
  unfold Below at h ⊢
  omega

theorem below_of_not_reached {a : Alarm} {n : Nat} (h : a.policy.isReached n = false) :
    a.Below n := by
  have hnot := mt (isReached_iff a.policy n).mpr (Bool.eq_false_iff.mp h)
  unfold Below
  omega

/-- What an event leaves in the store is below the threshold again. -/
theorem below_left {a : Alarm} {fs : List Failure} {e : Event} (h : a.Below fs.length)
    (hfits : a.Fits fs e) : a.Below (a.left fs e).length := by
  cases he : e.isCrossing with
  | true =>
      rw [left_of_crossing he]
      exact a.below_zero
  | false =>
      rw [left_of_not_crossing he]
      unfold Fits at hfits
      rw [he] at hfits
      cases hf : e.failure? with
      -- Counting only drops failures.
      | none =>
          apply h.mono
          unfold kept inWindow
          rw [hf, Option.toList_none, List.append_nil]
          exact List.length_filter_le _ _
      | some f =>
          rw [hf] at hfits
          exact below_of_not_reached hfits.symm

theorem below_step (a : Alarm) {s : State} (h : a.Below s.store.size) (op : Op) :
    a.Below (a.step s op).1.store.size := by
  rcases a.step_cases s op with ⟨-, hquiet⟩ | ⟨e, -, he⟩
  · rw [hquiet.store]
    exact h
  · show a.Below (a.step s op).1.store.failures.length
    rw [he.store]
    exact below_left h he.fits

/-- **The store is below the threshold** whenever no step holds it. -/
theorem below_after (a : Alarm) (ops : List Op) : a.Below (a.after ops).store.size := by
  induction ops using List.reverseRecOn with
  | nil => exact a.below_zero
  | append_singleton ops op ih =>
      rw [after_concat]
      exact a.below_step ih op

/-- A call that does not reach the threshold answers a number that does not. -/
theorem not_reached {a : Alarm} {s : State} {reading : Reading} {n : Notification} {m : Nat}
    (h : (a.step s (.record reading n)).2.1 = .record (.finished (.ok (.recorded m)))) :
    a.policy.isReached m = false := by
  have hspec := a.record_spec reading n s
  rw [step_record] at h
  generalize a.record reading n s = r at hspec h
  cases hspec with
  | below _ _ hr =>
      cases h
      exact hr
  | _ => cases h

/-! ### The size of a page -/

/-- The failures in the window are no more than those retained, and the one that is recorded. -/
theorem length_inWindow_le (a : Alarm) (now : Instant) (fs : List Failure) (f : Failure) :
    (a.inWindow now (fs ++ [f])).length ≤ fs.length + 1 := by
  have h : (a.inWindow now (fs ++ [f])).length ≤ (fs ++ [f]).length := List.length_filter_le _ _
  rw [List.length_append] at h
  exact h

/-- The failure that reaches a positive threshold makes up exactly the threshold. -/
theorem length_of_reached {a : Alarm} {now : Instant} {fs : List Failure} {f : Failure}
    (h : a.policy.isReached (a.inWindow now (fs ++ [f])).length = true) (hfs : a.Below fs.length)
    (hpos : 0 < a.policy.threshold) :
    ((a.inWindow now (fs ++ [f])).length : Int) = a.policy.threshold := by
  have hle := a.length_inWindow_le now fs f
  have hreached := (isReached_iff a.policy _).mp h
  -- At least the threshold, and at most one more than what was below it.
  unfold Below at hfs
  omega

theorem length_of_crossing {a : Alarm} {s : State} {now : Instant} {p : LoggingPayload}
    {r : State × Reply × Effects} (h : a.Crossing s now p r) (hs : a.Below s.store.size)
    (hpos : 0 < a.policy.threshold) :
    ((a.inWindow now (s.store.failures ++ [p.toFailure now])).length : Int) =
      a.policy.threshold := length_of_reached h.reached hs hpos

/-- A failure that is recorded into an empty store is alone in the window, unless the window has no
length or the clock shows the first instant. -/
theorem inWindow_alone (a : Alarm) {now : Instant} (p : LoggingPayload)
    (hw : 1 ≤ a.policy.windowSeconds) (hnow : Instant.min < now) :
    a.inWindow now [p.toFailure now] = [p.toFailure now] := by
  have hlt : a.cutoff now < (p.toFailure now).time := Instant.cutoff_lt hw hnow
  unfold inWindow
  rw [List.filter_cons_of_pos (by simpa using hlt), List.filter_nil]

/-! ### A window without length -/

theorem cutoff_of_no_window {a : Alarm} (hw : a.policy.windowSeconds = 0) (now : Instant) :
    a.cutoff now = now := by
  unfold cutoff
  rw [hw, Instant.cutoff_zero]

/-- No failure is ever in a window without length. -/
theorem inWindow_of_no_window {a : Alarm} (hw : a.policy.windowSeconds = 0) {now : Instant}
    {f? : Option Failure} (hf : ∀ f ∈ f?, f.time = now) : a.inWindow now f?.toList = [] := by
  cases f? with
  | none => rfl
  | some f =>
      have hnot : ¬ a.cutoff now < f.time := by
        rw [cutoff_of_no_window hw, hf f rfl]
        exact lt_irrefl now
      unfold inWindow
      rw [Option.toList_some, List.filter_cons_of_neg (by simpa using hnot), List.filter_nil]

/-- With a window without length the store is always empty. -/
theorem empty_after {a : Alarm} (hw : a.policy.windowSeconds = 0) (ops : List Op) :
    (a.after ops).store.failures = [] := by
  induction ops using List.reverseRecOn with
  | nil => rfl
  | append_singleton ops op ih =>
      rw [after_concat]
      rcases a.step_cases (a.after ops) op with ⟨-, hquiet⟩ | ⟨e, he, h⟩
      · rw [hquiet.store]
        exact ih
      · rw [h.store, ih]
        cases hcross : e.isCrossing with
        | true => exact left_of_crossing hcross []
        | false =>
            rw [left_of_not_crossing hcross]
            exact inWindow_of_no_window hw (Event.time_of_shown he)

/-- With a window without length no step reaches a positive threshold. -/
theorem not_crosses_of_no_window {a : Alarm} (hw : a.policy.windowSeconds = 0)
    (hpos : 0 < a.policy.threshold) (ops : List Op) (op : Op) :
    ¬ (a.step (a.after ops) op).2.1.Crosses := by
  intro hcrosses
  obtain ⟨now, p, -, h⟩ := crossing_of_crosses hcrosses
  have hreached := (isReached_iff a.policy _).mp h.reached
  have htime : ∀ f ∈ some (p.toFailure now), f.time = now := by
    rintro f ⟨⟩
    rfl
  have hnone : a.inWindow now [p.toFailure now] = [] := inWindow_of_no_window hw htime
  rw [empty_after hw, List.nil_append, hnone] at hreached
  simp at hreached
  omega

/-- So in a run of calls nothing is ever handed over. -/
theorem pages_of_no_window {a : Alarm} (hw : a.policy.windowSeconds = 0)
    (hpos : 0 < a.policy.threshold) {ops : List Op}
    (hops : ∀ op ∈ ops, op.isCall = true ∨ op.isEnd = true) : a.pages ops = [] := by
  induction ops using List.reverseRecOn with
  | nil => rfl
  | append_singleton ops op ih =>
      have hstep : (a.step (a.after ops) op).2.2.pages = [] := by
        rcases hops op (by simp) with hcall | hend
        · exact (call_quiet hcall (not_crosses_of_no_window hw hpos ops op)).1
        · cases op with
          | complete number result => exact a.pages_complete _ number result
          | _ => cases hend
      rw [pages_concat, hstep, ih fun op' hop' => hops op' (List.mem_append_left _ hop')]
      rfl

/-! ### The whole -/

/-- **Below the threshold, and exactly at it.** After every run the store holds fewer failures than the
threshold, and none if the threshold is not positive. So a call that records a failure without
reaching the threshold answers a number below it, and one that reaches it pages over exactly so many
failures. If the threshold is not positive, every failure is paged, alone if the window has a length
and the clock is past the first instant. If the window has no length and the threshold is positive,
no run of calls ever pages. -/
theorem size_lt_threshold (a : Alarm) (ops : List Op) :
    (0 < a.policy.threshold → ((a.after ops).store.size : Int) < a.policy.threshold) ∧
      (a.policy.threshold ≤ 0 → (a.after ops).store.size = 0) ∧
      (∀ reading n, let r := a.step (a.after ops) (.record reading n)
        (∀ m : Nat, r.2.1 = .record (.finished (.ok (.recorded m))) →
          (m : Int) < a.policy.threshold) ∧
        (∀ number, r.2.1 = .record (.sending number) → ∃ batch : List Failure,
          r.2.2.pages = [(number, a.page batch)] ∧
          r.1.sending = (a.after ops).sending ++ [⟨number, .alarm batch.length, a.page batch⟩] ∧
          (a.page batch).alert.summary =
            s!"High LLM API Failure Rate: {batch.length} failures in the last {a.policy.windowSeconds} seconds." ∧
          (0 < a.policy.threshold → (batch.length : Int) = a.policy.threshold) ∧
          (a.policy.threshold ≤ 0 → 1 ≤ a.policy.windowSeconds →
            (∀ now, reading = some now → Instant.min < now) → batch.length = 1)) ∧
        (a.policy.threshold ≤ 0 → (a.after ops).poisoned = false → reading.isSome = true →
          n.payload.isSome = true → r.2.1.Crosses)) ∧
      (a.policy.windowSeconds = 0 → 0 < a.policy.threshold →
        (∀ op, ¬ (a.step (a.after ops) op).2.1.Crosses) ∧
        ((∀ op ∈ ops, op.isCall = true ∨ op.isEnd = true) → a.pages ops = [])) := by
  have hbelow := a.below_after ops
  refine ⟨?_, ?_, ?_, ?_⟩
  · intro hpos
    unfold Below at hbelow
    omega
  · intro hneg
    unfold Below at hbelow
    omega
  · intro reading n r
    refine ⟨?_, ?_, ?_⟩
    · intro m hm
      have hnot := mt (isReached_iff a.policy m).mpr (Bool.eq_false_iff.mp (not_reached hm))
      omega
    · intro number hnumber
      obtain ⟨now, p, hop, hcross⟩ := crossing_of_crosses ⟨number, hnumber⟩
      cases hop
      cases hnumber.symm.trans hcross.reply
      refine ⟨_, hcross.pages, hcross.sending, rfl, length_of_crossing hcross hbelow, ?_⟩
      intro hneg hw hnow
      -- The invariant leaves only the empty store, so the failure is alone in the window.
      have hempty : (a.after ops).store.failures = [] := by
        unfold Below Store.size at hbelow
        exact List.length_eq_zero_iff.mp (by omega)
      rw [hempty, List.nil_append, a.inWindow_alone p hw (hnow now rfl)]
      rfl
    · intro hneg hopen hreading hpayload
      obtain ⟨now, rfl⟩ := Option.isSome_iff_exists.mp hreading
      obtain ⟨p⟩ := n
      obtain ⟨p, rfl⟩ := Option.isSome_iff_exists.mp hpayload
      exact ⟨_, (record_reached hopen (Policy.isReached_of_nonpos hneg _)).reply⟩
  · intro hw hpos
    exact ⟨not_crosses_of_no_window hw hpos ops, pages_of_no_window hw hpos⟩

end Alarm
end FailureAlarm
