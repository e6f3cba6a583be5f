import FailureAlarm.Proofs.Event
import Mathlib.Data.List.Nodup

/-!
# Pages under way

A page is handed over in one step of a run, and its sending ends in another, if ever. In between the
sending is told from the others by its number. This module follows one sending through a run:

* `numbered_after`: the sendings under way have different numbers, all of them given out before;
* `answer_of_sending`: a sending under way is answered at its first end, with the result of that end,
  and not before. What other steps a run takes on the way, which of the other sendings end and how,
  does not matter.
-/

namespace FailureAlarm
namespace Alarm

/-! ### Numbers -/

/-- The sendings under way have different numbers, all of them given out before. -/
structure Numbered (s : State) : Prop where
  nodup : (s.sending.map (·.number)).Nodup
  below : ∀ x ∈ s.sending, x.number < s.nextSending

/-- The result with which a step ends the sending with this number, if it ends it. -/
def Op.ends? (number : Nat) : Op → Option (Except PagingError Unit)
  | .complete k result => if k = number then some result else none
  | _ => none

/-- The step ends a sending. -/
def Op.isEnd : Op → Bool
  | .complete _ _ => true
  | _ => false

/-- A sending that has been found by its number is taken off the list. -/
theorem complete_sending (s : State) (number : Nat) (result : Except PagingError Unit) :
    (s.complete number result).1.sending = s.sending.filter (·.number ≠ number) ∧
      (s.complete number result).1.nextSending = s.nextSending := by
  unfold State.complete
  split
  · next hnone =>
      refine ⟨(List.filter_eq_self.mpr ?_).symm, rfl⟩
      intro x hx
      have hne := List.find?_eq_none.mp hnone x hx
      rw [decide_eq_true_eq] at hne ⊢
      exact hne
  · exact ⟨rfl, rfl⟩

/-- The steps that end no sending keep those under way, and give the next numbers to those they add. -/
theorem step_sending (a : Alarm) (s : State) {op : Op} (h : op.isEnd = false) :
    ∃ xs, (a.step s op).1.sending = s.sending ++ xs ∧
      xs.map (·.number) = List.range' s.nextSending xs.length ∧
      (a.step s op).1.nextSending = s.nextSending + xs.length := by
  cases op with
  | complete number result => cases h
  | dispatch message details => exact ⟨[_], rfl, rfl, rfl⟩
  | release id => exact ⟨[], (List.append_nil _).symm, rfl, rfl⟩
  | pass d => exact ⟨[], (List.append_nil _).symm, rfl, rfl⟩
  | watch r =>
      refine ⟨[], ?_, rfl, ?_⟩
      · rw [List.append_nil]
        simp only [step, watch]
        split
        · rfl
        · split <;> rfl
      · simp only [step, watch]
        split
        · rfl
        · split <;> rfl
  | fire =>
      -- If no timer is due, nothing is handed over.
      simp only [step, fire]
      split
      · next hfire =>
          split at hfire <;> cases hfire
          exact ⟨[_], rfl, rfl, rfl⟩
      · exact ⟨[], (List.append_nil _).symm, rfl, rfl⟩
  | record reading n =>
      have hspec := a.record_spec reading n s
      rw [step_record]
      generalize a.record reading n s = r at hspec ⊢
      cases hspec with
      | reached _ _ _ => exact ⟨[_], rfl, rfl, rfl⟩
      | _ => exact ⟨[], (List.append_nil _).symm, rfl, rfl⟩
  | retained reading =>
      have hspec := a.retained_spec reading s
      rw [step_retained]
      generalize a.retained reading s = r at hspec ⊢
      cases hspec with
      | _ => exact ⟨[], (List.append_nil _).symm, rfl, rfl⟩

theorem numbered_step (a : Alarm) {s : State} (h : Numbered s) (op : Op) :
    Numbered (a.step s op).1 := by
  cases hend : op.isEnd with
  | false =>
      obtain ⟨xs, hsending, hnumbers, hnext⟩ := a.step_sending s hend
      -- The new numbers start where all the old ones end.
      have hnew : ∀ x ∈ xs, s.nextSending ≤ x.number ∧ x.number < s.nextSending + xs.length := by
        intro x hx
        have hmem : x.number ∈ xs.map (·.number) := List.mem_map_of_mem hx
        rw [hnumbers] at hmem
        exact List.mem_range'_1.mp hmem
      constructor
      · rw [hsending, List.map_append]
        refine List.Nodup.append h.nodup (hnumbers ▸ List.nodup_range') ?_
        intro n hold hadded
        obtain ⟨x, hx, rfl⟩ := List.mem_map.mp hold
        obtain ⟨y, hy, hxy⟩ := List.mem_map.mp hadded
        have hlt := h.below x hx
        have hle := (hnew y hy).1
        omega
      · intro x hx
        rw [hnext]
        rw [hsending] at hx
        rcases List.mem_append.mp hx with hx | hx
        · exact Nat.lt_add_right _ (h.below x hx)
        · exact (hnew x hx).2
  | true =>
      cases op with
      | complete number result =>
          obtain ⟨hsending, hnext⟩ := complete_sending s number result
          constructor
          · show (((s.complete number result).1.sending).map _).Nodup
            rw [hsending]
            exact h.nodup.sublist (List.filter_sublist.map _)
          · intro x hx
            change x ∈ (s.complete number result).1.sending at hx
            rw [hsending] at hx
            show x.number < (s.complete number result).1.nextSending
            rw [hnext]
            exact h.below x (List.mem_of_mem_filter hx)
      | _ => cases hend

theorem numbered_after (a : Alarm) (ops : List Op) : Numbered (a.after ops) := by
  induction ops using List.reverseRecOn with
  | nil => exact ⟨List.nodup_nil, fun x hx => by cases hx⟩
  | append_singleton ops op ih =>
      rw [after_concat]
      exact a.numbered_step ih op

/-- A sending under way is found by its number. -/
theorem find_number {s : State} (h : Numbered s) {x : Sending} (hx : x ∈ s.sending) :
    s.sending.find? (·.number = x.number) = some x := by
  cases hfind : s.sending.find? (·.number = x.number) with
  | none => exact absurd (decide_eq_true rfl) (List.find?_eq_none.mp hfind x hx)
  | some y =>
      have hnumber : y.number = x.number := by simpa using List.find?_some hfind
      rw [List.inj_on_of_nodup_map h.nodup (List.mem_of_find?_eq_some hfind) hx hnumber]

/-! ### Pages -/

/-- The pages that were handed over in a run. -/
def pages (a : Alarm) : List Op → List Page := a.collect fun _ _ effects => effects.pages.map (·.2)

theorem pages_concat (a : Alarm) (ops : List Op) (op : Op) :
    a.pages (ops ++ [op]) = a.pages ops ++ (a.step (a.after ops) op).2.2.pages.map (·.2) :=
  a.collect_concat ..

/-- A call that does not cross the threshold hands nothing over. -/
theorem call_quiet {a : Alarm} {s : State} {op : Op} (hop : op.isCall = true)
    (h : ¬ (a.step s op).2.1.Crosses) :
    (a.step s op).2.2.pages = [] ∧ (a.step s op).1.sending = s.sending := by
  cases op with
  | record reading n =>
      have hspec := a.record_spec reading n s
      rw [step_record] at h ⊢
      generalize a.record reading n s = r at hspec h ⊢
      cases hspec with
      | below _ _ _ =>
          refine ⟨?_, rfl⟩
          rw [Effects.pages_append, pages_pruneLog]
          rfl
      | reached _ _ _ => exact absurd ⟨_, rfl⟩ h
      | _ => exact ⟨rfl, rfl⟩
  | retained reading =>
      have hspec := a.retained_spec reading s
      rw [step_retained]
      generalize a.retained reading s = r at hspec ⊢
      cases hspec with
      | counted _ _ => exact ⟨pages_pruneLog _ _, rfl⟩
      | _ => exact ⟨rfl, rfl⟩
  | _ => cases hop

/-- The end of a sending hands nothing over. -/
theorem pages_complete (a : Alarm) (s : State) (number : Nat) (result : Except PagingError Unit) :
    (a.step s (.complete number result)).2.2.pages = [] := by
  show (s.complete number result).2.2.pages = []
  unfold State.complete
  split <;> rfl

/-! ### Answers -/

/-- What a step tells the one that waits for a sending, with the number of that sending. -/
def told? : Op → Reply → Option (Nat × Answer)
  | .complete number _, .complete (some answer) => some (number, answer)
  | _, _ => none

/-- The answers to the sendings that ended in a run. -/
def answers (a : Alarm) : List Op → List (Nat × Answer) :=
  a.collect fun op reply _ => (told? op reply).toList

theorem answers_concat (a : Alarm) (ops : List Op) (op : Op) :
    a.answers (ops ++ [op]) =
      a.answers ops ++ (told? op (a.step (a.after ops) op).2.1).toList :=
  a.collect_concat ..

theorem told_of_not_end {op : Op} (h : op.isEnd = false) (reply : Reply) : told? op reply = none := by
  cases op with
  | complete number result => cases h
  | _ => rfl

/-- The end of a sending under way is answered. -/
theorem told_of_mem {a : Alarm} {s : State} (h : Numbered s) {x : Sending} (hx : x ∈ s.sending)
    (result : Except PagingError Unit) :
    told? (.complete x.number result) (a.step s (.complete x.number result)).2.1 =
      some (x.number, State.answer result x.sender) := by
  show told? (.complete x.number result) (.complete (s.complete x.number result).2.1) = _
  unfold State.complete
  rw [find_number h hx]
  rfl

/-- Only the end of a sending under way is answered. -/
theorem mem_of_told {a : Alarm} {s : State} {op : Op} {y : Nat × Answer}
    (h : told? op (a.step s op).2.1 = some y) :
    ∃ result, op = .complete y.1 result ∧ ∃ x ∈ s.sending, x.number = y.1 := by
  cases op with
  | complete number result =>
      change told? (.complete number result) (.complete (s.complete number result).2.1) = _ at h
      unfold State.complete at h
      cases hfind : s.sending.find? (·.number = number) with
      | none =>
          rw [hfind] at h
          cases h
      | some x =>
          rw [hfind] at h
          cases h
          exact ⟨result, rfl, x, List.mem_of_find?_eq_some hfind, by
            simpa using List.find?_some hfind⟩
  | _ => cases h

/-- What has been answered is under way no longer, and its number is not given out again. -/
theorem number_of_answer {a : Alarm} {ops : List Op} :
    ∀ y ∈ a.answers ops, y.1 < (a.after ops).nextSending ∧
      ∀ x ∈ (a.after ops).sending, x.number ≠ y.1 := by
  induction ops using List.reverseRecOn with
  | nil => intro y hy; cases hy
  | append_singleton ops op ih =>
      intro y hy
      rw [after_concat]
      rw [answers_concat] at hy
      -- Either a sending may begin in the last step, or one may end there, and not both.
      cases hend : op.isEnd with
      | false =>
          rw [told_of_not_end hend, Option.toList_none, List.append_nil] at hy
          obtain ⟨hlt, hne⟩ := ih y hy
          obtain ⟨xs, hsending, hnumbers, hnext⟩ := a.step_sending (a.after ops) hend
          refine ⟨by omega, ?_⟩
          intro x hx
          rw [hsending] at hx
          rcases List.mem_append.mp hx with hx | hx
          -- A sending that begins has the next number, and all answers so far have lower ones.
          · exact hne x hx
          · have hmem : x.number ∈ xs.map (·.number) := List.mem_map_of_mem hx
            rw [hnumbers] at hmem
            have hle := (List.mem_range'_1.mp hmem).1
            omega
      | true =>
          cases op with
          | complete number result =>
              obtain ⟨hsending, hnext⟩ := complete_sending (a.after ops) number result
              change y.1 < ((a.after ops).complete number result).1.nextSending ∧
                ∀ x ∈ ((a.after ops).complete number result).1.sending, x.number ≠ y.1
              rw [hsending, hnext]
              rcases List.mem_append.mp hy with hy | hy
              · obtain ⟨hlt, hne⟩ := ih y hy
                exact ⟨hlt, fun x hx => hne x (List.mem_of_mem_filter hx)⟩
              · obtain ⟨_, hop, x, hx, hnumber⟩ := mem_of_told (Option.mem_toList.mp hy)
                cases hop
                have hlt := (a.numbered_after ops).below x hx
                refine ⟨by omega, ?_⟩
                intro z hz
                -- Whatever is still under way afterwards has another number than the one that has just
                -- ended.
                exact of_decide_eq_true (List.mem_filter.mp hz).2
          | _ => cases hend

/-- **A sending under way is answered by its first end**, with the result of that end, whatever else
the run does. The induction is on the steps that follow, from their end: as long as none of them has
ended the sending, it is still under way and still without an answer. -/
theorem answer_of_sending {a : Alarm} {ops : List Op} {x : Sending}
    (hx : x ∈ (a.after ops).sending) (later : List Op) :
    (a.answers (ops ++ later)).find? (·.1 = x.number) =
        (later.findSome? (Op.ends? x.number)).map
          (fun result => (x.number, State.answer result x.sender)) ∧
      (later.findSome? (Op.ends? x.number) = none → x ∈ (a.after (ops ++ later)).sending) := by
  induction later using List.reverseRecOn with
  | nil =>
      rw [List.append_nil]
      refine ⟨List.find?_eq_none.mpr ?_, fun _ => hx⟩
      intro y hy hnumber
      exact (number_of_answer y hy).2 x hx (of_decide_eq_true hnumber).symm
  | append_singleton later op ih =>
      obtain ⟨hfind, hstays⟩ := ih
      rw [← List.append_assoc, answers_concat, after_concat, List.find?_append,
        List.findSome?_append, hfind]
      cases hdone : later.findSome? (Op.ends? x.number) with
      -- It has been answered already, and what the step adds comes after that answer.
      | some result => exact ⟨rfl, fun h => by cases h⟩
      | none =>
          have hstill := hstays hdone
          cases hend : op.isEnd with
          | false =>
              obtain ⟨xs, hsending, -, -⟩ := a.step_sending (a.after (ops ++ later)) hend
              have hends : op.ends? x.number = none := by cases op <;> first | rfl | cases hend
              rw [told_of_not_end hend, List.findSome?_singleton, hends, hsending]
              exact ⟨rfl, fun _ => List.mem_append_left _ hstill⟩
          | true =>
              cases op with
              | complete number result =>
                  rw [List.findSome?_singleton]
                  by_cases hnumber : number = x.number
                  · subst hnumber
                    have hends : Op.ends? x.number (.complete x.number result) = some result :=
                      if_pos rfl
                    rw [told_of_mem (a.numbered_after _) hstill, hends]
                    exact ⟨by simp, fun h => by cases h⟩
                  -- Another sending ends here, which is answered under another number.
                  · have hends : Op.ends? x.number (.complete number result) = none :=
                      if_neg hnumber
                    rw [hends]
                    refine ⟨?_, fun _ => ?_⟩
                    · refine List.find?_eq_none.mpr ?_
                      intro y hy hy'
                      obtain ⟨_, hop, -⟩ := mem_of_told (Option.mem_toList.mp hy)
                      cases hop
                      exact hnumber (of_decide_eq_true hy')
                    · show x ∈ ((a.after (ops ++ later)).complete number result).1.sending
                      rw [(complete_sending _ _ _).1]
                      exact List.mem_filter.mpr ⟨hstill, decide_eq_true (Ne.symm hnumber)⟩
              | _ => cases hend

end Alarm
end FailureAlarm
