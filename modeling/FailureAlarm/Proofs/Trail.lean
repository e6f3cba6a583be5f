import FailureAlarm.Proofs.Metering

/-!
# Runs in sight of a transport

The transport decides at once about a page, or holds it. All that happens to an alarm and its transport
is made of steps of the alarm, the pages of each of them being brought to the transport at once
(`Line.step`); this holds for the calls, and also for the timers that fire when time passes
(`fireUpTo_after`).

On the way sendings keep their numbers: `Numbered` is kept by every step, and a sending stays under way
until the step that ends it (`sending_after`).
-/

namespace FailureAlarm
namespace Line

open Alarm

variable {τ : Type}

/-- Take one step, and bring its pages to the transport. -/
def step (a : Alarm) (t : Transport τ) (l : Line τ) (op : Op) : Line τ × Reply × Traffic :=
  let (state, reply, effects) := a.step l.state op
  let (l, traffic) := l.settle t state effects
  (l, reply, traffic)

/-- What each step of a run came to: the line that it left, its reply, and what it did in sight of the
transport. -/
def trail (a : Alarm) (t : Transport τ) (l : Line τ) : List Op → List (Line τ × Reply × Traffic)
  | [] => []
  | op :: ops => l.step a t op :: trail a t (l.step a t op).1 ops

/-- The line that a run leaves. -/
def after (a : Alarm) (t : Transport τ) (l : Line τ) (ops : List Op) : Line τ :=
  ops.foldl (fun l op => (l.step a t op).1) l

theorem after_append (a : Alarm) (t : Transport τ) (l : Line τ) (xs ys : List Op) :
    l.after a t (xs ++ ys) = (l.after a t xs).after a t ys := List.foldl_append

/-- A step hands over the same pages whether or not there is a transport. -/
theorem pages_step (a : Alarm) (t : Transport τ) (l : Line τ) (op : Op) :
    (l.step a t op).2.2.pages = (a.step l.state op).2.2.pages.map (·.2) := (l.settle_spec t _ _).2

/-! ### What happens is made of steps -/

theorem complete_after (a : Alarm) (t : Transport τ) (l : Line τ) (number : Nat)
    (result : Except PagingError Unit) :
    (l.complete number result).1 = l.after a t [.complete number result] := by
  have hquiet : (l.state.complete number result).2.2.pages = [] :=
    a.pages_complete l.state number result
  show (l.complete number result).1 =
    (l.settle t (l.state.complete number result).1 (l.state.complete number result).2.2).1
  unfold settle
  rw [hquiet]
  rfl

/-- Timers fire one by one. -/
theorem fireUpTo_after (a : Alarm) (t : Transport τ) (n : Nat) (l : Line τ) :
    ∃ k, (fireUpTo a t n l).1 = l.after a t (List.replicate k .fire) := by
  induction n generalizing l with
  | zero => exact ⟨0, rfl⟩
  | succ n ih =>
      cases hfire : a.fire l.state with
      | none =>
          refine ⟨0, ?_⟩
          rw [fireUpTo, hfire]
          rfl
      | some r =>
          obtain ⟨state, effects⟩ := r
          obtain ⟨k, hk⟩ := ih (l.settle t state effects).1
          have hstep : (l.step a t .fire).1 = (l.settle t state effects).1 := by
            simp only [step, Alarm.step, hfire]
          refine ⟨k + 1, ?_⟩
          rw [fireUpTo, hfire, List.replicate_succ]
          show (fireUpTo a t n (l.settle t state effects).1).1 =
            after a t (l.step a t .fire).1 (List.replicate k .fire)
          rw [hk, hstep]

/-- To start a request is to watch it and to let the timers fire that are due at once. -/
theorem watch_after (a : Alarm) (t : Transport τ) (r : Request) (l : Line τ) :
    ∃ k, (l.watch a t true r).1 = l.after a t (.watch r :: List.replicate k .fire) :=
  fireUpTo_after a t _ (l.step a t (.watch r)).1

/-- When time passes, the timers fire that have come due. -/
theorem pass_after (a : Alarm) (t : Transport τ) (d : Duration) (l : Line τ) :
    ∃ k, (l.pass a t d).1 = l.after a t (.pass d :: List.replicate k .fire) :=
  fireUpTo_after a t _ (l.step a t (.pass d)).1

/-! ### Sendings keep their numbers -/

/-- The pages that are brought to the transport are those of the last sendings, and none but these
end. -/
theorem deliver_sending (a : Alarm) (t : Transport τ) {n : Nat} {ps : List (Nat × Page)} {l : Line τ}
    (hl : Numbered l.state) (hps : ∀ p ∈ ps, n ≤ p.1) :
    Numbered (deliver t l ps).1.state ∧
      ∀ x ∈ l.state.sending, x.number < n → x ∈ (deliver t l ps).1.state.sending := by
  induction ps generalizing l with
  | nil => exact ⟨hl, fun x hx _ => hx⟩
  | cons p ps ih =>
      obtain ⟨number, page⟩ := p
      have hrest : ∀ p ∈ ps, n ≤ p.1 := fun p hp => hps p (List.mem_cons_of_mem _ hp)
      unfold deliver
      cases t.deliver l.transport number page with
      | mk delivery rest =>
          obtain ⟨log, transport⟩ := rest
          cases delivery with
          | held => exact @ih { l with transport } hl hrest
          | done result =>
              obtain ⟨hnumbered, hkept⟩ := @ih (complete { l with transport } number result).1
                (a.numbered_step hl (.complete number result)) hrest
              refine ⟨hnumbered, fun x hx hlt => hkept x ?_ hlt⟩
              show x ∈ (l.state.complete number result).1.sending
              rw [(complete_sending _ _ _).1]
              refine List.mem_filter.mpr ⟨hx, decide_eq_true ?_⟩
              -- Only sendings with the numbers of these pages end, and `x` has a lower one.
              have hle : n ≤ number := hps _ List.mem_cons_self
              omega

/-- A step keeps the numbers, and it keeps the sendings that it does not end. -/
theorem sending_step (a : Alarm) (t : Transport τ) {l : Line τ} (hl : Numbered l.state) (op : Op) :
    Numbered (l.step a t op).1.state ∧
      ∀ x ∈ l.state.sending, op.ends? x.number = none → x ∈ (l.step a t op).1.state.sending := by
  cases hend : op.isEnd with
  | true =>
      cases op with
      | complete number result =>
          have hstep : (l.step a t (.complete number result)).1 = (l.complete number result).1 :=
            (l.complete_after a t number result).symm
          rw [hstep]
          refine ⟨a.numbered_step hl (.complete number result), fun x hx hends => ?_⟩
          show x ∈ (l.state.complete number result).1.sending
          rw [(complete_sending _ _ _).1]
          refine List.mem_filter.mpr ⟨hx, decide_eq_true fun hnumber => ?_⟩
          rw [Op.ends?, if_pos hnumber.symm] at hends
          cases hends
      | _ => cases hend
  | false =>
      -- The pages of the step have new numbers, so what their delivery ends was not under way before.
      obtain ⟨xs, hsending, -⟩ := a.step_sending l.state hend
      have hended : ended? op (a.step l.state op).2.1 = none := by
        cases op <;> first | rfl | cases hend
      have hentered : Numbered ({ l with state := (a.step l.state op).1 } : Line τ).state :=
        a.numbered_step hl op
      obtain ⟨hnumbered, hkept⟩ := deliver_sending a t hentered (le_number_of_handed hended)
      refine ⟨hnumbered, fun x hx _ => hkept x ?_ (hl.below x hx)⟩
      show x ∈ (a.step l.state op).1.sending
      rw [hsending]
      exact List.mem_append_left _ hx

/-- **A sending stays under way until it ends**, whatever else happens. -/
theorem sending_after (a : Alarm) (t : Transport τ) (ops : List Op) {l : Line τ}
    (hl : Numbered l.state) :
    Numbered (l.after a t ops).state ∧
      ∀ x ∈ l.state.sending, (∀ op ∈ ops, op.ends? x.number = none) →
        x ∈ (l.after a t ops).state.sending := by
  induction ops generalizing l with
  | nil => exact ⟨hl, fun x hx _ => hx⟩
  | cons op ops ih =>
      obtain ⟨hstep, hkept⟩ := sending_step a t hl op
      obtain ⟨hrest, hstays⟩ := ih hstep
      refine ⟨hrest, fun x hx hends => ?_⟩
      exact hstays x (hkept x hx (hends op List.mem_cons_self)) fun op' hop' =>
        hends op' (List.mem_cons_of_mem _ hop')

end Line
end FailureAlarm
