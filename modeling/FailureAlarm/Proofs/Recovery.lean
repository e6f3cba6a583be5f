import FailureAlarm.Proofs.Clocks
import FailureAlarm.Proofs.Poisoning
import FailureAlarm.Proofs.Separation
import FailureAlarm.Rehearsal

/-!
# An alarm on a clock that recovers

In a rehearsal an alarm takes its readings from a clock that may have failed to advance at any time, and
whose lock is poisoned since. All that takes place in the rehearsal is blind to that (`act_mended`), so
failed advances can be left out of rehearsals as they can be left out of what is done with the clock alone.

A look at the clock never fails, so no call breaks off with the store in hand. Only breaking the clock
itself can do that: without it the store stays usable, and no answer tells otherwise, neither at once
nor when the sending of a page has come to its end (`open_act`).
-/

namespace FailureAlarm

/-! ### Answers -/

open Alarm (Reply)

/-- None of the answers tells that the store cannot be used. -/
def Traffic.Unlocked (traffic : Traffic) : Prop :=
  ∀ y ∈ traffic.answers, y.2 ≠ .alarm (.error .storeLocked)

theorem Traffic.unlocked_empty : ({} : Traffic).Unlocked := fun _ hy => nomatch hy

theorem Traffic.Unlocked.append {x y : Traffic} (hx : x.Unlocked) (hy : y.Unlocked) :
    (x ++ y).Unlocked := by
  intro z hz
  rcases List.mem_append.mp hz with hz | hz
  · exact hx z hz
  · exact hy z hz

namespace Line

variable {τ : Type}

/-- The end of a sending is answered by its result, and a result of a sending is not that of a lock. -/
theorem complete_unlocked (l : Line τ) (number : Nat) (result : Except PagingError Unit) :
    (l.complete number result).2.Unlocked := by
  unfold complete State.complete
  cases l.state.sending.find? (·.number = number) with
  | none => exact Traffic.unlocked_empty
  | some sending =>
      intro y hy
      cases List.mem_singleton.mp hy
      exact Alarm.answer_ne_locked result sending.sender

/-- So it is with the pages whose sendings end at once; those that are held answer nothing yet. -/
theorem deliver_unlocked (t : Transport τ) (l : Line τ) (ps : List (Nat × Page)) :
    (deliver t l ps).2.Unlocked := by
  induction ps generalizing l with
  | nil => exact Traffic.unlocked_empty
  | cons p ps ih =>
      obtain ⟨number, page⟩ := p
      unfold deliver
      obtain ⟨delivery, log, transport⟩ := t.deliver l.transport number page
      refine .append (.append Traffic.unlocked_empty ?_) (ih _)
      cases delivery with
      | held => exact Traffic.unlocked_empty
      | done result => exact complete_unlocked _ number result

/-- To take over a step adds no answers but those of its pages. -/
theorem settle_unlocked (t : Transport τ) (l : Line τ) (state : State) (effects : Effects) :
    (l.settle t state effects).2.Unlocked :=
  .append Traffic.unlocked_empty (deliver_unlocked t _ _)

/-- Timers hand over pages, and do not look at the store. -/
theorem fireUpTo_unlocked (a : Alarm) (t : Transport τ) (n : Nat) (l : Line τ) :
    (fireUpTo a t n l).2.Unlocked := by
  induction n generalizing l with
  | zero => exact Traffic.unlocked_empty
  | succ n ih =>
      unfold fireUpTo
      cases a.fire l.state with
      | none => exact Traffic.unlocked_empty
      | some r => exact .append (l.settle_unlocked t r.1 r.2) (ih _)

/-- Whatever is done about requests, or at the end of a sending, nobody is told that the store cannot be
used. This holds even if it cannot be. -/
theorem act_unlocked (a : Alarm) (t : Transport τ) (l : Line τ) (act : Act) :
    (l.act a t act).2.Unlocked := by
  cases act with
  | watch r => exact .append (l.settle_unlocked t _ _) (fireUpTo_unlocked a t _ _)
  | release id => exact Traffic.unlocked_empty
  | pass d => exact fireUpTo_unlocked a t _ _
  | complete number result => exact l.complete_unlocked number result

/-- A call in which the clock does not fail is not turned away, and leaves the store to the next one. -/
theorem serve_open (a : Alarm) (t : Transport τ) {l : Line τ} (hl : l.state.poisoned = false)
    (call : Alarm.Call) (hcall : call.op.breaks = false) :
    (l.serve a t call).1.state.poisoned = false ∧ ¬ (l.serve a t call).2.1.IsLocked ∧
      (l.serve a t call).2.2.Unlocked := by
  have hsettled := l.settle_unlocked t (a.step l.state call.op).1 (a.step l.state call.op).2.2
  rw [a.serve_eq t l call]
  refine ⟨?_, ?_, hsettled⟩
  · rw [(l.settle_sameWindow t _ _).poisoned, Alarm.poisoned_step, hl, hcall]
    rfl
  · exact Alarm.not_locked_resolved (Alarm.not_locked_of_open hl call.isCall_op) hsettled

end Line

/-! ### Rehearsals -/

namespace Rehearsal

/-- The scene with a clock that shows the same, and whose lock is new. -/
def Scene.mended (s : Scene) : Scene := { s with clock := ⟨s.clock.now⟩ }

@[simp] theorem mended_line (s : Scene) : s.mended.line = s.line := rfl

@[simp] theorem mended_calls (s : Scene) : s.mended.calls = s.calls := rfl

@[simp] theorem mended_requests (s : Scene) : s.mended.requests = s.requests := rfl

/-- What is left of a failed advance is not in what the clock shows. -/
@[simp] theorem reading_mended (s : Scene) : reading s.mended = reading s := rfl

/-- To mend the clock that was broken and the lock that was poisoned are two things, and it does not
matter which comes first. -/
theorem afterLook_mended {α : Type} (s : Scene) (line : Line Script) (progress : Progress α) :
    afterLook { s.mended with line } progress = (afterLook { s with line } progress).mended := by
  cases progress <;> rfl

/-- Failures that are recorded in a row see the clock by its readings only. -/
theorem recordAll_mended (a : Alarm) (s : Scene) (ns : List Notification) :
    recordAll a s.mended ns = ((recordAll a s ns).1.mended, (recordAll a s ns).2) := by
  induction ns generalizing s with
  | nil => rfl
  | cons n ns ih => simp only [recordAll, mended_line, reading_mended, afterLook_mended, ih]

/-- **No step can tell the lock of the clock.** It shows the same in a scene with a new lock, and leads to
the same but for the lock. There is one case for each step; those that set or advance the clock are the
facts about clocks. -/
theorem act_mended (a : Alarm) (s : Scene) (x : Act) :
    (act a s.mended x).2 = (act a s x).2 ∧ (act a s.mended x).1.mended = (act a s x).1.mended := by
  cases x with
  | record | retained =>
      simp only [act, mended_line, reading_mended, afterLook_mended, true_and]
      rfl
  | recordAll ns =>
      simp only [act, recordAll_mended, true_and]
      rfl
  -- The rest of the acts looks at other parts of the scene, and there the mended one is the same.
  | release held result =>
      simp only [act, mended_line]
      cases s.line.transport.held[held]? <;> exact ⟨rfl, rfl⟩
  | result call =>
      simp only [act, mended_calls]
      cases s.calls[call]? with
      | none => exact ⟨rfl, rfl⟩
      | some c => cases c <;> exact ⟨rfl, rfl⟩
  | finish k =>
      simp only [act, mended_requests]
      split <;> exact ⟨rfl, rfl⟩
  -- A clock that is set or advanced is used in spite of a poisoned lock.
  | setClock t =>
      simp only [act, Scene.mended, ManualClock.now_set, and_self]
  | advanceClock span =>
      simp only [act, Scene.mended, ManualClock.now_advance, ManualClock.now_advance?]
      exact ⟨rfl, rfl⟩
  | _ => exact ⟨rfl, rfl⟩

/-- The step was an advance of the clock that failed. -/
def Shown.isFailure : Shown → Bool
  | .clock none => true
  | _ => false

/-- An advance fails exactly if it leads out of the range of instants, and no other step shows itself as a
failed advance. -/
theorem isFailure_act {a : Alarm} {s : Scene} {x : Act} :
    (act a s x).2.1.isFailure = true ↔ ∃ span, x = .advanceClock span ∧ s.clock.now.Overruns span := by
  cases x with
  | advanceClock span =>
      simp only [act, ManualClock.now_advance?, Act.advanceClock.injEq, exists_eq_left',
        ← Instant.shift?_eq_none]
      cases s.clock.now.shift? span <;> simp [Shown.isFailure]
  | release | result | finish =>
      simp only [act, reduceCtorEq, false_and, exists_false, iff_false]
      split <;> exact Bool.false_ne_true
  | _ => simp [act, Shown.isFailure]

/-- The poison in the lock of the clock is out of sight for all who take part. -/
theorem blind (a : Alarm) : Steps.Blind (act a) Scene.mended (·.1.isFailure) where
  alike {s t} hst x := by
    obtain ⟨hshown, hscene⟩ := act_mended a s x
    obtain ⟨hshown', hscene'⟩ := act_mended a t x
    rw [← hshown, ← hscene, ← hshown', ← hscene', hst]
    exact ⟨rfl, rfl⟩
  failed {s x} h := by
    obtain ⟨span, rfl, hover⟩ := isFailure_act.mp h
    simp only [act, Scene.mended, ManualClock.now_advance, Instant.shift?_eq_none.mpr hover,
      Option.getD_none]

/-! ### The store behind the clock -/

/-- Somebody is told that the store cannot be used. -/
def Shown.IsLocked : Shown → Prop
  | .recorded progress => progress = .finished (.error .storeLocked)
  | .allRecorded progress => .finished (.error .storeLocked) ∈ progress
  | .retained progress => progress = .finished (.error .storeLocked)
  | .answer told => told = .alarm (.error .storeLocked)
  | _ => False

/-- The store can be used, the clock will not fail, and no result waits that tells otherwise. -/
structure Usable (s : Scene) : Prop where
  store : s.line.state.poisoned = false
  clock : s.clockBroken = false
  calls : ∀ answer, .ready answer ∈ s.calls → answer ≠ .alarm (.error .storeLocked)

/-- What a step comes to that turns nobody away. -/
structure Open (r : Scene × Shown × Traffic) : Prop where
  scene : Usable r.1
  shown : ¬ r.2.1.IsLocked
  traffic : r.2.2.Unlocked

variable {a : Alarm} {s : Scene}

/-- The clock of a scene in use shows something, however often its advances have failed. -/
theorem Usable.reading (h : Usable s) : reading s = some s.clock.now := by
  unfold Rehearsal.reading
  rw [h.clock]
  exact s.clock.look_eq

/-- After a look the scene is still in use; a look that has broken off has mended the clock. -/
theorem Usable.afterLook {α : Type} (h : Usable s) {line : Line Script}
    (hline : line.state.poisoned = false) (progress : Progress α) :
    Usable (afterLook { s with line } progress) := by
  cases progress with
  | crashed => exact ⟨hline, rfl, h.calls⟩
  | _ => exact ⟨hline, h.clock, h.calls⟩

/-- To record a failure with what the clock shows. -/
theorem Usable.record (h : Usable s) (n : Notification) :
    let r := s.line.record a Script.transport (Rehearsal.reading s) n
    r.1.state.poisoned = false ∧ r.2.1 ≠ .finished (.error .storeLocked) ∧ r.2.2.Unlocked := by
  obtain ⟨hopen, hreply, htraffic⟩ := Line.serve_open a Script.transport h.store
    (.record (some s.clock.now) n) rfl
  rw [h.reading]
  exact ⟨hopen, fun hlocked => hreply (.inl (congrArg Reply.record hlocked)), htraffic⟩

/-- To count the failures with what the clock shows. -/
theorem Usable.retained (h : Usable s) :
    let r := s.line.retained a Script.transport (Rehearsal.reading s)
    r.1.state.poisoned = false ∧ r.2.1 ≠ .finished (.error .storeLocked) ∧ r.2.2.Unlocked := by
  obtain ⟨hopen, hreply, htraffic⟩ := Line.serve_open a Script.transport h.store
    (.retained (some s.clock.now)) rfl
  rw [h.reading]
  exact ⟨hopen, fun hlocked => hreply (.inr (congrArg Reply.retained hlocked)), htraffic⟩

/-- Failures in a row, each with what the clock shows then. -/
theorem Usable.recordAll (h : Usable s) (ns : List Notification) :
    let r := recordAll a s ns
    Usable r.1 ∧ .finished (.error .storeLocked) ∉ r.2.1 ∧ r.2.2.Unlocked := by
  induction ns generalizing s with
  | nil => exact ⟨h, List.not_mem_nil, Traffic.unlocked_empty⟩
  | cons n ns ih =>
      obtain ⟨hopen, hresult, htraffic⟩ := h.record (a := a) n
      obtain ⟨hscene, hresults, hlater⟩ := ih (h.afterLook hopen _)
      refine ⟨hscene, fun hmem => ?_, htraffic.append hlater⟩
      rcases List.mem_cons.mp hmem with heq | hmem
      · exact hresult heq.symm
      · exact hresults hmem

/-- A new call waits for its sending, or has been reported; no result is ready yet. -/
theorem Usable.append_call (h : Usable s) {α : Type} (progress : Progress α) :
    Usable { s with calls := s.calls ++ [callOf progress] } := by
  refine ⟨h.store, h.clock, fun answer hmem => ?_⟩
  rcases List.mem_append.mp hmem with hmem | hmem
  · exact h.calls answer hmem
  · cases progress <;> cases List.mem_singleton.mp hmem

/-- A waiting call is told the end of its sending, and that is no word about the lock. -/
theorem Usable.informed (h : Usable s) {traffic : Traffic} (htraffic : traffic.Unlocked) :
    ∀ answer, .ready answer ∈ s.calls.map (informed traffic.answers) →
      answer ≠ .alarm (.error .storeLocked) := by
  intro answer hmem
  obtain ⟨c, hc, heq⟩ := List.mem_map.mp hmem
  cases c with
  | reported => cases heq
  | ready old =>
      cases heq
      exact h.calls answer hc
  | waiting number =>
      unfold Rehearsal.informed at heq
      dsimp only at heq
      split at heq
      · next y hfind =>
        cases heq
        exact htraffic _ (List.mem_of_find?_eq_some hfind)
      · cases heq

/-- **As long as nobody breaks the clock, nobody is turned away.** -/
theorem open_act (h : Usable s) {x : Act} (hx : x ≠ .breakClock) : Open (act a s x) := by
  cases x with
  | record n =>
      obtain ⟨hopen, hresult, htraffic⟩ := h.record (a := a) n
      exact ⟨(h.afterLook hopen _).append_call _, hresult, htraffic⟩
  | recordAll ns =>
      obtain ⟨hscene, hresults, htraffic⟩ := h.recordAll (a := a) ns
      exact ⟨hscene, hresults, htraffic⟩
  | dispatch message details =>
      have hsettled := s.line.settle_sameWindow Script.transport
        (a.dispatch message details s.line.state).1 (a.dispatch message details s.line.state).2.2
      have hline : (s.line.dispatch a Script.transport message details).1.state.poisoned = false :=
        hsettled.poisoned.trans h.store
      have hscene : Usable { s with line := (s.line.dispatch a Script.transport message details).1 } :=
        ⟨hline, h.clock, h.calls⟩
      exact ⟨hscene.append_call _, not_false, s.line.settle_unlocked Script.transport _ _⟩
  | build | completed => exact ⟨h, not_false, Traffic.unlocked_empty⟩
  | release held result =>
      simp only [act]
      split
      · exact ⟨h, not_false, Traffic.unlocked_empty⟩
      · next number _ =>
        have htraffic := s.line.complete_unlocked number result
        have hline := (s.line.act_sameWindow a Script.transport (.complete number result)).poisoned
        exact ⟨⟨hline.trans h.store, h.clock, h.informed htraffic⟩, not_false, htraffic⟩
  | result call =>
      simp only [act]
      split
      · exact ⟨h, not_false, Traffic.unlocked_empty⟩
      · exact ⟨h, not_false, Traffic.unlocked_empty⟩
      · exact ⟨h, not_false, Traffic.unlocked_empty⟩
      · next answer hcall =>
        -- The result that was ready is reported now, and is one of those of which this is known.
        refine ⟨⟨h.store, h.clock, fun other hmem => ?_⟩,
          h.calls answer (List.mem_of_getElem? hcall), Traffic.unlocked_empty⟩
        rcases List.mem_or_eq_of_mem_set hmem with hmem | heq
        · exact h.calls other hmem
        · cases heq
  | setClock | advanceClock => exact ⟨⟨h.store, h.clock, h.calls⟩, not_false, Traffic.unlocked_empty⟩
  -- The next look would fail with the store in hand: the one way to poison it.
  | breakClock => exact absurd rfl hx
  | retained =>
      obtain ⟨hopen, hresult, htraffic⟩ := h.retained (a := a)
      exact ⟨h.afterLook hopen _, hresult, htraffic⟩
  | start id callType model =>
      have hline := (s.line.act_sameWindow a Script.transport
        (.watch ⟨id, callType, model, s.clock.now⟩)).poisoned
      exact ⟨⟨hline.trans h.store, h.clock, h.calls⟩, not_false,
        s.line.act_unlocked a Script.transport (.watch ⟨id, callType, model, s.clock.now⟩)⟩
  | finish k =>
      simp only [act]
      split
      · exact ⟨⟨h.store, h.clock, h.calls⟩, not_false, Traffic.unlocked_empty⟩
      · exact ⟨h, not_false, Traffic.unlocked_empty⟩
  | sleep d =>
      have hline := (s.line.act_sameWindow a Script.transport (.pass d)).poisoned
      exact ⟨⟨hline.trans h.store, h.clock, h.calls⟩, not_false,
        s.line.act_unlocked a Script.transport (.pass d)⟩

/-- Nor does anybody in a whole rehearsal. What one step leaves to the next is a scene that can be used.
-/
theorem open_turns (h : Usable s) {acts : List Act} (hacts : .breakClock ∉ acts) :
    ∀ t ∈ Steps.turns (act a) s acts, ¬ t.2.1.IsLocked ∧ t.2.2.Unlocked := by
  induction acts generalizing s with
  | nil => exact fun t ht => nomatch ht
  | cons x xs ih =>
      have hopen := open_act (a := a) h (x := x) fun hx => hacts (hx ▸ List.mem_cons_self)
      intro t ht
      rcases List.mem_cons.mp ht with rfl | ht
      · exact ⟨hopen.shown, hopen.traffic⟩
      · exact ih hopen.scene (fun hmem => hacts (List.mem_cons_of_mem _ hmem)) t ht

/-- The scene before the first step, with a clock that may have seen anything before. -/
def beginWith (script : List Delivery) (clock : ManualClock) : Scene :=
  { begin script clock.now with clock }

/-- A rehearsal begins with a new store and no calls, and it does not matter what its clock has seen. -/
theorem usable_beginWith (script : List Delivery) (clock : ManualClock) :
    Usable (beginWith script clock) := ⟨rfl, rfl, fun _ hmem => nomatch hmem⟩

end Rehearsal

/-! ### The whole -/

open Rehearsal in
/-- **A clock survives failed advances.** Whatever has happened to a clock before, it can be set and looked
at, and an advance fails exactly if it leads out of the range of instants, and then the clock goes on
showing what it showed (`Served`). If the failed advances are left out of any operations on a new clock,
the replies of all others are the same, and so is what it shows at the end: the instant that it was set
to at last, or that it started with, moved on by the later advances that did not fail. The same goes for
an alarm that takes its readings from any clock. If the failed advances are left out of any rehearsal, on
a clock that is as good as new, all other steps show the same and lead to the same. As long as nothing
else breaks the clock, nobody is ever told that the store cannot be used. -/
theorem ManualClock.survives_failed_advances (start : Instant) (ops : List Op) :
    let c : ManualClock := ⟨start⟩
    let kept := Steps.noticed step Option.isNone c ops
    let ts := Steps.turns step c ops
    (∀ (d : ManualClock) op, Served d op (d.step op)) ∧
      Steps.turns step c kept = ts.filter (fun t => !t.2.isNone) ∧
      (Steps.last step c kept).now = (Steps.last step c ops).now ∧
      (spansSince ts).foldlM Instant.shift? (lastSet start ts) = some (Steps.last step c ops).now ∧
      ∀ (a : Alarm) script (d : ManualClock) acts,
        let s := beginWith script d
        let others := Steps.noticed (act a) (·.1.isFailure) s acts
        let shown := Steps.turns (act a) s acts
        (∀ r x, (act a r x).2.1.isFailure = true ↔
          ∃ span, x = .advanceClock span ∧ r.clock.now.Overruns span) ∧
        Steps.turns (act a) (begin script d.now) others = shown.filter (fun t => !t.2.1.isFailure) ∧
        (Steps.last (act a) (begin script d.now) others).mended = (Steps.last (act a) s acts).mended ∧
        (.breakClock ∉ acts → ∀ t ∈ shown, ¬ t.2.1.IsLocked ∧ t.2.2.Unlocked) := by
  intro c kept ts
  -- Twice the lemma about steps that leave no trace: for the clock alone, and for a whole scene.
  obtain ⟨hreplies, hnow⟩ := Steps.turns_noticed step ManualClock.blind (s := c) rfl ops
  refine ⟨served, hreplies, hnow, c.now_last ops, fun a script d acts => ?_⟩
  intro s others shown
  obtain ⟨hshown, hscene⟩ := Steps.turns_noticed (act a) (Rehearsal.blind a) (s := s)
    (t := begin script d.now) rfl acts
  exact ⟨fun r x => isFailure_act, hshown, hscene, open_turns (usable_beginWith script d)⟩

end FailureAlarm
