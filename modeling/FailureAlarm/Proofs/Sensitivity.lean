import FailureAlarm.Proofs.Interleaving
import FailureAlarm.Proofs.Look
import FailureAlarm.Proofs.Window

/-!
# How sensitive an alarm is

A longer window holds on to more failures, and a lower threshold needs fewer of them. That such an alarm
pages no later than another is not seen step by step: each empties its store whenever it crosses the
threshold, and so the more sensitive one may well hold fewer failures than the other for a while.

What holds at every point of two runs with the same calls is this (`Ahead`): the more sensitive alarm has
crossed the threshold at least as often, each time no later, and as long as it has crossed exactly as
often, it holds every failure that the other holds. The first alarm can only catch up by a crossing of its
own, which leaves its store empty.

The readings of the clock may be in any order. All that is needed of them is that a longer window starts
no later at each (`Instant.cutoff_anti`).
-/

namespace FailureAlarm
namespace Alarm

/-! ### Runs with the same calls -/

/-- Two lists that agree on what passes `p` are built up together: what does not pass is added to one of
them, and what passes is added to both at once. -/
theorem filter_eq_induction {α : Type} {p : α → Bool} {motive : List α → List α → Prop}
    (nil : motive [] [])
    (left : ∀ xs ys x, p x = false → motive xs ys → motive (xs ++ [x]) ys)
    (right : ∀ xs ys y, p y = false → motive xs ys → motive xs (ys ++ [y]))
    (both : ∀ xs ys x, p x = true → motive xs ys → motive (xs ++ [x]) (ys ++ [x]))
    {xs ys : List α} (h : xs.filter p = ys.filter p) : motive xs ys := by
  induction xs using List.reverseRecOn generalizing ys with
  | nil =>
      induction ys using List.reverseRecOn with
      | nil => exact nil
      | append_singleton ys y ih =>
          rw [List.filter_append, List.filter_nil] at h
          obtain ⟨hys, hy⟩ := List.append_eq_nil_iff.mp h.symm
          refine right _ _ _ ?_ (ih hys.symm)
          simpa using hy
  | append_singleton xs x ih =>
      cases hx : p x with
      | false =>
          refine left _ _ _ hx (ih ?_)
          rw [← h, List.filter_append, List.filter_singleton, hx, cond_false, List.append_nil]
      | true =>
          rw [List.filter_append, List.filter_singleton, hx, cond_true] at h
          -- What passes stands in the second list as well, before some steps that do not pass.
          induction ys using List.reverseRecOn with
          | nil => exact absurd h (by simp)
          | append_singleton ys y ihy =>
              rw [List.filter_append, List.filter_singleton] at h
              cases hy : p y with
              | false =>
                  rw [hy, cond_false, List.append_nil] at h
                  exact right _ _ _ hy (ihy h)
              | true =>
                  rw [hy, cond_true] at h
                  obtain ⟨hfront, hlast⟩ := List.append_inj' h rfl
                  cases hlast
                  exact both _ _ _ hx (ih hfront)

/-- The calls of a run that crossed the threshold, by their numbers in the order in which they had hold
of the store. -/
def crossings (a : Alarm) (ops : List Op) : List Nat :=
  ((a.replies ops).zipIdx.filter fun (reply, _) => decide reply.Crosses).map (·.2)

/-- One operation more may be one crossing more, in the call that is the last so far. -/
theorem crossings_concat (a : Alarm) (ops : List Op) (op : Op) :
    a.crossings (ops ++ [op]) = a.crossings ops ++
      if (a.step (a.after ops) op).2.1.Crosses then [(a.replies ops).length] else [] := by
  unfold crossings
  rw [replies_concat]
  by_cases hcross : (a.step (a.after ops) op).2.1.Crosses
  · rw [if_pos hcross, if_pos (isCall_of_crosses hcross), List.zipIdx_append, List.filter_append,
      List.map_append]
    simp [hcross]
  · rw [if_neg hcross]
    split
    · rw [List.zipIdx_append, List.filter_append, List.map_append]
      simp [hcross]
    · rw [List.append_nil, List.append_nil]

/-- Crossings are in calls that there have been. -/
theorem lt_of_mem_crossings {a : Alarm} {ops : List Op} :
    ∀ c ∈ a.crossings ops, c < (a.replies ops).length := by
  intro c hc
  obtain ⟨⟨reply, k⟩, hmem, rfl⟩ := List.mem_map.mp hc
  have hlt := List.snd_lt_of_mem_zipIdx (List.mem_of_mem_filter hmem)
  simpa using hlt

/-! ### Times that are no later -/

/-- Each of the times `xs` has its counterpart in `ys`, which is no later. -/
def NoLater (xs ys : List Nat) : Prop :=
  ∀ i c : Nat, xs[i]? = some c → ∃ d ≤ c, ys[i]? = some d

/-- Then there are no fewer of them, either. -/
theorem NoLater.length_le {xs ys : List Nat} (h : NoLater xs ys) : xs.length ≤ ys.length := by
  by_contra hlt
  have hlast : ys.length < xs.length := by omega
  obtain ⟨d, -, hd⟩ := h ys.length _ (List.getElem?_eq_getElem hlast)
  rw [List.getElem?_eq_none (Nat.le_refl _)] at hd
  cases hd

/-- More crossings of the second alarm do no harm. -/
theorem NoLater.append_right {xs ys : List Nat} (h : NoLater xs ys) (zs : List Nat) :
    NoLater xs (ys ++ zs) := by
  intro i c hc
  obtain ⟨d, hle, hd⟩ := h i c hc
  refine ⟨d, hle, ?_⟩
  rw [List.getElem?_append_left (List.getElem?_eq_some_iff.mp hd).1]
  exact hd

/-- One more time has its counterpart if there is one more in `ys`, and that is no later. -/
theorem NoLater.concat {xs ys : List Nat} (h : NoLater xs ys) {c d : Nat}
    (hd : ys[xs.length]? = some d) (hle : d ≤ c) : NoLater (xs ++ [c]) ys := by
  intro i c' hc'
  rcases Nat.lt_or_ge i xs.length with hi | hi
  · rw [List.getElem?_append_left hi] at hc'
    exact h i c' hc'
  · have hlt := (List.getElem?_eq_some_iff.mp hc').1
    rw [List.length_append, List.length_singleton] at hlt
    have hlast : i = xs.length := by omega
    subst hlast
    rw [List.getElem?_concat_length] at hc'
    cases hc'
    exact ⟨d, hle, hd⟩

/-! ### Two alarms -/

/-- The alarm `b` is at least as sensitive as `a`. -/
structure LessSensitive (a b : Alarm) : Prop where
  window : a.policy.windowSeconds ≤ b.policy.windowSeconds
  threshold : b.policy.threshold ≤ a.policy.threshold

/-- What is in the shorter window is in the longer one as well. -/
theorem LessSensitive.sublist_inWindow {a b : Alarm} (h : LessSensitive a b) {fs gs : List Failure}
    (hsub : fs.Sublist gs) (now : Instant) : (a.inWindow now fs).Sublist (b.inWindow now gs) := by
  have hcutoff : b.cutoff now ≤ a.cutoff now := Instant.cutoff_anti now h.window
  refine List.Sublist.trans ?_ (hsub.filter _)
  apply List.monotone_filter_right
  intro f hf
  rw [decide_eq_true_eq] at hf ⊢
  exact lt_of_le_of_lt hcutoff hf

/-- What reaches the threshold of the first alarm reaches that of the second. -/
theorem LessSensitive.isReached {a b : Alarm} (h : LessSensitive a b) {m n : Nat} (hle : m ≤ n)
    (hm : a.policy.isReached m = true) : b.policy.isReached n = true := by
  unfold Policy.isReached at hm ⊢
  rw [decide_eq_true_eq] at hm ⊢
  have hthreshold := h.threshold
  omega

/-- With all the failures of `a` in its store, `b` crosses the threshold whenever `a` does. -/
theorem LessSensitive.crosses {a b : Alarm} (h : LessSensitive a b) {fs gs : List Failure}
    {e e' : Event} (hsub : fs.Sublist gs) (hlook : e'.look = e.look) (hfits : a.Fits fs e)
    (hfits' : b.Fits gs e') (hcross : e.isCrossing = true) : e'.isCrossing = true := by
  obtain ⟨hnow, hfailure⟩ := Look.mk.inj hlook
  unfold Fits at hfits hfits'
  rw [hcross, eq_comm, Bool.and_eq_true] at hfits
  rw [hfits', hfailure, Bool.and_eq_true]
  refine ⟨hfits.1, h.isReached (List.Sublist.length_le ?_) hfits.2⟩
  unfold kept
  rw [hnow, hfailure]
  exact h.sublist_inWindow (hsub.append (List.Sublist.refl _)) e.now

/-- After these runs, `b` has crossed the threshold at least as often as `a`, each time no later, and if
it has crossed it exactly as often, it holds all the failures of `a`. -/
structure Ahead (a b : Alarm) (ops ops' : List Op) : Prop where
  poisoned : (a.after ops).poisoned = (b.after ops').poisoned
  calls : (a.replies ops).length = (b.replies ops').length
  noLater : NoLater (a.crossings ops) (b.crossings ops')
  store : (a.crossings ops).length = (b.crossings ops').length →
    (a.after ops).store.failures.Sublist (b.after ops').store.failures

/-- At the beginning nobody is ahead. -/
theorem ahead_nil (a b : Alarm) : Ahead a b [] [] := by
  refine ⟨rfl, rfl, ?_, fun _ => List.Sublist.refl _⟩
  intro i c hc
  have hnone : ([] : List Nat)[i]? = some c := hc
  rw [List.getElem?_nil] at hnone
  cases hnone

/-- Steps that are no calls change nothing that is compared. -/
theorem same_elsewhere (a : Alarm) (ops : List Op) {op : Op} (h : op.isCall = false) :
    (a.after (ops ++ [op])).store = (a.after ops).store ∧
      (a.after (ops ++ [op])).poisoned = (a.after ops).poisoned ∧
      a.replies (ops ++ [op]) = a.replies ops ∧ a.crossings (ops ++ [op]) = a.crossings ops := by
  obtain ⟨hstore, hpoisoned, -⟩ := a.step_elsewhere (a.after ops) h
  have hcross : ¬ (a.step (a.after ops) op).2.1.Crosses :=
    fun hc => absurd (isCall_of_crosses hc) (by rw [h]; exact Bool.false_ne_true)
  refine ⟨?_, ?_, ?_, ?_⟩
  · rw [after_concat, hstore]
  · rw [after_concat, hpoisoned]
  · rw [replies_concat, h, if_neg Bool.false_ne_true, List.append_nil]
  · rw [crossings_concat, if_neg hcross, List.append_nil]

/-- Something that is no call may happen to the first alarm alone. -/
theorem ahead_left {a b : Alarm} {ops ops' : List Op} {op : Op} (hop : op.isCall = false)
    (h : Ahead a b ops ops') : Ahead a b (ops ++ [op]) ops' := by
  obtain ⟨hstore, hpoisoned, hreplies, hcrossings⟩ := a.same_elsewhere ops hop
  constructor
  · rw [hpoisoned]
    exact h.poisoned
  · rw [hreplies]
    exact h.calls
  · rw [hcrossings]
    exact h.noLater
  · rw [hcrossings, hstore]
    exact h.store

/-- And to the second one alone. -/
theorem ahead_right {a b : Alarm} {ops ops' : List Op} {op : Op} (hop : op.isCall = false)
    (h : Ahead a b ops ops') : Ahead a b ops (ops' ++ [op]) := by
  obtain ⟨hstore, hpoisoned, hreplies, hcrossings⟩ := b.same_elsewhere ops' hop
  constructor
  · rw [hpoisoned]
    exact h.poisoned
  · rw [hreplies]
    exact h.calls
  · rw [hcrossings]
    exact h.noLater
  · rw [hcrossings, hstore]
    exact h.store

/-- A call that takes no look at either store leaves all as it is. -/
theorem noLater_blind {a b : Alarm} {ops ops' : List Op} {op : Op} (h : Ahead a b ops ops')
    (hblind : op.look? = none ∨ (a.after ops).poisoned = true) :
    NoLater (a.crossings (ops ++ [op])) (b.crossings (ops' ++ [op])) ∧
      ((a.crossings (ops ++ [op])).length = (b.crossings (ops' ++ [op])).length →
        (a.after (ops ++ [op])).store.failures.Sublist (b.after (ops' ++ [op])).store.failures) := by
  have hnone : Event.shown? op (a.step (a.after ops) op).2.1 = none := shown_eq_none hblind
  have hnone' : Event.shown? op (b.step (b.after ops') op).2.1 = none :=
    shown_eq_none (h.poisoned ▸ hblind)
  rw [crossings_concat, crossings_concat, if_neg (not_crosses_of_shown hnone),
    if_neg (not_crosses_of_shown hnone'), List.append_nil, List.append_nil, after_concat,
    after_concat, (uneventful_of_shown hnone).store,
    (uneventful_of_shown hnone').store]
  exact ⟨h.noLater, h.store⟩

/-- A look that both alarms take. If the first crosses the threshold, then either the second has crossed
it once more often before, or it holds all that the first holds, and crosses it now. -/
theorem noLater_look {a b : Alarm} {ops ops' : List Op} {op : Op} {l : Look}
    (hsens : LessSensitive a b) (h : Ahead a b ops ops') (hl : op.look? = some l)
    (hopen : (a.after ops).poisoned = false) :
    NoLater (a.crossings (ops ++ [op])) (b.crossings (ops' ++ [op])) ∧
      ((a.crossings (ops ++ [op])).length = (b.crossings (ops' ++ [op])).length →
        (a.after (ops ++ [op])).store.failures.Sublist (b.after (ops' ++ [op])).store.failures) := by
  obtain ⟨e, he, hlook⟩ := shown_of_look (a := a) hopen hl
  obtain ⟨e', he', hlook'⟩ := shown_of_look (a := b) (h.poisoned ▸ hopen) hl
  have hsame : e'.look = e.look := hlook'.trans hlook.symm
  have hstep := happens_of_shown he
  have hstep' := happens_of_shown he'
  have hlength := h.noLater.length_le
  simp only [crossings_concat, crosses_iff_of_shown he, crosses_iff_of_shown he', after_concat,
    hstep.store, hstep'.store, ← h.calls]
  cases hcross : e.isCrossing with
  | true =>
      rw [left_of_crossing hcross, if_pos rfl]
      refine ⟨?_, fun _ => List.nil_sublist _⟩
      rcases Nat.eq_or_lt_of_le hlength with heq | hlt
      -- Equally often so far: the second alarm crosses the threshold in the same call.
      · have hcross' : e'.isCrossing = true :=
          hsens.crosses (h.store heq) hsame hstep.fits hstep'.fits hcross
        rw [if_pos hcross']
        refine (h.noLater.append_right _).concat ?_ (Nat.le_refl _)
        rw [heq, List.getElem?_concat_length]
      -- The second alarm is one crossing ahead, which was in an earlier call.
      · have hbefore := lt_of_mem_crossings _ (List.getElem_mem hlt)
        rw [← h.calls] at hbefore
        refine (h.noLater.append_right _).concat ?_ (Nat.le_of_lt hbefore)
        rw [List.getElem?_append_left hlt, List.getElem?_eq_getElem hlt]
  | false =>
      rw [left_of_not_crossing hcross, if_neg Bool.false_ne_true, List.append_nil]
      refine ⟨h.noLater.append_right _, fun heq => ?_⟩
      cases hcross' : e'.isCrossing with
      | true =>
          -- Now the second alarm has crossed more often, and nothing is asked of the stores.
          rw [hcross', if_pos rfl, List.length_append, List.length_singleton] at heq
          omega
      | false =>
          rw [hcross', if_neg Bool.false_ne_true, List.append_nil] at heq
          obtain ⟨hnow, hfailure⟩ := Look.mk.inj hsame
          rw [left_of_not_crossing hcross']
          unfold kept
          rw [hnow, hfailure]
          exact hsens.sublist_inWindow ((h.store heq).append (List.Sublist.refl _)) e.now

/-- **A call that both alarms take.** They turn it away both or neither, for they look at the same clock;
if it comes to the store, it is a look that both take. -/
theorem ahead_both {a b : Alarm} {ops ops' : List Op} {op : Op} (hsens : LessSensitive a b)
    (hop : op.isCall = true) (h : Ahead a b ops ops') : Ahead a b (ops ++ [op]) (ops' ++ [op]) := by
  have hboth : NoLater (a.crossings (ops ++ [op])) (b.crossings (ops' ++ [op])) ∧
      ((a.crossings (ops ++ [op])).length = (b.crossings (ops' ++ [op])).length →
        (a.after (ops ++ [op])).store.failures.Sublist
          (b.after (ops' ++ [op])).store.failures) := by
    cases hl : op.look? with
    | none => exact noLater_blind h (Or.inl hl)
    | some l =>
        cases hs : (a.after ops).poisoned with
        | true => exact noLater_blind h (Or.inr hs)
        | false => exact noLater_look hsens h hl hs
  refine ⟨?_, ?_, hboth.1, hboth.2⟩
  · rw [after_concat, after_concat, poisoned_step, poisoned_step, h.poisoned]
  · rw [replies_concat, replies_concat, if_pos hop, if_pos hop, List.length_append,
      List.length_append, List.length_singleton, List.length_singleton, h.calls]

/-- **A more sensitive alarm pages no later.** Let two alarms take the same calls, with the same
readings, whatever else happens in between and whatever becomes of their pages, and let the window of
the second be no shorter and its threshold no higher. Then for every crossing of the first alarm there
is one of the second with the same number, in the same call or an earlier one. -/
theorem crossing_no_later {a b : Alarm} (hwindow : a.policy.windowSeconds ≤ b.policy.windowSeconds)
    (hthreshold : b.policy.threshold ≤ a.policy.threshold) {ops ops' : List Op}
    (hcalls : ops.filter Op.isCall = ops'.filter Op.isCall) :
    (a.crossings ops).length ≤ (b.crossings ops').length ∧
      ∀ i call : Nat, (a.crossings ops)[i]? = some call →
        ∃ earlier ≤ call, (b.crossings ops')[i]? = some earlier := by
  have hsens : LessSensitive a b := ⟨hwindow, hthreshold⟩
  have h : Ahead a b ops ops' := filter_eq_induction (a.ahead_nil b)
    (fun _ _ _ hop => ahead_left hop) (fun _ _ _ hop => ahead_right hop)
    (fun _ _ _ hop => ahead_both hsens hop) hcalls
  exact ⟨h.noLater.length_le, h.noLater⟩

/-- An alarm over the failures of two minutes. -/
def twoMinutes (threshold : Int) : Alarm where
  policy := { windowSeconds := 120, threshold := threshold }
  accepted := by show 120 ≤ Policy.maxWindow; decide
  dispatcher := ⟨⟨"second-key", by decide⟩, "source", "component"⟩
  watchdog := .off

/-- Failures at seconds 10, 100, 110, 120 and 90, the clock having been set back before the last of them,
while the first page comes to its end after the second call or after the third. -/
def fiveFailures (second? third? : List Op) : List Op :=
  [.record (some (second 10)) ⟨some {}⟩, .record (some (second 100)) ⟨some {}⟩] ++ second? ++
    [.record (some (second 110)) ⟨some {}⟩] ++ third? ++
    [.record (some (second 120)) ⟨some {}⟩, .record (some (second 90)) ⟨some {}⟩]

/-- With one minute the threshold of two is crossed in the calls 2 and 4, and with two minutes once in
each of the calls before them. -/
theorem crossing_no_later_than_fifth :
    let ops := fiveFailures [] [.complete 0 (.error (.http "refused"))]
    let ops' := fiveFailures [.complete 0 (.ok ())] []
    ops.filter Op.isCall = ops'.filter Op.isCall ∧ ((perMinute 2).crossings ops)[1]? = some 4 ∧
      ∃ earlier ≤ 4, ((twoMinutes 2).crossings ops')[1]? = some earlier := by
  intro ops ops'
  have hcalls : ops.filter Op.isCall = ops'.filter Op.isCall := rfl
  have hwindow : (perMinute 2).policy.windowSeconds ≤ (twoMinutes 2).policy.windowSeconds := by decide
  have hthreshold : (twoMinutes 2).policy.threshold ≤ (perMinute 2).policy.threshold := by decide
  have hcross : ((perMinute 2).crossings ops)[1]? = some 4 := by decide
  exact ⟨hcalls, hcross, (crossing_no_later hwindow hthreshold hcalls).2 1 4 hcross⟩

end Alarm
end FailureAlarm
