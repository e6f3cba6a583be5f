import FailureAlarm.Alarm.Transport
import FailureAlarm.Proofs.Lifetime
import Mathlib.Data.List.Induction

/-!
# Watching requests

What the watchdog does about requests is a matter of their history alone: it hands over one page for
each request that came to the age of the latency budget in flight, in the order of their start, and none
else. What becomes of the pages does not matter, and neither does anything else that the alarm does.

* `Undisturbed` says which steps leave the watch alone; the ends of sendings are among them;
* `fireUpTo_spec` says what the firing of timers comes to;
* `Watching` ties the state of an alarm to a history of requests, and the lemmas `Watching.start`,
  `Watching.stop` and `Watching.pass` keep it, one thing that happens after the other.

`hanging_paged_once` is the result for runs.
-/

namespace FailureAlarm

open Lifetime

/-! ### What leaves the watch alone -/

/-- The watched requests, the time, the count of those that have hung, and the lock of the store are as
before. -/
structure State.Undisturbed (s s' : State) : Prop where
  watched : s'.watched = s.watched
  elapsed : s'.elapsed = s.elapsed
  hanging : s'.metrics.hanging = s.metrics.hanging
  poisoned : s'.poisoned = s.poisoned

namespace State

theorem Undisturbed.refl (s : State) : Undisturbed s s := ⟨rfl, rfl, rfl, rfl⟩

theorem Undisturbed.trans {s s' s'' : State} (h : Undisturbed s s') (h' : Undisturbed s' s'') :
    Undisturbed s s'' :=
  ⟨h'.watched.trans h.watched, h'.elapsed.trans h.elapsed, h'.hanging.trans h.hanging,
    h'.poisoned.trans h.poisoned⟩

/-- The end of a sending counts and logs its result, and does not touch the watch. -/
theorem complete_undisturbed (s : State) (number : Nat) (result : Except PagingError Unit) :
    Undisturbed s (s.complete number result).1 := by
  unfold complete
  split
  · exact Undisturbed.refl s
  · cases result <;> exact ⟨rfl, rfl, rfl, rfl⟩

end State

namespace Line

variable {τ : Type}

/-- However many pages are brought to the transport, and whatever becomes of each at once, the watch is
left alone. -/
theorem deliver_spec (t : Transport τ) (l : Line τ) (ps : List (Nat × Page)) :
    l.state.Undisturbed (deliver t l ps).1.state ∧ (deliver t l ps).2.pages = ps.map (·.2) := by
  induction ps generalizing l with
  | nil => exact ⟨.refl _, rfl⟩
  | cons p ps ih =>
      obtain ⟨number, page⟩ := p
      unfold deliver
      cases t.deliver l.transport number page with
      | mk delivery rest =>
          obtain ⟨log, transport⟩ := rest
          cases delivery with
          | held =>
              obtain ⟨hstate, hpages⟩ := ih { l with transport }
              exact ⟨hstate, congrArg (page :: ·) hpages⟩
          | done result =>
              obtain ⟨hstate, hpages⟩ := ih (Line.complete { l with transport } number result).1
              exact ⟨(l.state.complete_undisturbed number result).trans hstate,
                congrArg (page :: ·) hpages⟩

/-- To take over what a step has done is to bring its pages to the transport, all of them and in their
order. -/
theorem settle_spec (t : Transport τ) (l : Line τ) (state : State) (effects : Effects) :
    state.Undisturbed (l.settle t state effects).1.state ∧
      (l.settle t state effects).2.pages = effects.pages.map (·.2) :=
  deliver_spec t { l with state } effects.pages

/-- To watch a request is a step of the alarm, and then all timers fire that are due already: with a
budget of zero, that of the request itself. -/
theorem watch_eq (a : Alarm) (t : Transport τ) (runtime : Bool) (r : Request) (l : Line τ) :
    l.watch a t runtime r =
      let settled := l.settle t (a.watch runtime r l.state).1 (a.watch runtime r l.state).2
      ((settled.1.fireAll a t).1, settled.2 ++ (settled.1.fireAll a t).2) := rfl

end Line

/-! ### Timers -/

/-- The watched requests that have come due. -/
def State.due (s : State) : List Watched := s.watched.filter (·.isDue s.elapsed)

/-- Whether a timer is due depends on the watch and the time alone. -/
theorem State.Undisturbed.due {s s' : State} (h : Undisturbed s s') : s'.due = s.due := by
  unfold State.due
  rw [h.watched, h.elapsed]

namespace Alarm

/-- Without a watchdog there are no timers. -/
theorem fire_off {a : Alarm} (ha : a.watchdog = .off) (s : State) : a.fire s = none := by
  unfold fire
  rw [ha]

/-- A timer that is not due does not fire. -/
theorem fire_none (a : Alarm) {s : State} (h : s.due = []) : a.fire s = none := by
  have hfind : s.watched.find? (·.isDue s.elapsed) = none :=
    List.find?_eq_none.mpr (List.filter_eq_nil_iff.mp h)
  unfold fire
  rw [hfind]
  cases a.watchdog <;> rfl

/-- The first of the requests that have come due turns out to hang, and the others stay as they are. -/
theorem fire_some {a : Alarm} {b : Duration} (ha : a.watchdog = .hanging b) {s : State} {w : Watched}
    {rest : List Watched} (h : s.due = w :: rest) :
    ∃ s' effects, a.fire s = some (s', effects) ∧
      s'.due = rest ∧
      s'.watched.filter (!·.isDue s.elapsed) = s.watched.filter (!·.isDue s.elapsed) ∧
      s'.elapsed = s.elapsed ∧
      s'.metrics.hanging = s.metrics.hanging + 1 ∧
      s'.poisoned = s.poisoned ∧
      effects.pages.map (·.2) = [a.hangingPage b w.request] := by
  -- Those under watch before `w` are not due, so it is `w` that is found and taken out.
  obtain ⟨xs, ys, hwatched, hxs, hw, hys⟩ := List.filter_eq_cons_iff.mp h
  have hfind : s.watched.find? (·.isDue s.elapsed) = some w := by
    rw [hwatched]
    exact List.find?_eq_some_iff_append.mpr ⟨hw, xs, ys, rfl, fun x hx => by simp [hxs x hx]⟩
  have herase : s.watched.eraseP (·.isDue s.elapsed) = xs ++ ys := by
    rw [hwatched, List.eraseP_append_right _ hxs, List.eraseP_cons_of_pos hw]
  have hdue : xs.filter (·.isDue s.elapsed) = [] := List.filter_eq_nil_iff.mpr hxs
  unfold fire
  rw [ha, hfind, herase]
  refine ⟨_, _, rfl, ?_, ?_, rfl, rfl, rfl, rfl⟩
  · show (xs ++ ys).filter (·.isDue s.elapsed) = rest
    rw [List.filter_append, hdue, hys]
    rfl
  · show (xs ++ ys).filter (!·.isDue s.elapsed) = _
    rw [hwatched, List.filter_append, List.filter_append, List.filter_cons_of_neg (by simp [hw])]

/-- What the firing of all timers that have come due changes, and the pages that are handed over. -/
structure Fired (a : Alarm) (b : Duration) (s s' : State) (pages : List Page) : Prop where
  watched : s'.watched = s.watched.filter (!·.isDue s.elapsed)
  elapsed : s'.elapsed = s.elapsed
  hanging : s'.metrics.hanging = s.metrics.hanging + s.due.length
  poisoned : s'.poisoned = s.poisoned
  pages : pages = s.due.map fun w => a.hangingPage b w.request

/-- With no timer due, there is nothing left to fire. -/
theorem fired_of_none_due (a : Alarm) (b : Duration) {s : State} (h : s.due = []) :
    Fired a b s s [] := by
  refine ⟨(List.filter_eq_self.mpr ?_).symm, rfl, ?_, rfl, ?_⟩
  · intro w hw
    simpa using List.filter_eq_nil_iff.mp h w hw
  · rw [h]
    rfl
  · rw [h]
    rfl

end Alarm

namespace Line

variable {τ : Type}

/-- All timers fire that have come due, the pages are handed over one by one, and what becomes of them
changes nothing. The induction is on the number of firings that are allowed. -/
theorem fireUpTo_spec {a : Alarm} {b : Duration} (ha : a.watchdog = .hanging b) (t : Transport τ) {n : Nat}
    {l : Line τ} (hn : l.state.due.length ≤ n) :
    a.Fired b l.state (fireUpTo a t n l).1.state (fireUpTo a t n l).2.pages := by
  induction n generalizing l with
  | zero => exact a.fired_of_none_due b (List.length_eq_zero_iff.mp (Nat.le_zero.mp hn))
  | succ n ih =>
      cases hdue : l.state.due with
      | nil =>
          unfold fireUpTo
          rw [a.fire_none hdue]
          exact a.fired_of_none_due b hdue
      | cons w rest =>
          obtain ⟨s', effects, hfire, hrest, hleft, helapsed, hhanging, hpoisoned, hpage⟩ :=
            Alarm.fire_some ha hdue
          obtain ⟨hsettled, hpages⟩ := l.settle_spec t s' effects
          -- The end of its sending leaves the others as they are, so that they come next.
          have hdue' : (l.settle t s' effects).1.state.due = rest := hsettled.due.trans hrest
          have hfired := ih (l := (l.settle t s' effects).1) (by
            rw [hdue']
            rw [hdue] at hn
            exact Nat.le_of_succ_le_succ hn)
          have hstep : fireUpTo a t (n + 1) l = ((fireUpTo a t n (l.settle t s' effects).1).1,
              (l.settle t s' effects).2 ++ (fireUpTo a t n (l.settle t s' effects).1).2) := by
            rw [fireUpTo, hfire]
          rw [hstep]
          constructor
          · refine hfired.watched.trans ?_
            rw [hsettled.watched, hsettled.elapsed, helapsed, hleft]
          · exact hfired.elapsed.trans (hsettled.elapsed.trans helapsed)
          · refine hfired.hanging.trans ?_
            rw [hsettled.hanging, hhanging, hdue', hdue, List.length_cons]
            omega
          · exact hfired.poisoned.trans (hsettled.poisoned.trans hpoisoned)
          · rw [Traffic.pages_append, hpages, hpage, hfired.pages, hdue', hdue]
            rfl

/-- There are as many firings allowed as there are requests under watch, and no more of these than that
can be due. -/
theorem fireAll_spec {a : Alarm} {b : Duration} (ha : a.watchdog = .hanging b) (t : Transport τ)
    (l : Line τ) : a.Fired b l.state (l.fireAll a t).1.state (l.fireAll a t).2.pages :=
  fireUpTo_spec ha t (List.length_filter_le _ _)

theorem fireAll_off {a : Alarm} (ha : a.watchdog = .off) (t : Transport τ) (l : Line τ) :
    l.fireAll a t = (l, {}) := by
  unfold fireAll
  cases l.state.watched.length with
  | zero => rfl
  | succ n =>
      unfold fireUpTo
      rw [Alarm.fire_off ha]

end Line

/-! ### The watch and the history of requests -/

/-- The watch over a request in flight, when it is `now`: it comes due at the age `b`. -/
def Lifetime.Life.watched (b : Duration) (now : Nat) (x : Life) : Watched :=
  ⟨x.request, x.deadline b now⟩

/-- The timer of a request is due exactly when the request has come to the age of the budget. -/
theorem isDue_watched (b : Duration) (now : Nat) (x : Life) :
    (x.watched b now).isDue ⟨now⟩ = x.reached b := by
  rw [Bool.eq_iff_iff, ← Life.deadline_le_iff]
  exact decide_eq_true_iff

namespace Alarm

/-- The pages about the requests of a history that hung, in the order of their start. -/
def hangingPages (a : Alarm) (h : List LifeEvent) : List Page :=
  match a.watchdog with
  | .off => []
  | .hanging b => (hung b h).map (a.hangingPage b)

/-- The watch over some requests, when it is `now`. -/
def watchOver (a : Alarm) (now : Nat) (lives : Duration → List Life) : List Watched :=
  match a.watchdog with
  | .off => []
  | .hanging b => (lives b).map (·.watched b now)

variable {a : Alarm} {h : List LifeEvent}

theorem hangingPages_off (ha : a.watchdog = .off) (h : List LifeEvent) : a.hangingPages h = [] := by
  unfold hangingPages
  rw [ha]

theorem hangingPages_hanging {b : Duration} (ha : a.watchdog = .hanging b) (h : List LifeEvent) :
    a.hangingPages h = (hung b h).map (a.hangingPage b) := by
  unfold hangingPages
  rw [ha]

theorem watchOver_off (ha : a.watchdog = .off) (now : Nat) (lives : Duration → List Life) :
    a.watchOver now lives = [] := by
  unfold watchOver
  rw [ha]

theorem watchOver_hanging {b : Duration} (ha : a.watchdog = .hanging b) (now : Nat)
    (lives : Duration → List Life) : a.watchOver now lives = (lives b).map (·.watched b now) := by
  unfold watchOver
  rw [ha]

/-- The state watches the requests of a history that are in flight and have not hung, and has counted
those that have. -/
structure Watching (a : Alarm) (h : List LifeEvent) (s : State) : Prop where
  elapsed : s.elapsed = ⟨Lifetime.elapsed h⟩
  watched : s.watched = a.watchOver (Lifetime.elapsed h) (young · h)
  hanging : s.metrics.hanging = (a.hangingPages h).length

/-- At the beginning nobody is under watch, and nobody has hung. -/
theorem watching_nil (a : Alarm) : Watching a [] {} := by
  constructor
  · rfl
  · unfold watchOver
    cases a.watchdog <;> rfl
  · unfold hangingPages
    cases a.watchdog <;> rfl

/-- What leaves the watch alone keeps it. -/
theorem Watching.undisturbed {s s' : State} (hw : Watching a h s) (hs : s.Undisturbed s') :
    Watching a h s' :=
  ⟨hs.elapsed.trans hw.elapsed, hs.watched.trans hw.watched, hs.hanging.trans hw.hanging⟩

/-- The watch goes on from one history to a longer one, and the pages are handed over that are about the
requests that have hung in between. -/
structure KeepsWatch (a : Alarm) (h h' : List LifeEvent) (s s' : State) (pages : List Page) : Prop where
  watching : Watching a h' s'
  pages : a.hangingPages h' = a.hangingPages h ++ pages
  poisoned : s'.poisoned = s.poisoned

theorem keepsWatch_of_undisturbed {s s' : State} (hw : Watching a h s) (hs : s.Undisturbed s') :
    KeepsWatch a h h s s' [] :=
  ⟨hw.undisturbed hs, (List.append_nil _).symm, hs.poisoned⟩

/-- With everyone under watch who is in flight, the timers that fire are those of the requests that have
just come to the age of the budget. -/
theorem keepsWatch_fireAll {τ : Type} (t : Transport τ) {e : LifeEvent} {s : State} {l : Line τ}
    (hw : Watching a h s) (hpoisoned : l.state.poisoned = s.poisoned)
    (hhanging : l.state.metrics.hanging = s.metrics.hanging)
    (helapsed : l.state.elapsed = ⟨Lifetime.elapsed (h ++ [e])⟩)
    (hwatched : l.state.watched = a.watchOver (Lifetime.elapsed (h ++ [e])) (awaited · h e)) :
    KeepsWatch a h (h ++ [e]) s (l.fireAll a t).1.state (l.fireAll a t).2.pages := by
  cases ha : a.watchdog with
  | off =>
      rw [watchOver_off ha] at hwatched
      rw [Line.fireAll_off ha]
      refine ⟨⟨helapsed, ?_, ?_⟩, ?_, hpoisoned⟩
      · rw [watchOver_off ha]
        exact hwatched
      · rw [hhanging, hw.hanging, hangingPages_off ha, hangingPages_off ha]
      · rw [hangingPages_off ha, hangingPages_off ha]
        rfl
  | hanging b =>
      have hfired := l.fireAll_spec ha t
      rw [watchOver_hanging ha] at hwatched
      -- The timers that are due are those of the calls that have just reached the budget.
      have hdue : l.state.due = ((awaited b h e).filter (·.reached b)).map
          (·.watched b (Lifetime.elapsed (h ++ [e]))) := by
        unfold State.due
        rw [hwatched, helapsed, List.filter_map]
        simp only [Function.comp_def, isDue_watched]
      refine ⟨⟨?_, ?_, ?_⟩, ?_, ?_⟩
      · exact hfired.elapsed.trans helapsed
      · rw [hfired.watched, watchOver_hanging ha, hwatched, helapsed, List.filter_map, young_concat]
        simp only [Function.comp_def, isDue_watched]
      · rw [hfired.hanging, hhanging, hw.hanging, hangingPages_hanging ha, hangingPages_hanging ha,
          hung_concat, hdue]
        simp only [List.length_map, List.length_append]
      · rw [hfired.pages, hangingPages_hanging ha, hangingPages_hanging ha, hung_concat, hdue,
          List.map_append, List.map_map, List.map_map]
        rfl
      · exact hfired.poisoned.trans hpoisoned

/-- A new request is put under watch last, at the age of zero; its page, if there is one, is left to the
timers. -/
theorem watch_spec (r : Request) {s : State} (hw : Watching a h s) :
    (a.watch true r s).1.watched =
        a.watchOver (Lifetime.elapsed (h ++ [.start r])) (awaited · h (.start r)) ∧
      (a.watch true r s).1.elapsed = s.elapsed ∧
      (a.watch true r s).1.metrics = s.metrics ∧
      (a.watch true r s).1.poisoned = s.poisoned ∧
      (a.watch true r s).2.pages = [] := by
  have hwatched := hw.watched
  unfold watch
  cases ha : a.watchdog with
  | off =>
      rw [watchOver_off ha] at hwatched ⊢
      exact ⟨hwatched, rfl, rfl, rfl, rfl⟩
  | hanging b =>
      rw [watchOver_hanging ha] at hwatched ⊢
      refine ⟨?_, rfl, rfl, rfl, rfl⟩
      show s.watched ++ [_] = _
      rw [hwatched, hw.elapsed, elapsed_append, awaited_start, List.map_append]
      rfl

/-- A request is started. It joins those under watch, and then the timers fire that are due. -/
theorem Watching.start {τ : Type} (t : Transport τ) {l : Line τ} (hw : Watching a h l.state)
    (r : Request) :
    KeepsWatch a h (h ++ [.start r]) l.state (l.watch a t true r).1.state
      (l.watch a t true r).2.pages := by
  obtain ⟨hwatched, helapsed, hmetrics, hpoisoned, hpages⟩ := watch_spec r hw
  obtain ⟨hsettled, hquiet⟩ := l.settle_spec t (a.watch true r l.state).1 (a.watch true r l.state).2
  have hstarted : (a.watch true r l.state).1.elapsed = ⟨Lifetime.elapsed (h ++ [.start r])⟩ := by
    rw [helapsed, hw.elapsed, elapsed_append]
    rfl
  have hfired := keepsWatch_fireAll t hw (hsettled.poisoned.trans hpoisoned)
    (hsettled.hanging.trans (congrArg Metrics.hanging hmetrics)) (hsettled.elapsed.trans hstarted)
    (hsettled.watched.trans hwatched)
  rw [hpages] at hquiet
  -- The step itself hands over no page, so all of them are from the timers.
  rw [Line.watch_eq, Traffic.pages_append, hquiet]
  exact hfired

/-- To release a request that is not under watch changes nothing. -/
theorem release_eq_self {id : RequestId} {s : State} (h : ∀ w ∈ s.watched, w.request.id ≠ id) :
    release id s = s := by
  have hwatched : (s.watched.filter fun w => w.request.id ≠ id) = s.watched :=
    List.filter_eq_self.mpr fun w hw => decide_eq_true (h w hw)
  unfold release
  rw [hwatched]

/-- A request that has hung is watched no longer, and to stop it changes nothing. -/
theorem Watching.release_of_hung {s : State} (hw : Watching a h s)
    (hids : ((starts h).map (·.id)).Nodup) {r : Request}
    (hr : ∀ b, a.watchdog = .hanging b → r ∈ hung b h) : release r.id s = s := by
  refine release_eq_self fun w hwatched => ?_
  rw [hw.watched] at hwatched
  cases ha : a.watchdog with
  | off =>
      rw [watchOver_off ha] at hwatched
      cases hwatched
  | hanging b =>
      rw [watchOver_hanging ha] at hwatched
      obtain ⟨x, hx, rfl⟩ := List.mem_map.mp hwatched
      obtain ⟨y, hy, rfl⟩ := List.mem_map.mp (hr b ha)
      obtain ⟨hy, hreached⟩ := List.mem_filter.mp hy
      intro hid
      -- The one under watch would be the one that has hung.
      rw [lives_inj hids (List.mem_of_mem_filter hx) hy hid] at hx
      exact absurd hreached (by simp [(inFlight_of_mem_young y hx).2])

/-- A request is finished or dropped. It is watched no longer, and no page is handed over: if it had hung,
that would have been noticed when it came to that age. -/
theorem Watching.stop {s : State} (hw : Watching a h s) (id : RequestId) :
    KeepsWatch a h (h ++ [.stop id]) s (release id s) [] := by
  have helapsed : Lifetime.elapsed (h ++ [.stop id]) = Lifetime.elapsed h := elapsed_append _ _
  have hpages : a.hangingPages (h ++ [.stop id]) = a.hangingPages h := by
    cases ha : a.watchdog with
    | off => rw [hangingPages_off ha, hangingPages_off ha]
    | hanging b => rw [hangingPages_hanging ha, hangingPages_hanging ha, hung_stop]
  refine ⟨⟨?_, ?_, ?_⟩, ?_, rfl⟩
  · rw [helapsed]
    exact hw.elapsed
  · show s.watched.filter _ = _
    rw [hw.watched, helapsed]
    cases ha : a.watchdog with
    | off =>
        rw [watchOver_off ha, watchOver_off ha]
        rfl
    | hanging b =>
        rw [watchOver_hanging ha, watchOver_hanging ha, young_stop, List.filter_map]
        rfl
  · rw [hpages]
    exact hw.hanging
  · rw [hpages]
    exact (List.append_nil _).symm

/-- Time passes. Each request under watch gets older, its deadline stays, and the timers fire that have
come due in the meantime. -/
theorem Watching.pass {τ : Type} (t : Transport τ) {l : Line τ} (hw : Watching a h l.state)
    (d : Duration) :
    KeepsWatch a h (h ++ [.pass d]) l.state (l.pass a t d).1.state (l.pass a t d).2.pages := by
  have helapsed : Lifetime.elapsed (h ++ [.pass d]) = Lifetime.elapsed h + d.nanoseconds :=
    elapsed_append _ _
  -- Nothing but the clock moves before the timers fire.
  refine keepsWatch_fireAll t hw rfl rfl ?_ ?_
  · show (⟨l.state.elapsed.nanoseconds + d.nanoseconds⟩ : Duration) = _
    rw [hw.elapsed, helapsed]
  · show l.state.watched = _
    rw [hw.watched, helapsed]
    cases ha : a.watchdog with
    | off => rw [watchOver_off ha, watchOver_off ha]
    | hanging b =>
        rw [watchOver_hanging ha, watchOver_hanging ha, awaited_pass, List.map_map]
        refine List.map_congr_left fun x _ => ?_
        exact congrArg (Watched.mk x.request) (x.deadline_older b d _).symm

end Alarm

/-! ### Runs -/

namespace Line

variable {τ : Type}

/-- Something that is done about requests in flight, or the end of a sending. -/
inductive Act where
  | watch (request : Request)
  /-- The handle of a request is finished or dropped. -/
  | release (id : RequestId)
  | pass (duration : Duration)
  | complete (number : Nat) (result : Except PagingError Unit)

/-- What happens to requests by it. -/
def Act.life? : Act → Option LifeEvent
  | watch r => some (.start r)
  | release id => some (.stop id)
  | pass d => some (.pass d)
  | complete _ _ => none

/-- What happens to requests, one thing after the other. -/
def history (acts : List Act) : List LifeEvent := acts.filterMap Act.life?

def act (a : Alarm) (t : Transport τ) (l : Line τ) : Act → Line τ × Traffic
  | .watch r => l.watch a t true r
  | .release id => ({ l with state := Alarm.release id l.state }, {})
  | .pass d => l.pass a t d
  | .complete number result => l.complete number result

/-- Do one thing after the other, from the beginning: where it ends, and all that is handed out. -/
def run (a : Alarm) (t : Transport τ) (x : τ) (acts : List Act) : Line τ × Traffic :=
  acts.foldl (fun (l, traffic) act => ((l.act a t act).1, traffic ++ (l.act a t act).2))
    (⟨{}, x⟩, {})

/-- The last thing that is done comes on top of all that was done before. -/
theorem run_concat (a : Alarm) (t : Transport τ) (x : τ) (acts : List Act) (act : Act) :
    run a t x (acts ++ [act]) = (((run a t x acts).1.act a t act).1,
      (run a t x acts).2 ++ ((run a t x acts).1.act a t act).2) := by
  unfold run
  rw [List.foldl_append]
  rfl

/-- Whatever is done, the watch goes on. There is one case for each thing that can be done. -/
theorem keepsWatch_act {a : Alarm} {h : List LifeEvent} (t : Transport τ) {l : Line τ}
    (hw : a.Watching h l.state) (act : Act) :
    a.KeepsWatch h (h ++ act.life?.toList) l.state (l.act a t act).1.state (l.act a t act).2.pages := by
  cases act with
  | watch r => exact hw.start t r
  | release id => exact hw.stop id
  | pass d => exact hw.pass t d
  | complete number result =>
      show a.KeepsWatch h (h ++ []) l.state (l.state.complete number result).1 []
      rw [List.append_nil]
      exact Alarm.keepsWatch_of_undisturbed hw (l.state.complete_undisturbed number result)

/-- What is done last happens to requests last. -/
theorem history_concat (acts : List Act) (act : Act) :
    history (acts ++ [act]) = history acts ++ act.life?.toList := by
  unfold history
  rw [List.filterMap_append]
  cases h : act.life? <;> simp [h]

/-- An alarm that lets requests be in flight for two seconds. -/
def twoSeconds : Alarm where
  policy := {}
  accepted := by decide
  dispatcher := ⟨⟨"on-call", by decide⟩, "gateway", "watchdog"⟩
  watchdog := .hanging (.ofSeconds 2)

/-- The `n`-th request, for a completion. -/
def completion (n : Nat) (model : Option String) : Request :=
  ⟨RequestId.ofCount n, .completion, model, default⟩

end Line
end FailureAlarm
