import FailureAlarm.Proofs.Calls
import FailureAlarm.Proofs.Watching

/-!
# The window and the watch keep apart

The calls that record failures and the watch over requests share one transport and one set of counters.
A page of either may shift what a transport with a state of its own does to the pages of the other. Still
neither of the two has any influence on the other, as long as all that is looked at is what the alarm
does by itself:

* what calls leave in the store and the pages they hand over are a matter of the calls alone
  (`windowView_calls`);
* the requests that hang, the times at which they are paged and their pages are a matter of what happens
  to requests alone (`watchView_requests`).

For each there is a part of the state, `SameWindow` and `SameWatch`, that decides all that is seen of it and
that the other side leaves alone. What becomes of pages leaves both alone. Calls in which the clock fails
are calls like any other, so the watch goes on when the store cannot be used any more.
-/

namespace FailureAlarm

open Lifetime
open Alarm (SameWindow)

/-! ### What leaves the window alone -/

/-- The end of a sending leaves the store and its lock alone. -/
theorem State.complete_sameWindow (s : State) (number : Nat) (result : Except PagingError Unit) :
    SameWindow (s.complete number result).1 s := by
  unfold complete
  split
  · exact ⟨rfl, rfl⟩
  · exact ⟨rfl, rfl⟩

/-- The states agree on what the watch looks at. -/
structure State.SameWatch (s t : State) : Prop where
  watched : s.watched = t.watched
  elapsed : s.elapsed = t.elapsed

theorem State.SameWatch.symm {s t : State} (h : SameWatch s t) : SameWatch t s :=
  ⟨h.watched.symm, h.elapsed.symm⟩

theorem State.SameWatch.trans {s t u : State} (h : SameWatch s t) (h' : SameWatch t u) :
    SameWatch s u := ⟨h.watched.trans h'.watched, h.elapsed.trans h'.elapsed⟩

theorem State.Undisturbed.sameWatch {s s' : State} (h : Undisturbed s s') : SameWatch s' s :=
  ⟨h.watched, h.elapsed⟩

/-- Whose timers are due is a matter of the watch and the clock. -/
theorem State.SameWatch.due {s t : State} (h : SameWatch s t) : s.due = t.due := by
  unfold State.due
  rw [h.watched, h.elapsed]

open State (SameWatch)

namespace Line

variable {τ τ' : Type}

/-- To bring pages to the transport leaves the window alone, whatever becomes of them there. -/
theorem deliver_sameWindow (t : Transport τ) (l : Line τ) (ps : List (Nat × Page)) :
    SameWindow (deliver t l ps).1.state l.state := by
  induction ps generalizing l with
  | nil => exact ⟨rfl, rfl⟩
  | cons p ps ih =>
      obtain ⟨number, page⟩ := p
      unfold deliver
      cases t.deliver l.transport number page with
      | mk delivery rest =>
          obtain ⟨log, transport⟩ := rest
          cases delivery with
          | held => exact ih { l with transport }
          | done result =>
              have hended := l.state.complete_sameWindow number result
              exact (ih (Line.complete { l with transport } number result).1).trans hended

/-- So the store is as the step has left it. -/
theorem settle_sameWindow (t : Transport τ) (l : Line τ) (state : State) (effects : Effects) :
    SameWindow (l.settle t state effects).1.state state :=
  deliver_sameWindow t { l with state } effects.pages

/-- Timers that fire leave the window alone. -/
theorem fireUpTo_sameWindow (a : Alarm) (t : Transport τ) (n : Nat) (l : Line τ) :
    SameWindow (fireUpTo a t n l).1.state l.state := by
  induction n generalizing l with
  | zero => exact ⟨rfl, rfl⟩
  | succ n ih =>
      have hfire := (a.elsewhere_sameWindow l.state (show Alarm.Op.fire.isCall = false from rfl)).1
      unfold Alarm.step at hfire
      unfold fireUpTo
      cases hs : a.fire l.state with
      | none => exact ⟨rfl, rfl⟩
      | some r =>
          obtain ⟨s, effects⟩ := r
          rw [hs] at hfire
          exact (ih (l.settle t s effects).1).trans ((l.settle_sameWindow t s effects).trans hfire)

/-- **What is done about requests leaves the window alone.** -/
theorem act_sameWindow (a : Alarm) (t : Transport τ) (l : Line τ) (act : Act) :
    SameWindow (l.act a t act).1.state l.state := by
  cases act with
  | watch r =>
      have hwatch := (a.elsewhere_sameWindow l.state (show (Alarm.Op.watch r).isCall = false from rfl)).1
      exact (fireUpTo_sameWindow a t _ _).trans ((l.settle_sameWindow t _ _).trans hwatch)
  | release id => exact ⟨rfl, rfl⟩
  | pass d =>
      have hpass : SameWindow (Alarm.pass d l.state) l.state := ⟨rfl, rfl⟩
      exact (fireUpTo_sameWindow a t _ _).trans hpass
  | complete number result => exact l.state.complete_sameWindow number result

/-! ### What leaves the watch alone -/

/-- **A call leaves the watch alone**, whatever it comes to. -/
theorem call_sameWatch (a : Alarm) (s : State) (call : Alarm.Call) :
    SameWatch (a.step s call.op).1 s := by
  cases call with
  | record reading n =>
      show SameWatch (a.record reading n s).1 s
      have hspec := a.record_spec reading n s
      generalize a.record reading n s = r at hspec ⊢
      cases hspec with
      | _ => exact ⟨rfl, rfl⟩
  | retained reading =>
      show SameWatch (a.retained reading s).1 s
      have hspec := a.retained_spec reading s
      generalize a.retained reading s = r at hspec ⊢
      cases hspec with
      | _ => exact ⟨rfl, rfl⟩

/-- It does so with its page brought to the transport, too. -/
theorem serve_sameWatch (a : Alarm) (t : Transport τ) (l : Line τ) (call : Alarm.Call) :
    SameWatch (l.serve a t call).1.state l.state := by
  rw [a.serve_eq t l call]
  have hsettled := (l.settle_spec t (a.step l.state call.op).1 (a.step l.state call.op).2.2).1
  exact hsettled.sameWatch.trans (call_sameWatch a l.state call)

/-! ### The same done on two lines -/

/-- On lines with the same window a call leaves the same store and hands over the same pages. -/
theorem serve_congr (a : Alarm) (t : Transport τ) (t' : Transport τ') {l : Line τ} {l' : Line τ'}
    (h : SameWindow l.state l'.state) (call : Alarm.Call) :
    SameWindow (l.serve a t call).1.state (l'.serve a t' call).1.state ∧
      (l.serve a t call).2.2.pages = (l'.serve a t' call).2.2.pages := by
  rw [a.serve_eq t l call, a.serve_eq t' l' call]
  have halike := a.call_alike h call.isCall_op
  constructor
  · refine (l.settle_sameWindow t _ _).trans (halike.window.trans ?_)
    exact (l'.settle_sameWindow t' _ _).symm
  · dsimp only
    rw [(l.settle_spec t _ _).2, (l'.settle_spec t' _ _).2, halike.pages]

/-- On lines with the same watch the same timers fire. -/
theorem fireAll_congr (a : Alarm) (t : Transport τ) (t' : Transport τ') {l : Line τ} {l' : Line τ'}
    (h : SameWatch l.state l'.state) :
    SameWatch (l.fireAll a t).1.state (l'.fireAll a t').1.state ∧
      (l.fireAll a t).2.pages = (l'.fireAll a t').2.pages := by
  cases ha : a.watchdog with
  | off =>
      rw [fireAll_off ha, fireAll_off ha]
      exact ⟨h, rfl⟩
  | hanging b =>
      have hfired := l.fireAll_spec ha t
      have hfired' := l'.fireAll_spec ha t'
      refine ⟨⟨?_, ?_⟩, ?_⟩
      · rw [hfired.watched, hfired'.watched, h.watched, h.elapsed]
      · rw [hfired.elapsed, hfired'.elapsed, h.elapsed]
      · rw [hfired.pages, hfired'.pages, h.due]

/-- To watch a request does the same to the watch wherever the watch is the same. -/
theorem watch_congr (a : Alarm) {s s' : State} (h : SameWatch s s') (r : Request) :
    SameWatch (a.watch true r s).1 (a.watch true r s').1 ∧
      (a.watch true r s).2.pages = (a.watch true r s').2.pages := by
  unfold Alarm.watch
  cases a.watchdog with
  | off => exact ⟨h, rfl⟩
  | hanging b =>
      refine ⟨⟨?_, h.elapsed⟩, rfl⟩
      show s.watched ++ _ = s'.watched ++ _
      rw [h.watched, h.elapsed]

/-- **What is done about requests depends on the watch alone.** It hands over the same pages and leaves
the same watch, over any two transports and beside any two stores. -/
theorem act_congr (a : Alarm) (t : Transport τ) (t' : Transport τ') {l : Line τ} {l' : Line τ'}
    (h : SameWatch l.state l'.state) (act : Act) :
    SameWatch (l.act a t act).1.state (l'.act a t' act).1.state ∧
      (l.act a t act).2.pages = (l'.act a t' act).2.pages := by
  cases act with
  | watch r =>
      obtain ⟨hwatch, hpages⟩ := watch_congr a h r
      -- The pages go to different transports, but whatever these do leaves the watch alone.
      have hsettled := l.settle_spec t (a.watch true r l.state).1 (a.watch true r l.state).2
      have hsettled' := l'.settle_spec t' (a.watch true r l'.state).1 (a.watch true r l'.state).2
      obtain ⟨hfired, hfiredPages⟩ := fireAll_congr a t t'
        (hsettled.1.sameWatch.trans (hwatch.trans hsettled'.1.sameWatch.symm))
      refine ⟨hfired, ?_⟩
      show (l.watch a t true r).2.pages = (l'.watch a t' true r).2.pages
      rw [watch_eq, watch_eq, Traffic.pages_append, Traffic.pages_append, hsettled.2, hsettled'.2,
        hpages, hfiredPages]
  | release id =>
      refine ⟨⟨?_, h.elapsed⟩, rfl⟩
      show l.state.watched.filter _ = l'.state.watched.filter _
      rw [h.watched]
  | pass d =>
      refine fireAll_congr a t t' ⟨h.watched, ?_⟩
      show (⟨l.state.elapsed.nanoseconds + d.nanoseconds⟩ : Duration) = _
      rw [h.elapsed]
      rfl
  | complete number result =>
      have hended := (l.state.complete_undisturbed number result).sameWatch
      have hended' := (l'.state.complete_undisturbed number result).sameWatch
      exact ⟨hended.trans (h.trans hended'.symm), rfl⟩

/-! ### Courses of both -/

/-- A call is served, or something is done about requests in flight or pages under way. -/
inductive Deed where
  | call (call : Alarm.Call)
  | act (act : Act)

namespace Deed

def call? : Deed → Option Alarm.Call
  | call c => some c
  | act _ => none

/-- What is done about a request in flight, or the time that passes for all of them. -/
def request? : Deed → Option Act
  | act (.complete _ _) => none
  | act x => some x
  | call _ => none

end Deed

def calls (deeds : List Deed) : List Alarm.Call := deeds.filterMap Deed.call?

def requests (deeds : List Deed) : List Act := deeds.filterMap Deed.request?

def perform (a : Alarm) (t : Transport τ) (l : Line τ) : Deed → Line τ × Traffic
  | .call c => ((l.serve a t c).1, (l.serve a t c).2.2)
  | .act x => l.act a t x

/-- Do one thing after the other: what is done, where it leads, and what is handed out. -/
def course (a : Alarm) (t : Transport τ) (l : Line τ) : List Deed → List (Deed × Line τ × Traffic)
  | [] => []
  | d :: ds => (d, l.perform a t d) :: course a t (l.perform a t d).1 ds

/-- The store that each call leaves, and its page, which it hands over if it crosses the threshold. -/
def windowView (steps : List (Deed × Line τ × Traffic)) : List (Store × List Page) :=
  steps.filterMap fun (d, l, traffic) => d.call?.map fun _ => (l.state.store, traffic.pages)

/-- The pages that are handed over when something happens to requests, with the time at which it does. -/
def watchView (steps : List (Deed × Line τ × Traffic)) : List (Duration × List Page) :=
  steps.filterMap fun (d, l, traffic) => d.request?.map fun _ => (l.state.elapsed, traffic.pages)

/-- **Nothing but calls is seen in the window.** -/
theorem windowView_calls (a : Alarm) (t : Transport τ) (t' : Transport τ') {l : Line τ} {l' : Line τ'}
    (h : SameWindow l.state l'.state) (deeds : List Deed) :
    windowView (course a t l deeds) = windowView (course a t' l' ((calls deeds).map .call)) := by
  induction deeds generalizing l l' with
  | nil => rfl
  | cons d ds ih =>
      cases d with
      | call c =>
          obtain ⟨hwindow, hpages⟩ := serve_congr a t t' h c
          show ((l.serve a t c).1.state.store, (l.serve a t c).2.2.pages) :: windowView _ =
            ((l'.serve a t' c).1.state.store, (l'.serve a t' c).2.2.pages) :: windowView _
          rw [hwindow.store, hpages]
          congr 1
          exact ih hwindow
      | act x => exact ih ((act_sameWindow a t l x).trans h)

/-- One thing that is done about requests shows the time and its pages. -/
theorem watchView_act {x : Act} (hx : Deed.request? (.act x) = some x) (l : Line τ) (traffic : Traffic)
    (steps : List (Deed × Line τ × Traffic)) :
    watchView ((.act x, l, traffic) :: steps) =
      (l.state.elapsed, traffic.pages) :: watchView steps := by
  unfold watchView
  rw [List.filterMap_cons]
  dsimp only
  rw [hx]
  rfl

/-- **Nothing but what happens to requests is seen in the watch.** -/
theorem watchView_requests (a : Alarm) (t : Transport τ) (t' : Transport τ') {l : Line τ} {l' : Line τ'}
    (h : SameWatch l.state l'.state) (deeds : List Deed) :
    watchView (course a t l deeds) = watchView (course a t' l' ((requests deeds).map .act)) := by
  induction deeds generalizing l l' with
  | nil => rfl
  | cons d ds ih =>
      have hact (x : Act) (hx : Deed.request? (.act x) = some x) :
          watchView (course a t l (.act x :: ds)) =
            watchView (course a t' l' ((requests (.act x :: ds)).map .act)) := by
        obtain ⟨hwatch, hpages⟩ := act_congr a t t' h x
        have hrequests : requests (.act x :: ds) = x :: requests ds := List.filterMap_cons_some hx
        rw [hrequests]
        show watchView ((.act x, l.act a t x) :: course a t (l.act a t x).1 ds) =
          watchView ((.act x, l'.act a t' x) :: course a t' (l'.act a t' x).1 _)
        rw [watchView_act hx, watchView_act hx, hwatch.elapsed, hpages]
        congr 1
        exact ih hwatch
      -- A call is skipped, and so is the end of a sending; the rest is done in both.
      cases d with
      | call c => exact ih ((serve_sameWatch a t l c).trans h)
      | act x =>
          cases x with
          | complete number result =>
              exact ih ((l.state.complete_undisturbed number result).sameWatch.trans h)
          | _ => exact hact _ rfl

/-- A call hands a page over exactly if it crosses the threshold. -/
theorem serve_pages_iff (a : Alarm) (t : Transport τ) (l : Line τ) (call : Alarm.Call) :
    (l.serve a t call).2.2.pages ≠ [] ↔ (a.step l.state call.op).2.1.Crosses := by
  rw [a.serve_eq t l call]
  dsimp only
  rw [(l.settle_spec t _ _).2]
  by_cases hcross : (a.step l.state call.op).2.1.Crosses
  · obtain ⟨now, p, -, h⟩ := Alarm.crossing_of_crosses hcross
    rw [h.pages]
    exact iff_of_true (List.cons_ne_nil _ _) hcross
  · rw [(Alarm.call_quiet call.isCall_op hcross).1]
    exact iff_of_false (fun hne => hne rfl) hcross

/-- The pages of the watch are about the requests that hang, one after the other. -/
theorem pages_watchView {a : Alarm} (t : Transport τ) {h : List LifeEvent} {l : Line τ}
    (hw : a.Watching h l.state) (acts : List Act) :
    a.hangingPages (h ++ history acts) = a.hangingPages h ++
      (watchView (course a t l (acts.map .act))).flatMap (·.2) := by
  induction acts generalizing h l with
  | nil =>
      show a.hangingPages (h ++ []) = a.hangingPages h ++ []
      rw [List.append_nil, List.append_nil]
  | cons x xs ih =>
      have hkeeps := keepsWatch_act t hw x
      have hrest := ih hkeeps.watching
      have hhistory : h ++ history (x :: xs) = h ++ x.life?.toList ++ history xs := by
        rw [List.append_assoc]
        cases x <;> rfl
      have hview : (watchView (course a t l ((x :: xs).map .act))).flatMap (·.2) =
          (l.act a t x).2.pages ++
            (watchView (course a t (l.act a t x).1 (xs.map .act))).flatMap (·.2) := by
        cases x <;> rfl
      rw [hhistory, hrest, hkeeps.pages, hview, List.append_assoc]

/-- **The watch and the window do not interfere.** Let calls, requests and the time that passes be mixed in
any order, with any transport for all pages, and let something else be done with another transport, such
as the same with all that concerns requests, or with all calls, left out. If it has the same calls, they
leave the same stores and hand over the same pages, each of them exactly if it crosses the threshold, and
nothing that concerns requests changes the store. If it has the same requests, the same pages are handed
over at the same times; for they are about the requests that last for the whole budget, also when the
clock has failed in a call and the store cannot be used any more. -/
theorem window_and_watch_apart (a : Alarm) (t : Transport τ) (x : τ) (t' : Transport τ') (x' : τ')
    (deeds deeds' : List Deed) :
    let steps := course a t ⟨{}, x⟩ deeds
    let steps' := course a t' ⟨{}, x'⟩ deeds'
    (calls deeds = calls deeds' → windowView steps = windowView steps') ∧
      (∀ (l : Line τ) call, (l.serve a t call).2.2.pages ≠ [] ↔
        (a.step l.state call.op).2.1.Crosses) ∧
      (∀ (l : Line τ) act, (l.act a t act).1.state.store = l.state.store) ∧
      (requests deeds = requests deeds' → watchView steps = watchView steps') ∧
      ∀ b, a.watchdog = .hanging b → (watchView steps).flatMap (·.2) =
        (hung b (history (requests deeds))).map (a.hangingPage b) := by
  intro steps steps'
  refine ⟨?_, serve_pages_iff a t, fun l act => (act_sameWindow a t l act).store, ?_, ?_⟩
  · intro hcalls
    have hsame : SameWindow (⟨{}, x⟩ : Line τ).state (⟨{}, x'⟩ : Line τ').state := ⟨rfl, rfl⟩
    -- Both courses are compared with the calls alone, over the second transport.
    have hleft := windowView_calls a t t' hsame deeds
    have hright := windowView_calls a t' t' (hsame.symm.trans hsame) deeds'
    rw [hcalls] at hleft
    exact hleft.trans hright.symm
  · intro hrequests
    have hsame : SameWatch (⟨{}, x⟩ : Line τ).state (⟨{}, x'⟩ : Line τ').state := ⟨rfl, rfl⟩
    have hleft := watchView_requests a t t' hsame deeds
    have hright := watchView_requests a t' t' (hsame.symm.trans hsame) deeds'
    rw [hrequests] at hleft
    exact hleft.trans hright.symm
  · intro b hb
    have hsame : SameWatch (⟨{}, x⟩ : Line τ).state (⟨{}, x⟩ : Line τ).state := ⟨rfl, rfl⟩
    -- What is done about requests alone is a run of the watch, and its pages are known.
    have hpages := pages_watchView t (l := ⟨{}, x⟩) a.watching_nil (requests deeds)
    rw [Alarm.hangingPages_hanging hb, Alarm.hangingPages_hanging hb,
      ← watchView_requests a t t hsame deeds] at hpages
    exact hpages.symm

/-- Two requests that last for the whole two seconds, and two failures. The clock may fail in the call that
is to record the first of them. -/
def mixedDeeds (reading : Reading) : List Deed := [
  .act (.watch (completion 0 none)), .call (.record reading ⟨some {}⟩), .act (.pass (.ofSeconds 1)),
  .act (.watch (completion 1 (some "gpt-4o"))), .act (.complete 0 (.ok ())),
  .act (.pass (.ofSeconds 1)), .call (.record (some default) ⟨some {}⟩), .act (.pass (.ofSeconds 1)),
  .act (.release (RequestId.ofCount 1))]

/-- The calls alone leave the same stores and hand over the same pages, and the same requests are paged
when the clock has failed and when it has not. -/
theorem window_and_watch_apart_when_locked :
    let refusing := course twoSeconds Script.transport
      ⟨{}, { coming := [.done (.error (.http "refused")), .held] }⟩
    let holding := course twoSeconds Outbox.transport ⟨{}, {}⟩
    let works := mixedDeeds (some default)
    let fails := mixedDeeds none
    calls works = calls ((calls works).map .call) ∧
      windowView (refusing works) = windowView (holding ((calls works).map .call)) ∧
      requests fails = requests works ∧
      watchView (refusing fails) = watchView (holding works) ∧
      (watchView (refusing fails)).flatMap (·.2) = [completion 0 none, completion 1 (some "gpt-4o")].map
        (twoSeconds.hangingPage (.ofSeconds 2)) ∧
      (refusing fails).getLast?.map (·.2.1.state.poisoned) = some true := by
  intro refusing holding works fails
  let script : Script := { coming := [.done (.error (.http "refused")), .held] }
  have hcalls : calls works = calls ((calls works).map .call) := rfl
  have hrequests : requests fails = requests works := rfl
  -- Two comparisons: the calls with the calls alone, and two courses whose requests are the same.
  obtain ⟨hwindow, -⟩ := window_and_watch_apart twoSeconds Script.transport script
    Outbox.transport {} works ((calls works).map .call)
  obtain ⟨-, -, -, hwatch, hhung⟩ := window_and_watch_apart twoSeconds Script.transport script
    Outbox.transport {} fails works
  have hpaged : hung (.ofSeconds 2) (history (requests fails)) =
      [completion 0 none, completion 1 (some "gpt-4o")] := by decide
  refine ⟨hcalls, hwindow hcalls, hrequests, hwatch hrequests, ?_, rfl⟩
  rw [← hpaged]
  exact hhung (.ofSeconds 2) rfl

end Line
end FailureAlarm
