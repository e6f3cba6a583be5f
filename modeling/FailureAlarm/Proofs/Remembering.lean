import FailureAlarm.Proofs.Event
import FailureAlarm.Proofs.Watching
import FailureAlarm.Service.Basic

/-!
# Remembering requests

The service remembers a request from its start until it is completed or too old. Meanwhile the watchdog
waits for it to hang. To forget a request is to drop its handle, which the watchdog takes for its end; but
by the time a request is too old it has hung, so that nobody watches it.

* `Handling` lists all that an HTTP request can come to for the requests in flight, and `handle_spec`
  says which of these it is;
* `Serving` ties the state of a service to the history of its requests. `Serving.start`, `Serving.stop`
  and `Serving.pass` keep it, for a service that remembers requests for longer than it watches them
  (`Patient`).
-/

namespace FailureAlarm

open Lifetime

namespace Alarm

/-! ### Calls leave the watch alone -/

/-- To record a failure leaves the watch alone as long as the clock shows something, and the page that it
may hand over is that of an alarm. -/
theorem record_undisturbed (a : Alarm) (now : Instant) (n : Notification) (s : State) :
    s.Undisturbed (a.record (some now) n s).1 ∧
      ∀ page ∈ (a.record (some now) n s).2.2.pages.map (·.2), ∃ batch, page = a.page batch := by
  have hspec := a.record_spec (some now) n s
  generalize a.record (some now) n s = r at hspec ⊢
  cases hspec with
  | missing => exact ⟨.refl s, fun page hpage => by cases hpage⟩
  | locked _ => exact ⟨.refl s, fun page hpage => by cases hpage⟩
  | below _ _ _ =>
      refine ⟨⟨rfl, rfl, rfl, rfl⟩, fun page hpage => ?_⟩
      rw [Effects.pages_append, pages_pruneLog] at hpage
      cases hpage
  | @reached _ _ kept _ _ _ _ =>
      refine ⟨⟨rfl, rfl, rfl, rfl⟩, fun page hpage => ⟨kept.failures, ?_⟩⟩
      rw [Effects.pages_append, Effects.pages_append, pages_pruneLog] at hpage
      exact List.mem_singleton.mp hpage

/-- To count the failures leaves the watch alone, too, and hands over nothing. -/
theorem retained_undisturbed (a : Alarm) (now : Instant) (s : State) :
    s.Undisturbed (a.retained (some now) s).1 ∧ (a.retained (some now) s).2.2.pages = [] := by
  have hspec := a.retained_spec (some now) s
  generalize a.retained (some now) s = r at hspec ⊢
  cases hspec with
  | locked _ => exact ⟨.refl s, rfl⟩
  | counted _ _ => exact ⟨⟨rfl, rfl, rfl, rfl⟩, pages_pruneLog _ _⟩

end Alarm

namespace Line

variable {τ : Type}

/-- The same with the page brought to the transport. -/
theorem record_undisturbed (a : Alarm) (t : Transport τ) (now : Instant) (n : Notification)
    (l : Line τ) :
    l.state.Undisturbed (l.record a t (some now) n).1.state ∧
      ∀ page ∈ (l.record a t (some now) n).2.2.pages, ∃ batch, page = a.page batch := by
  obtain ⟨hstate, halarm⟩ := a.record_undisturbed now n l.state
  obtain ⟨hsettled, hpages⟩ :=
    l.settle_spec t (a.record (some now) n l.state).1 (a.record (some now) n l.state).2.2
  rw [← hpages] at halarm
  exact ⟨hstate.trans hsettled, halarm⟩

theorem retained_undisturbed (a : Alarm) (t : Transport τ) (now : Instant) (l : Line τ) :
    l.state.Undisturbed (l.retained a t (some now)).1.state ∧
      (l.retained a t (some now)).2.2.pages = [] := by
  obtain ⟨hstate, hquiet⟩ := a.retained_undisturbed now l.state
  obtain ⟨hsettled, hpages⟩ :=
    l.settle_spec t (a.retained (some now) l.state).1 (a.retained (some now) l.state).2.2
  rw [hquiet] at hpages
  exact ⟨hstate.trans hsettled, hpages⟩

end Line

namespace Service

variable {τ : Type}

/-- The identifiers of the requests that are remembered. -/
def State.ids (st : State τ) : List RequestId := st.inFlight.map (·.id)

/-! ### What is asked for -/

/-- The identifier that a part of a path spells. -/
def spelledId? (part : List Char) : Option RequestId :=
  (Utf8.text? (Http.Percent.decode part)).bind fun s => RequestId.read? s.toList

/-- What an HTTP request does to requests in flight: it starts one, with the identifier `fresh`, or it
completes the one that its path names. -/
def life? (now : Instant) (fresh : RequestId) (r : Http.Request) : Option LifeEvent :=
  if r.method ≠ "POST" then none
  else match Route.ofPath? r.path with
    | some .requests => (readBody StartNotice.decoder r).toOption.map fun notice =>
        .start ⟨fresh, notice.callType, notice.model, now⟩
    | some (.complete part) => (spelledId? part).map .stop
    | _ => none

/-- The HTTP request reports a failure. -/
def isReport (r : Http.Request) : Bool := Route.ofPath? r.path = some .failures

/-- All that an HTTP request can come to, as far as requests in flight are concerned. -/
inductive Handling (s : Service) (t : Transport τ) (st : State τ) (report : Bool) :
    Option LifeEvent → State τ × Option Http.Response × Traffic → Prop
  | started (request : Request) : report = false →
      Handling s t st report (some (.start request))
        ({ line := (st.line.watch s.alarm t true request).1
           inFlight := st.inFlight ++
            [⟨request.id, ⟨st.line.state.elapsed.nanoseconds + s.requestTtl.nanoseconds⟩⟩] },
          some (.json 200 (Json.Value.object [("request_id", .string request.id.text)]).text),
          (st.line.watch s.alarm t true request).2)
  | completed {id : RequestId} : id ∈ st.ids →
      Handling s t st report (some (.stop id))
        (forget id st, some { status := 204 },
          { log := requestLog s!"Request {id.text} completed" })
  | unknown {id : RequestId} : id ∉ st.ids →
      Handling s t st report (some (.stop id))
        (st, some (errorResponse 404 s!"Unknown request id: {id.text}"), {})
  | aside {line : Line τ} {response : Option Http.Response} {traffic : Traffic} :
      st.line.state.Undisturbed line.state →
      (∀ page ∈ traffic.pages, report = true ∧ ∃ batch, page = s.alarm.page batch) →
      Handling s t st report none ({ st with line }, response, traffic)

/-- A request that is answered without a look at anything. -/
theorem handling_quiet (s : Service) (t : Transport τ) (st : State τ) (report : Bool)
    (response : Option Http.Response) : Handling s t st report none (st, response, {}) :=
  .aside (State.Undisturbed.refl _) fun page hpage => by cases hpage

/-- The health of the service is told from the number of failures in the window; neither the watch nor
anybody in flight is concerned. -/
theorem health_spec (s : Service) (t : Transport τ) (now : Instant) (st : State τ) (report : Bool)
    (f : Option Http.Response → Option Http.Response) :
    Handling s t st report none
      ((s.health t now st).1, f (s.health t now st).2.1, (s.health t now st).2.2) := by
  obtain ⟨hstate, hpages⟩ := st.line.retained_undisturbed s.alarm t now
  refine .aside hstate fun page hpage => ?_
  change page ∈ ((st.line.retained s.alarm t (some now)).2.2 ++ _).pages at hpage
  rw [Traffic.pages_append, hpages] at hpage
  cases hpage

/-- The report of a failure may raise an alarm. It says nothing about a request in flight. -/
theorem recordFailure_spec (s : Service) (t : Transport τ) (now : Instant) (r : Http.Request)
    (st : State τ) : Handling s t st true none (s.recordFailure t now r st) := by
  unfold recordFailure
  cases readBody Notification.decoder r with
  | error response => exact handling_quiet ..
  | ok n =>
      obtain ⟨hstate, halarm⟩ := st.line.record_undisturbed s.alarm t now n
      refine .aside hstate fun page hpage => ⟨rfl, halarm page ?_⟩
      change page ∈ ((st.line.record s.alarm t (some now) n).2.2 ++ _).pages at hpage
      rw [Traffic.pages_append] at hpage
      exact (List.mem_append.mp hpage).resolve_right (List.not_mem_nil)

/-- A request is started if its notice can be read, and gets the identifier that is new. -/
theorem startRequest_spec (s : Service) (t : Transport τ) (now : Instant) (fresh : RequestId)
    (r : Http.Request) (st : State τ) :
    Handling s t st false ((readBody StartNotice.decoder r).toOption.map fun notice =>
      .start ⟨fresh, notice.callType, notice.model, now⟩) (s.startRequest t now fresh r st) := by
  unfold startRequest
  cases readBody StartNotice.decoder r with
  | error response => exact handling_quiet ..
  | ok notice => exact .started ⟨fresh, notice.callType, notice.model, now⟩ rfl

/-- The identifier is taken from the path. If it cannot be read, nobody is meant. -/
theorem completeRequest_spec (s : Service) (t : Transport τ) (part : List Char) (st : State τ)
    (report : Bool) :
    Handling s t st report ((spelledId? part).map .stop) (completeRequest part st) := by
  unfold completeRequest spelledId?
  cases (Utf8.text? (Http.Percent.decode part)).bind fun s => RequestId.read? s.toList with
  | none => exact handling_quiet ..
  | some id =>
      have hany : st.inFlight.any (·.id = id) = true ↔ id ∈ st.ids := by
        simp [State.ids]
      dsimp only
      split
      · next h => exact .completed (hany.mp h)
      · next h => exact .unknown (mt hany.mpr h)

/-- **What an HTTP request comes to**: what it does to requests in flight is told by `life?`, and it hands
over pages of alarms if it reports a failure, and none otherwise. -/
theorem handle_spec (s : Service) (t : Transport τ) (now : Instant) (fresh : RequestId)
    (r : Http.Request) (st : State τ) :
    Handling s t st (isReport r) (life? now fresh r) (s.handle t now fresh r st) := by
  unfold handle life? isReport
  cases hroute : Route.ofPath? r.path with
  | none =>
      dsimp only
      rw [ite_self]
      exact handling_quiet ..
  | some route =>
      dsimp only
      -- No other method does anything to requests in flight.
      by_cases hpost : r.method = "POST"
      · rw [if_neg (not_not_intro hpost)]
        have hhead (response : Option Http.Response) :
            (if r.method = "HEAD" then response.map Http.Response.head else response) = response :=
          if_neg (by rw [hpost]; decide)
        cases route with
        | health =>
            rw [if_pos (by rw [hpost]; decide)]
            exact handling_quiet ..
        | metrics =>
            rw [if_pos (by rw [hpost]; decide)]
            exact handling_quiet ..
        | failures =>
            rw [if_neg (by rw [hpost]; decide), hhead]
            exact recordFailure_spec s t now r st
        | requests =>
            rw [if_neg (by rw [hpost]; decide), hhead]
            exact startRequest_spec s t now fresh r st
        | complete part =>
            rw [if_neg (by rw [hpost]; exact not_not_intro rfl), hhead]
            exact completeRequest_spec s t part st _
      · rw [if_pos hpost]
        split
        · exact handling_quiet ..
        · next hallowed =>
            cases route with
            | health => exact health_spec ..
            | metrics => exact handling_quiet ..
            | _ => exact absurd (by simp [Route.allows, Route.isReadOnly, hpost]) hallowed

/-! ### Remembering requests -/

/-- What the service knows about a request in flight, when it is `now`: it is forgotten at the age `d`. -/
def remembered (d : Duration) (now : Nat) (x : Life) : Remembered := ⟨x.request.id, x.deadline d now⟩

/-- The requests of a history that are in flight are remembered, unless they are too old, and they are
under watch, unless they have hung. -/
structure Serving (s : Service) (h : List LifeEvent) (st : State τ) : Prop where
  watching : s.alarm.Watching h st.line.state
  inFlight : st.inFlight = (young s.requestTtl h).map (remembered s.requestTtl (elapsed h))
  isOpen : st.line.state.poisoned = false

/-- Requests are remembered for longer than they are watched. -/
structure Patient (s : Service) : Prop where
  positive : 0 < s.requestTtl.nanoseconds
  budget_lt : ∀ b, s.alarm.watchdog = .hanging b → b.nanoseconds < s.requestTtl.nanoseconds

variable {s : Service} {h : List LifeEvent} {st : State τ}

/-- Those in flight are the young ones of the history, in the order of their start. -/
theorem Serving.ids_eq (hs : Serving s h st) :
    st.ids = (young s.requestTtl h).map (·.request.id) := by
  unfold State.ids
  rw [hs.inFlight, List.map_map]
  rfl

/-- The states of a service after something that does not concern requests in flight. -/
theorem Serving.undisturbed (hs : Serving s h st) {line : Line τ}
    (hline : st.line.state.Undisturbed line.state) : Serving s h { st with line } :=
  ⟨hs.watching.undisturbed hline, hs.inFlight, hline.poisoned.trans hs.isOpen⟩

/-- A request is started: it is watched, and remembered as the last one. -/
theorem Serving.start (hp : Patient s) (hs : Serving s h st) (t : Transport τ) (r : Request) :
    Serving s (h ++ [.start r])
      { line := (st.line.watch s.alarm t true r).1
        inFlight := st.inFlight ++
          [⟨r.id, ⟨st.line.state.elapsed.nanoseconds + s.requestTtl.nanoseconds⟩⟩] } := by
  have hkeeps := hs.watching.start t r
  refine ⟨hkeeps.watching, ?_, hkeeps.poisoned.trans hs.isOpen⟩
  have helapsed : elapsed (h ++ [.start r]) = elapsed h := elapsed_append _ _
  have hpos := hp.positive
  rw [hs.inFlight, hs.watching.elapsed, helapsed, young_start hpos, List.map_append]
  rfl

/-- Who is not remembered is not watched either. -/
theorem Serving.ne_id_of_watched (hp : Patient s) (hs : Serving s h st) {id : RequestId}
    (hid : id ∉ st.ids) : ∀ w ∈ st.line.state.watched, w.request.id ≠ id := by
  intro w hw
  rw [hs.watching.watched] at hw
  cases ha : s.alarm.watchdog with
  | off =>
      rw [Alarm.watchOver_off ha] at hw
      cases hw
  | hanging b =>
      rw [Alarm.watchOver_hanging ha] at hw
      obtain ⟨x, hx, rfl⟩ := List.mem_map.mp hw
      rintro rfl
      rw [hs.ids_eq] at hid
      -- Not yet as old as the budget, and so not too old to be remembered.
      exact hid (List.mem_map_of_mem (young_subset (Nat.le_of_lt (hp.budget_lt b ha)) h hx))

/-- A request is completed: it is forgotten, and watched no longer. -/
theorem Serving.stop (hs : Serving s h st) (id : RequestId) :
    Serving s (h ++ [.stop id]) (forget id st) := by
  have hkeeps := hs.watching.stop id
  have helapsed : elapsed (h ++ [.stop id]) = elapsed h := elapsed_append _ _
  refine ⟨hkeeps.watching, ?_, hs.isOpen⟩
  show st.inFlight.filter _ = _
  rw [hs.inFlight, helapsed, young_stop, List.filter_map]
  rfl

/-- To forget a request that is not remembered changes nothing. -/
theorem Serving.forget_unknown (hp : Patient s) (hs : Serving s h st) {id : RequestId}
    (hid : id ∉ st.ids) : forget id st = st := by
  have hfilter : (st.inFlight.filter fun r => r.id ≠ id) = st.inFlight := by
    refine List.filter_eq_self.mpr fun r hr => decide_eq_true ?_
    rintro rfl
    exact hid (List.mem_map_of_mem hr)
  unfold forget
  rw [Alarm.release_eq_self (hs.ne_id_of_watched hp hid), hfilter]

/-! ### Forgetting requests -/

/-- The requests that are too old at this time. -/
def expired (now : Duration) (st : State τ) : List Remembered :=
  st.inFlight.filter fun r => r.expiry.nanoseconds ≤ now.nanoseconds

/-- When time has passed and the timers have fired, the requests are forgotten that have become too old,
one after the other. -/
theorem pass_state (s : Service) (t : Transport τ) (d : Duration) (st : State τ) :
    (s.pass t d st).1 =
      (expired (st.line.pass s.alarm t d).1.state.elapsed st).foldl (fun st r => forget r.id st)
        { st with line := (st.line.pass s.alarm t d).1 } := rfl

/-- To forget a request hands over nothing. -/
theorem pass_pages (s : Service) (t : Transport τ) (d : Duration) (st : State τ) :
    (s.pass t d st).2.pages = (st.line.pass s.alarm t d).2.pages := List.append_nil _

/-- Requests that are forgotten one after the other are all gone. -/
theorem inFlight_foldl_forget (xs : List Remembered) (st : State τ) :
    (xs.foldl (fun st r => forget r.id st) st).inFlight =
      st.inFlight.filter fun r => r.id ∉ xs.map (·.id) := by
  induction xs generalizing st with
  | nil => simp
  | cons r xs ih =>
      rw [List.foldl_cons, ih]
      show (st.inFlight.filter _).filter _ = _
      simp only [List.filter_filter, List.map_cons, List.mem_cons, not_or, Bool.decide_and,
        Bool.and_comm]

/-- To forget requests that nobody watches is only to take them off the list. -/
theorem line_foldl_forget {xs : List Remembered} {st : State τ}
    (hxs : ∀ r ∈ xs, Alarm.release r.id st.line.state = st.line.state) :
    (xs.foldl (fun st r => forget r.id st) st).line = st.line := by
  induction xs generalizing st with
  | nil => rfl
  | cons r xs ih =>
      have hline : (forget r.id st).line = st.line := by
        unfold forget
        rw [hxs r List.mem_cons_self]
      rw [List.foldl_cons]
      refine Eq.trans (ih ?_) hline
      intro r' hr'
      rw [hline]
      exact hxs r' (List.mem_cons_of_mem _ hr')

/-- Those whose identifiers are not among those of some are the others, if all can be told apart. -/
theorem filter_id_not_mem {l : List Life} {f : Life → Bool}
    (hl : ∀ x ∈ l, ∀ y ∈ l, x.request.id = y.request.id → x = y) :
    (l.filter fun x => x.request.id ∉ (l.filter f).map (·.request.id)) = l.filter (!f ·) := by
  refine List.filter_congr fun x hx => ?_
  rw [Bool.eq_iff_iff, decide_eq_true_eq, Bool.not_eq_true']
  constructor
  · intro hne
    by_contra hf
    rw [Bool.not_eq_false] at hf
    exact hne (List.mem_map_of_mem (List.mem_filter.mpr ⟨hx, hf⟩))
  · intro hf hmem
    obtain ⟨y, hy, hid⟩ := List.mem_map.mp hmem
    obtain ⟨hy, hf'⟩ := List.mem_filter.mp hy
    rw [hl y hy x hx hid, hf] at hf'
    cases hf'

/-- While time passes, each of those in flight gets older, and is to be forgotten at the time that was set
at its start. -/
theorem Serving.inFlight_pass (hs : Serving s h st) (d : Duration) :
    st.inFlight = (awaited s.requestTtl h (.pass d)).map
      (remembered s.requestTtl (elapsed (h ++ [.pass d]))) := by
  have helapsed : elapsed (h ++ [.pass d]) = elapsed h + d.nanoseconds := elapsed_append _ _
  rw [hs.inFlight, awaited_pass, List.map_map, helapsed]
  exact List.map_congr_left fun x _ =>
    congrArg (Remembered.mk x.request.id) (x.deadline_older s.requestTtl d _).symm

/-- Time passes: timers fire, and then those are forgotten who have become too old. They hang already, so
that to drop their handles changes nothing. -/
theorem Serving.pass (hp : Patient s) (hs : Serving s h st) (t : Transport τ) (d : Duration)
    (hids : ((starts h).map (·.id)).Nodup) :
    Serving s (h ++ [.pass d]) (s.pass t d st).1 ∧
      s.alarm.hangingPages (h ++ [.pass d]) =
        s.alarm.hangingPages h ++ (s.pass t d st).2.pages := by
  have hkeeps := hs.watching.pass t d
  have hids' : ((starts (h ++ [.pass d])).map (·.id)).Nodup := by
    have hstarts : starts (h ++ [.pass d]) = starts h := (starts_append _ _).trans (List.append_nil _)
    rw [hstarts]
    exact hids
  have hinFlight := hs.inFlight_pass d
  have hexpired : expired (st.line.pass s.alarm t d).1.state.elapsed st =
      ((awaited s.requestTtl h (.pass d)).filter (·.reached s.requestTtl)).map
        (remembered s.requestTtl (elapsed (h ++ [.pass d]))) := by
    unfold expired
    rw [hinFlight, hkeeps.watching.elapsed, List.filter_map]
    congr 1
    refine List.filter_congr fun x _ => ?_
    rw [Bool.eq_iff_iff, ← Life.deadline_le_iff]
    exact decide_eq_true_iff
  -- The timers have fired already, and the budget is the shorter of the two times.
  have hunwatched : ∀ r ∈ expired (st.line.pass s.alarm t d).1.state.elapsed st,
      Alarm.release r.id (st.line.pass s.alarm t d).1.state =
        (st.line.pass s.alarm t d).1.state := by
    intro r hr
    rw [hexpired] at hr
    obtain ⟨x, hx, rfl⟩ := List.mem_map.mp hr
    obtain ⟨hx, hreached⟩ := List.mem_filter.mp hx
    refine hkeeps.watching.release_of_hung (r := x.request) hids' fun b hb => ?_
    refine hung_subset (Nat.le_of_lt (hp.budget_lt b hb)) _ ?_
    exact List.mem_map_of_mem (List.mem_filter.mpr ⟨awaited_subset _ _ _ hx, hreached⟩)
  have hline : (s.pass t d st).1.line = (st.line.pass s.alarm t d).1 := line_foldl_forget hunwatched
  rw [pass_pages]
  refine ⟨⟨?_, ?_, ?_⟩, hkeeps.pages⟩
  · rw [hline]
    exact hkeeps.watching
  · rw [pass_state, inFlight_foldl_forget, hexpired]
    show st.inFlight.filter _ = _
    rw [hinFlight, List.filter_map, young_concat, List.map_map]
    congr 1
    exact filter_id_not_mem fun x hx y hy =>
      lives_inj hids' (awaited_subset _ _ _ hx) (awaited_subset _ _ _ hy)
  · rw [hline]
    exact hkeeps.poisoned.trans hs.isOpen

end Service
end FailureAlarm
