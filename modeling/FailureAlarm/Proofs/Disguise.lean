import FailureAlarm.Proofs.Trail

/-!
# What the alarm does not look at

A failure carries more than the alarm looks at, and so does a page. A `Disguise` changes failures and
pages in such parts only: the time of a failure and its line in the digest stay, and so does the summary
of a page. A run in disguise is then the run itself, disguised. This is shown in three stages:

* `Disguise.step`: each step of the alarm commutes with the disguise, and replies and logs the same;
* `Disguise.deliver`: so does the delivery of pages by a transport that does not notice the disguise;
* `Disguise.trail`: hence two runs, one of them in disguise, go side by side (`Disguise.Beside`).

What the parts are is left open here. Two runs with secrets of their own are compared by a disguise that
takes the one to the other, or both to a run without secrets.
-/

namespace FailureAlarm

namespace Alarm

/-- A change of failures and pages that the alarm does not notice. It may come with a change of the
alarm, in what the alarm writes on its pages. -/
structure Disguise (a a' : Alarm) where
  payload : LoggingPayload → LoggingPayload
  failure : Failure → Failure
  page : Page → Page
  policy : a'.policy = a.policy
  watchdog : a'.watchdog = a.watchdog
  toFailure : ∀ p now, (payload p).toFailure now = failure (p.toFailure now)
  time : ∀ f, (failure f).time = f.time
  line : ∀ f, Digest.line (failure f) = Digest.line f
  summary : ∀ p, (page p).alert.summary = p.alert.summary
  dispatched : ∀ message details,
    a'.dispatcher.page message details = page (a.dispatcher.page message details)

namespace Disguise

variable {a a' : Alarm} (d : Disguise a a')

def notification (n : Notification) : Notification := ⟨n.payload.map d.payload⟩

def op : Op → Op
  | .record reading n => .record reading (d.notification n)
  | op => op

def store (s : Store) : Store := ⟨s.failures.map d.failure⟩

def sending (x : Sending) : Sending := { x with page := d.page x.page }

def state (s : State) : State :=
  { s with store := d.store s.store, sending := s.sending.map d.sending }

def effects (e : Effects) : Effects := { e with pages := e.pages.map fun p => (p.1, d.page p.2) }

/-! ### The window -/

@[simp] theorem size_store (s : Store) : (d.store s).size = s.size := List.length_map ..

/-- A failure is put in disguised at the place where it would stand anyway. -/
theorem append_store (s : Store) (f : Failure) :
    (d.store s).append (d.failure f) = d.store (s.append f) := by
  simp [Store.append, store]

/-- The window looks at the times of failures, and these stay. So it drops the same ones. -/
theorem after_store (s : Store) (cutoff : Instant) :
    (d.store s).after cutoff = d.store (s.after cutoff) := by
  simp only [Store.after, store, List.filter_map, Function.comp_def, d.time]

/-- As many failures are dropped, and they are counted. -/
theorem prune_store (s : Store) (cutoff : Instant) :
    (d.store s).prune cutoff = (d.store (s.prune cutoff).1, (s.prune cutoff).2) := by
  simp only [Store.prune, after_store, size_store]

include d in
/-- The cutoff is a matter of the clock and the length of the window. -/
theorem cutoff (now : Instant) : a'.cutoff now = a.cutoff now := by
  unfold Alarm.cutoff
  rw [d.policy]

/-- A look at the window with a new failure. -/
theorem entered (now : Instant) (f : Failure) (s : Store) :
    a'.entered now (d.failure f) (d.store s) =
      (d.store (a.entered now f s).1, (a.entered now f s).2) := by
  unfold Alarm.entered
  rw [d.cutoff, append_store, prune_store]

/-! ### Pages -/

include d in
/-- The message of a page counts failures and does not show them. -/
theorem message (failures : Nat) : a'.message failures = a.message failures := by
  unfold Alarm.message
  rw [d.policy]

/-- The digest shows the line of each failure, and that stays. -/
theorem lines (batch : List Failure) (limit : Nat) :
    Digest.lines (batch.map d.failure) limit = Digest.lines batch limit := by
  unfold Digest.lines
  rw [List.length_map, ← List.map_drop, List.map_map]
  exact List.map_congr_left fun f _ => d.line f

/-- The page over a batch in disguise is the page over the batch, disguised. All that the alarm writes on
it is the same; what the dispatcher adds is left to the disguise of pages. -/
theorem alarmPage (batch : List Failure) : a'.page (batch.map d.failure) = d.page (a.page batch) := by
  unfold Alarm.page
  rw [d.dispatched, d.message, d.lines, d.policy, List.length_map]

/-- The page about a hanging request shows nothing of a failure. -/
theorem hangingPage (budget : Duration) (r : Request) :
    a'.hangingPage budget r = d.page (a.hangingPage budget r) := d.dispatched _ _

/-- A page that is handed over gets the same number, and the same sender waits for its end. -/
theorem handOver (s : State) (page : Page) (sender : Sender) :
    (d.state s).handOver (d.page page) sender =
      (d.state (s.handOver page sender).1, d.effects (s.handOver page sender).2) := by
  simp [State.handOver, state, sending, effects]

/-- Log lines are not disguised, so there is nothing to do where there is no page. -/
theorem effects_of_quiet {e : Effects} (h : e.pages = []) : d.effects e = e := by
  obtain ⟨pages, log⟩ := e
  cases h
  rfl

/-- Effects are disguised part by part. -/
theorem effects_append (e e' : Effects) : d.effects (e ++ e') = d.effects e ++ d.effects e' := by
  show (⟨_, _⟩ : Effects) = ⟨_, _⟩
  rw [Effects.pages_append, List.map_append]
  rfl

/-! ### Steps -/

/-- A sending is found by its number, and keeps it. -/
theorem find_sending (s : State) (number : Nat) :
    (d.state s).sending.find? (·.number = number) =
      (s.sending.find? (·.number = number)).map d.sending := by
  show (s.sending.map d.sending).find? _ = _
  rw [List.find?_map]
  rfl

/-- The end of a sending is answered and logged alike. -/
theorem complete (s : State) (number : Nat) (result : Except PagingError Unit) :
    (d.state s).complete number result =
      (d.state (s.complete number result).1, (s.complete number result).2) := by
  unfold State.complete
  rw [find_sending]
  cases s.sending.find? (·.number = number) with
  | none => rfl
  | some x =>
      have hfilter : (s.sending.map d.sending).filter (·.number ≠ number) =
          (s.sending.filter (·.number ≠ number)).map d.sending := by
        rw [List.filter_map]
        rfl
      have hlog : State.completionLog (d.sending x) result = State.completionLog x result := by
        cases result with
        | ok _ =>
            unfold State.completionLog
            rw [show (d.sending x).page.alert.summary = x.page.alert.summary from d.summary x.page]
        | error e => rfl
      show (_, some (State.answer result x.sender), _) = _
      rw [hlog]
      simp only [state, hfilter]

/-- What is logged about dropped failures is their number and the cutoff. -/
theorem pruneLog (removed : Nat) (now : Instant) :
    d.effects (Alarm.pruneLog removed (a.cutoff now)) = Alarm.pruneLog removed (a'.cutoff now) := by
  rw [d.cutoff]
  exact d.effects_of_quiet (pages_pruneLog _ _)

/-- A failure enters the store, and its alarm is raised if the threshold is reached. Whether it is depends
on how many failures there are in the window. -/
theorem take (now : Instant) (f : Failure) (s : State) :
    a'.take now (d.failure f) (d.state s) =
      (d.state (a.take now f s).1, (a.take now f s).2.1, d.effects (a.take now f s).2.2) := by
  have hentered : a'.entered now (d.failure f) (d.state s).store =
      (d.store (a.entered now f s.store).1, (a.entered now f s.store).2) := d.entered now f s.store
  unfold Alarm.take
  rw [hentered]
  obtain ⟨kept, removed⟩ := a.entered now f s.store
  dsimp only
  rw [d.size_store, d.policy, d.message]
  by_cases hreached : a.policy.isReached kept.size
  · rw [if_pos hreached, if_pos hreached]
    have hpage : a'.page (d.store kept).failures = d.page (a.page kept.failures) :=
      d.alarmPage kept.failures
    rw [hpage]
    refine Prod.ext ?_ (Prod.ext rfl ?_)
    -- The store is emptied, so nothing of it is left to be disguised.
    · simp [State.handOver, state, store, sending]
    · show _ ++ _ ++ _ = d.effects (_ ++ _ ++ _)
      rw [d.effects_append, d.effects_append, d.pruneLog]
      rfl
  · rw [if_neg hreached, if_neg hreached]
    refine Prod.ext rfl (Prod.ext rfl ?_)
    show _ ++ _ = d.effects (_ ++ _)
    rw [d.effects_append, d.pruneLog]
    rfl

/-- The checks before a failure enters do not look into it: whether there is a payload, whether the store
can be used, and what the clock shows. -/
theorem record (reading : Reading) (n : Notification) (s : State) :
    a'.record reading (d.notification n) (d.state s) =
      (d.state (a.record reading n s).1, (a.record reading n s).2.1,
        d.effects (a.record reading n s).2.2) := by
  obtain ⟨payload⟩ := n
  cases payload with
  | none => rfl
  | some p =>
      simp only [Alarm.record, notification, Option.map_some]
      by_cases hpoisoned : s.poisoned
      · rw [if_pos (show (d.state s).poisoned from hpoisoned), if_pos hpoisoned]
        rfl
      · rw [if_neg (show ¬ (d.state s).poisoned from hpoisoned), if_neg hpoisoned]
        cases reading with
        | none => rfl
        | some now =>
            dsimp only
            rw [d.toFailure]
            exact d.take now (p.toFailure now) s

/-- To count the failures in the window is to prune the store. -/
theorem retained (reading : Reading) (s : State) :
    a'.retained reading (d.state s) =
      (d.state (a.retained reading s).1, (a.retained reading s).2.1,
        d.effects (a.retained reading s).2.2) := by
  unfold Alarm.retained
  by_cases hpoisoned : s.poisoned
  · rw [if_pos (show (d.state s).poisoned from hpoisoned), if_pos hpoisoned]
    rfl
  · rw [if_neg (show ¬ (d.state s).poisoned from hpoisoned), if_neg hpoisoned]
    cases reading with
    | none => rfl
    | some now =>
        have hpruned : (d.state s).store.prune (a.cutoff now) =
          (d.store (s.store.prune (a.cutoff now)).1, (s.store.prune (a.cutoff now)).2) :=
            d.prune_store s.store (a.cutoff now)
        dsimp only
        rw [d.pruneLog, d.cutoff, hpruned, d.size_store]
        rfl

/-- A page that is asked for is made by the dispatcher, which has its own part in the disguise. -/
theorem dispatch (message : String) (details : Details) (s : State) :
    a'.dispatch message details (d.state s) =
      (d.state (a.dispatch message details s).1, (a.dispatch message details s).2.1,
        d.effects (a.dispatch message details s).2.2) := by
  unfold Alarm.dispatch
  rw [d.dispatched, d.handOver]
  rfl

/-- Requests are not disguised, so the watch over them is the same. -/
theorem watch (r : Request) (s : State) :
    a'.watch true r (d.state s) = (d.state (a.watch true r s).1, d.effects (a.watch true r s).2) := by
  unfold Alarm.watch
  rw [d.watchdog]
  cases a.watchdog with
  | off => rfl
  | hanging budget => rfl

/-- The timer that fires is the same, and the page that comes with it is disguised. -/
theorem fire (s : State) :
    a'.fire (d.state s) = (a.fire s).map fun r => (d.state r.1, d.effects r.2) := by
  unfold Alarm.fire
  rw [d.watchdog]
  have hwatched : (d.state s).watched.find? (·.isDue (d.state s).elapsed) =
      s.watched.find? (·.isDue s.elapsed) := rfl
  rw [hwatched]
  cases a.watchdog with
  | off => rfl
  | hanging budget =>
      cases s.watched.find? (·.isDue s.elapsed) with
      | none => rfl
      | some w =>
          show some (a'.hang budget w.request _) = some _
          unfold hang
          rw [d.hangingPage]
          refine congrArg some (Prod.ext ?_ ?_)
          · simp [State.handOver, state, sending]
          · show _ ++ _ = d.effects (_ ++ _)
            rw [d.effects_append]
            rfl

/-- **Each step commutes with the disguise.** -/
theorem step (s : State) (op : Op) :
    a'.step (d.state s) (d.op op) =
      (d.state (a.step s op).1, (a.step s op).2.1, d.effects (a.step s op).2.2) := by
  cases op with
  | record reading n => simp only [op, Alarm.step, d.record]
  | retained reading => simp only [op, Alarm.step, d.retained]
  | dispatch message details => simp only [op, Alarm.step, d.dispatch]
  | watch r => simp only [op, Alarm.step, d.watch]
  | release id => rfl
  | pass duration => rfl
  | fire =>
      simp only [op, Alarm.step, d.fire]
      cases a.fire s <;> rfl
  | complete number result =>
      have hquiet : (s.complete number result).2.2.pages = [] := a.pages_complete s number result
      simp only [op, Alarm.step, d.complete, d.effects_of_quiet hquiet]

/-! ### Transports -/

section Transport

variable {τ : Type}

/-- The transport does not notice the disguise of a page: it delivers alike, and logs the same lines
of those that are `shown`. On the way it may come to other states of its own, as long as they are
related. -/
structure Unnoticed (t : Transport τ) (shown : LogLine → Bool) (R : τ → τ → Prop) : Prop where
  delivery : ∀ {x x'}, R x x' → ∀ number page,
    (t.deliver x' number (d.page page)).1 = (t.deliver x number page).1
  log : ∀ {x x'}, R x x' → ∀ number page,
    (t.deliver x' number (d.page page)).2.1.filter shown = (t.deliver x number page).2.1.filter shown
  next : ∀ {x x'}, R x x' → ∀ number page,
    R (t.deliver x number page).2.2 (t.deliver x' number (d.page page)).2.2

/-- The second line is the first in disguise. -/
structure OfLine (R : τ → τ → Prop) (l l' : Line τ) : Prop where
  state : l'.state = d.state l.state
  transport : R l.transport l'.transport

/-- The second traffic is the first in disguise. -/
structure OfTraffic (shown : LogLine → Bool) (traffic traffic' : Traffic) : Prop where
  pages : traffic'.pages = traffic.pages.map d.page
  log : traffic'.log.filter shown = traffic.log.filter shown
  answers : traffic'.answers = traffic.answers

/-- What a step came to, and what it came to in disguise. -/
structure Beside (shown : LogLine → Bool) (R : τ → τ → Prop)
    (r r' : Line τ × Reply × Traffic) : Prop where
  line : d.OfLine R r.1 r'.1
  reply : r'.2.1 = r.2.1
  traffic : d.OfTraffic shown r.2.2 r'.2.2

variable {d} {t : Transport τ} {shown : LogLine → Bool} {R : τ → τ → Prop}

/-- Traffic is disguised part by part. -/
theorem OfTraffic.append {x x' y y' : Traffic} (hx : d.OfTraffic shown x x')
    (hy : d.OfTraffic shown y y') : d.OfTraffic shown (x ++ y) (x' ++ y') where
  pages := by rw [Traffic.pages_append, Traffic.pages_append, List.map_append, hx.pages, hy.pages]
  log := by
    show (x'.log ++ y'.log).filter shown = (x.log ++ y.log).filter shown
    rw [List.filter_append, List.filter_append, hx.log, hy.log]
  answers := congrArg₂ (· ++ ·) hx.answers hy.answers

/-- The end of a sending, with the transport left alone. -/
theorem ofLine_complete (shown : LogLine → Bool) {l l' : Line τ} (h : d.OfLine R l l') (number : Nat)
    (result : Except PagingError Unit) :
    d.OfLine R (l.complete number result).1 (l'.complete number result).1 ∧
      d.OfTraffic shown (l.complete number result).2 (l'.complete number result).2 := by
  unfold Line.complete
  rw [h.state, d.complete]
  exact ⟨⟨rfl, h.transport⟩, rfl, rfl, rfl⟩

/-- Pages in disguise are delivered alike, one after the other. -/
theorem deliver (ht : d.Unnoticed t shown R) (ps : List (Nat × Page)) {l l' : Line τ}
    (h : d.OfLine R l l') :
    d.OfLine R (Line.deliver t l ps).1
        (Line.deliver t l' (ps.map fun p => (p.1, d.page p.2))).1 ∧
      d.OfTraffic shown (Line.deliver t l ps).2
        (Line.deliver t l' (ps.map fun p => (p.1, d.page p.2))).2 := by
  induction ps generalizing l l' with
  | nil => exact ⟨h, rfl, rfl, rfl⟩
  | cons p ps ih =>
      obtain ⟨number, page⟩ := p
      have hdelivery := ht.delivery h.transport number page
      have hlog := ht.log h.transport number page
      have hnext := ht.next h.transport number page
      rw [List.map_cons]
      unfold Line.deliver
      -- The two deliveries are compared by what they return. Only the results are the same; the states
      -- that the transport comes to are not.
      generalize t.deliver l.transport number page = r at *
      generalize t.deliver l'.transport number (d.page page) = r' at *
      obtain ⟨delivery, log, transport⟩ := r
      obtain ⟨delivery', log', transport'⟩ := r'
      cases hdelivery
      have hline : d.OfLine R { l with transport } { l' with transport := transport' } :=
        ⟨h.state, hnext⟩
      have hpage : d.OfTraffic shown { pages := [page], log := log }
        { pages := [d.page page], log := log' } := ⟨rfl, hlog, rfl⟩
      cases delivery with
      | held =>
          obtain ⟨hrest, hmore⟩ := ih hline
          exact ⟨hrest, (hpage.append ⟨rfl, rfl, rfl⟩).append hmore⟩
      | done result =>
          obtain ⟨hended, hanswer⟩ := ofLine_complete shown hline number result
          obtain ⟨hrest, hmore⟩ := ih hended
          exact ⟨hrest, (hpage.append hanswer).append hmore⟩

/-- What a step has done is taken over, and its pages are brought to the transport. -/
theorem settle (ht : d.Unnoticed t shown R) {l l' : Line τ} (h : d.OfLine R l l') (state : State)
    (effects : Effects) :
    d.OfLine R (l.settle t state effects).1 (l'.settle t (d.state state) (d.effects effects)).1 ∧
      d.OfTraffic shown (l.settle t state effects).2
        (l'.settle t (d.state state) (d.effects effects)).2 := by
  have hentered : d.OfLine R { l with state } { l' with state := d.state state } :=
    ⟨rfl, h.transport⟩
  obtain ⟨hline, htraffic⟩ := deliver ht effects.pages hentered
  have hlog : d.OfTraffic shown { log := effects.log } { log := (d.effects effects).log } :=
    ⟨rfl, rfl, rfl⟩
  exact ⟨hline, hlog.append htraffic⟩

/-- **One step**: the alarm commutes with the disguise, and the transport does not notice it. -/
theorem beside_step (ht : d.Unnoticed t shown R) {l l' : Line τ} (h : d.OfLine R l l') (op : Op) :
    d.Beside shown R (l.step a t op) (l'.step a' t (d.op op)) := by
  unfold Line.step
  rw [h.state, d.step]
  obtain ⟨hline, htraffic⟩ := settle ht h (a.step l.state op).1 (a.step l.state op).2.2
  exact ⟨hline, rfl, htraffic⟩

/-- **A run and the same run in disguise go side by side.** The induction is on the steps; what carries
it is that the one line is the other in disguise. -/
theorem trail (ht : d.Unnoticed t shown R) {l l' : Line τ} (h : d.OfLine R l l') (ops : List Op) :
    List.Forall₂ (d.Beside shown R) (l.trail a t ops) (l'.trail a' t (ops.map d.op)) := by
  induction ops generalizing l l' with
  | nil => exact .nil
  | cons op ops ih =>
      have hstep := beside_step ht h op
      exact .cons hstep (ih hstep.line)

end Transport

end Disguise
end Alarm
end FailureAlarm
