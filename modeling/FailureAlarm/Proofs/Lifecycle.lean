import FailureAlarm.Proofs.Answers
import FailureAlarm.Proofs.Remembering

/-!
# The life of a request

A request in the hands of the service is started, completed or forgotten, and paged if it hangs. The
three may come at any time and in any order; `Serves` says what each thing that happens comes to, and
`serving_run` puts them together. A request is remembered for longer than its latency budget, whatever the
budget is (`lt_requestTtl`), so that nobody forgets a request before it has been paged. Time has no end
here, so that a deadline too far away for any clock is one that no run of a clock comes to.

`request_lifecycle` is the result for a service that is made from settings.
-/

namespace FailureAlarm

open Lifetime

namespace Service

variable {τ : Type} {s : Service} {h : List LifeEvent} {st : State τ}

/-! ### Runs -/

/-- Something that happens to a service. -/
inductive Act where
  /-- An HTTP request comes in when the clock shows `now`. The service draws `fresh` for the request in
  flight that it may start. -/
  | ask (now : Instant) (fresh : RequestId) (request : Http.Request)
  | pass (duration : Duration)
  /-- The sending with this number ends. -/
  | complete (number : Nat) (result : Except PagingError Unit)

namespace Act

/-- What happens to requests in flight by it. -/
def life? : Act → Option LifeEvent
  | ask now fresh r => Service.life? now fresh r
  | pass d => some (.pass d)
  | complete _ _ => none

/-- It reports a failure. -/
def isReport : Act → Bool
  | ask _ _ r => Service.isReport r
  | _ => false

end Act

/-- What happens to requests in flight, one thing after the other. -/
def history (acts : List Act) : List LifeEvent := acts.filterMap Act.life?

def act (s : Service) (t : Transport τ) (st : State τ) : Act → State τ × Option Http.Response × Traffic
  | .ask now fresh r => s.handle t now fresh r st
  | .pass d => ((s.pass t d st).1, none, (s.pass t d st).2)
  | .complete number result => complete number result st

/-- A thing that happened, with the answer and what was handed out. -/
abbrev Step := Act × Option Http.Response × Traffic

/-- Let one thing happen after the other, from the beginning. -/
def run (s : Service) (t : Transport τ) (x : τ) (acts : List Act) : State τ × List Step :=
  acts.foldl (fun (st, steps) act => ((s.act t st act).1, steps ++ [(act, (s.act t st act).2)]))
    ({ line := ⟨{}, x⟩ }, [])

/-- What is done last is done in the state that all before has led to. -/
theorem run_concat (s : Service) (t : Transport τ) (x : τ) (acts : List Act) (act : Act) :
    s.run t x (acts ++ [act]) = ((s.act t (s.run t x acts).1 act).1,
      (s.run t x acts).2 ++ [(act, (s.act t (s.run t x acts).1 act).2)]) := by
  unfold run
  rw [List.foldl_append]
  rfl

/-- The last thing that is done happens to requests last. -/
theorem history_concat (acts : List Act) (act : Act) :
    history (acts ++ [act]) = history acts ++ act.life?.toList := by
  unfold history
  rw [List.filterMap_append]
  cases h : act.life? <;> simp [h]

/-- The pages that were handed over otherwise than for a failure that was reported. -/
def watchPages (steps : List Step) : List Page :=
  steps.flatMap fun (act, _, traffic) => if act.isReport then [] else traffic.pages

/-- The request in flight with this identifier was completed: this was asked for, and answered so. -/
def isCompletion (id : RequestId) (e : Option LifeEvent) (response : Option Http.Response) : Bool :=
  e = some (.stop id) && response.map (·.status) = some 204

/-- What one thing that happens comes to: the service goes on serving, what is handed over is about
requests that have just hung or about failures that are reported, and who is completed has been in flight
and is so no longer. -/
structure Serves (s : Service) (h : List LifeEvent) (st : State τ) (e : Option LifeEvent) (report : Bool)
    (r : State τ × Option Http.Response × Traffic) : Prop where
  serving : Serving s (h ++ e.toList) r.1
  pages : s.alarm.hangingPages (h ++ e.toList) =
    s.alarm.hangingPages h ++ if report then [] else r.2.2.pages
  alarms : report = true → ∀ page ∈ r.2.2.pages, ∃ batch, page = s.alarm.page batch
  once : ∀ id, (isCompletion id e r.2.1).toNat + r.1.ids.count id ≤
    st.ids.count id + ((starts e.toList).map (·.id)).count id

/-- The identifier of the request is gone. -/
theorem ids_forget (id : RequestId) (st : State τ) : (forget id st).ids = st.ids.filter (· ≠ id) := by
  show (st.inFlight.filter _).map _ = (st.inFlight.map _).filter _
  rw [List.filter_map]
  rfl

/-- To complete a request in flight uses up its place among those in flight, and no other's. -/
theorem count_ids_forget {st : State τ} {id' : RequestId} (hid' : id' ∈ st.ids) (id : RequestId) :
    (isCompletion id (some (.stop id')) (some { status := 204 })).toNat + (forget id' st).ids.count id ≤
      st.ids.count id := by
  rw [ids_forget]
  by_cases hid : id' = id
  · subst hid
    have hpos : 1 ≤ st.ids.count id' := List.one_le_count_iff.mpr hid'
    have hnone : (st.ids.filter (· ≠ id')).count id' = 0 :=
      List.count_eq_zero.mpr fun hmem => by simp at hmem
    rw [hnone]
    exact Nat.le_trans (Bool.toNat_le _) hpos
  · have hcount : (st.ids.filter (· ≠ id')).count id = st.ids.count id :=
      List.count_filter (decide_eq_true (Ne.symm hid))
    rw [hcount]
    simp [isCompletion, hid]

/-- **An HTTP request keeps the requests in flight.** There is one case for each thing that a request can
come to. -/
theorem Handling.serves (hp : Patient s) (hs : Serving s h st) {t : Transport τ} {report : Bool}
    {e : Option LifeEvent} {r : State τ × Option Http.Response × Traffic}
    (hr : Handling s t st report e r) : Serves s h st e report r := by
  cases hr with
  | started request hreport =>
      subst hreport
      refine ⟨hs.start hp t request, (hs.watching.start t request).pages, ?_, fun id => ?_⟩
      · exact fun hfalse => by cases hfalse
      · simp [isCompletion, State.ids, starts]
  | @completed id hid =>
      refine ⟨hs.stop id, ?_, fun _ page hpage => (by cases hpage), count_ids_forget hid⟩
      rw [ite_self]
      exact (hs.watching.stop id).pages
  | @unknown id hid =>
      -- To the history it is an end like any other, but it is the end of nobody.
      have hstop := hs.stop id
      rw [hs.forget_unknown hp hid] at hstop
      refine ⟨hstop, ?_, fun _ page hpage => (by cases hpage), fun id => ?_⟩
      · rw [ite_self]
        exact (hs.watching.stop _).pages
      · simp [isCompletion, errorResponse, Http.Response.json]
  | @aside line response traffic hline halarm =>
      refine ⟨?_, ?_, fun _ page hpage => (halarm page hpage).2, fun id => ?_⟩
      · rw [Option.toList_none, List.append_nil]
        exact hs.undisturbed hline
      · have hquiet : (if report then [] else traffic.pages) = [] := by
          cases report with
          | true => rfl
          | false =>
              refine List.eq_nil_iff_forall_not_mem.mpr fun page hpage => ?_
              cases (halarm page hpage).1
        show s.alarm.hangingPages (h ++ []) = s.alarm.hangingPages h ++ if report then [] else traffic.pages
        rw [hquiet, List.append_nil, List.append_nil]
      · show 0 + st.ids.count id ≤ st.ids.count id + 0
        exact Nat.le_of_eq (Nat.zero_add _)

/-- So does everything else that can be done: time that passes, and the end of a sending. -/
theorem serves_act (hp : Patient s) (hs : Serving s h st) (t : Transport τ) (act : Act)
    (hids : ((starts h).map (·.id)).Nodup) :
    Serves s h st act.life? act.isReport (s.act t st act) := by
  cases act with
  | ask now fresh r => exact (s.handle_spec t now fresh r st).serves hp hs
  | pass d =>
      obtain ⟨hserving, hpages⟩ := hs.pass hp t d hids
      refine ⟨hserving, hpages, fun hfalse => (by cases hfalse), fun id => ?_⟩
      -- Expiry only takes requests off the list.
      have hle : (s.pass t d st).1.ids.count id ≤ st.ids.count id := by
        unfold State.ids
        rw [pass_state, inFlight_foldl_forget]
        exact (List.filter_sublist.map _).count_le id
      simpa [isCompletion, act] using Nat.le_add_right_of_le hle
  | complete number result =>
      have hline := st.line.state.complete_undisturbed number result
      refine ⟨?_, ?_, fun hfalse => (by cases hfalse), fun id => ?_⟩
      · show Serving s (h ++ []) _
        rw [List.append_nil]
        exact hs.undisturbed hline
      · show s.alarm.hangingPages (h ++ []) = s.alarm.hangingPages h ++ []
        rw [List.append_nil, List.append_nil]
      · exact Nat.le_of_eq (by simp [isCompletion, Act.life?, starts]; rfl)

theorem starts_history_concat (acts : List Act) (act : Act) :
    starts (history (acts ++ [act])) = starts (history acts) ++ starts act.life?.toList := by
  rw [history_concat, starts_append]

/-- What a run comes to. The induction is on its length: as long as the identifiers are different, each
thing that happens is served as `Serves` says. -/
theorem serving_run (hp : Patient s) (t : Transport τ) (x : τ) {acts : List Act}
    (hids : ((starts (history acts)).map (·.id)).Nodup) :
    Serving s (history acts) (s.run t x acts).1 ∧
      watchPages (s.run t x acts).2 = s.alarm.hangingPages (history acts) ∧
      (∀ step ∈ (s.run t x acts).2, step.1.isReport = true →
        ∀ page ∈ step.2.2.pages, ∃ batch, page = s.alarm.page batch) ∧
      ∀ id, (s.run t x acts).2.countP (fun step => isCompletion id step.1.life? step.2.1) +
        (s.run t x acts).1.ids.count id ≤ ((starts (history acts)).map (·.id)).count id := by
  induction acts using List.reverseRecOn with
  | nil =>
      have hnil := s.alarm.watching_nil
      refine ⟨⟨hnil, rfl, rfl⟩, ?_, fun step hstep => (by cases hstep), fun id => Nat.le_refl 0⟩
      exact (List.length_eq_zero_iff.mp hnil.hanging.symm).symm
  | append_singleton acts act ih =>
      rw [starts_history_concat, List.map_append] at hids
      obtain ⟨hserving, hpages, halarms, honce⟩ := ih hids.of_append_left
      have hact := serves_act hp hserving t act hids.of_append_left
      rw [run_concat, starts_history_concat, history_concat]
      refine ⟨hact.serving, ?_, ?_, fun id => ?_⟩
      · unfold watchPages at hpages ⊢
        rw [List.flatMap_append, hpages, hact.pages, List.flatMap_singleton]
      · intro step hstep
        rcases List.mem_append.mp hstep with hstep | hstep
        · exact halarms step hstep
        · rw [List.mem_singleton.mp hstep]
          exact hact.alarms
      -- What is completed now was in flight until now, so the sum does not grow.
      · have hbefore := honce id
        have hnow := hact.once id
        rw [List.countP_append, List.countP_singleton, List.map_append, List.count_append]
        have hcase : (if isCompletion id act.life? (s.act t (s.run t x acts).1 act).2.1 = true then 1
            else 0) = (isCompletion id act.life? (s.act t (s.run t x acts).1 act).2.1).toNat := by
          cases isCompletion id act.life? (s.act t (s.run t x acts).1 act).2.1 <;> rfl
        dsimp only
        omega

/-! ### Settings -/

/-- A request is remembered for longer than its latency budget, also where the sum would be too long. -/
theorem lt_requestTtl {settings : Settings}
    (hbudget : settings.watchdog.budgetSeconds ≤ 18446744073709551615) :
    (Duration.ofSeconds settings.watchdog.budgetSeconds).nanoseconds <
      settings.requestTtl.nanoseconds := by
  unfold Settings.requestTtl Duration.saturatingAdd Duration.max Duration.ofSeconds Duration.perSecond
  split
  · dsimp only
    omega
  · dsimp only
    omega

/-- What the settings say about requests in flight, and about watching them. -/
theorem ofSettings_spec {settings : Settings} {key : RoutingKey} {shows : Bool} {log : List LogLine}
    (hmade : ofSettings settings key shows = .ok (s, log)) :
    s.requestTtl = settings.requestTtl ∧
      s.alarm.watchdog = if settings.watchdog.enabled then
        .hanging (Duration.ofSeconds settings.watchdog.budgetSeconds) else .off := by
  unfold ofSettings Alarm.ofPolicy at hmade
  dsimp only at hmade
  split at hmade
  · have hservice := congrArg Prod.fst (Except.ok.inj hmade)
    dsimp only at hservice
    subst hservice
    exact ⟨by dsimp only, by dsimp only⟩
  · cases hmade

/-! ### Answers -/

/-- The answer that shows that the service is healthy. -/
def healthy (uptime retained inFlight : Nat) : Http.Response :=
  .json 200 (Json.Value.object [
    ("status", .string "healthy"),
    ("version", .string version),
    ("uptime_seconds", .ofNat uptime),
    ("retained_failures", .ofNat retained),
    ("in_flight_requests", .ofNat inFlight)]).text

/-- The health tells how many requests are in flight, as long as the store is in use. -/
theorem handle_health (t : Transport τ) (now : Instant) (fresh : RequestId) {r : Http.Request}
    (hroute : Route.ofPath? r.path = some .health) (hget : r.method = "GET")
    (hopen : st.line.state.poisoned = false) :
    ∃ uptime retained,
      (s.handle t now fresh r st).2.1 = some (healthy uptime retained st.inFlight.length) := by
  obtain ⟨hcount, -⟩ := Alarm.retained_counted (a := s.alarm) now hopen
  have hhandle : (s.handle t now fresh r st).2.1 = (s.health t now st).2.1 := by
    unfold handle
    rw [hroute, hget]
    rfl
  have hprogress : (st.line.retained s.alarm t (some now)).2.1 =
      .finished (.ok (s.alarm.inWindow now st.line.state.store.failures).length) := hcount
  rw [hhandle]
  unfold health
  dsimp only
  rw [hprogress]
  exact ⟨_, _, rfl⟩

/-- To complete a request in flight is answered by 204, and it is forgotten; to complete any other is
answered by 404, and nothing changes. -/
theorem handle_complete (t : Transport τ) {now : Instant} {fresh id : RequestId} {r : Http.Request}
    (hlife : life? now fresh r = some (.stop id)) :
    (id ∈ st.ids → (s.handle t now fresh r st).2.1 = some { status := 204 } ∧
        (s.handle t now fresh r st).1.ids = st.ids.filter (· ≠ id)) ∧
      (id ∉ st.ids → (s.handle t now fresh r st).1 = st ∧
        (s.handle t now fresh r st).2.2.pages = [] ∧
        (s.handle t now fresh r st).2.1 = some {
          status := 404
          contentType := some "application/json"
          body := s!"\x7b\"error\":\"Unknown request id: {id.text}\"\x7d" }) := by
  have hspec := s.handle_spec t now fresh r st
  rw [hlife] at hspec
  generalize s.handle t now fresh r st = result at hspec ⊢
  cases hspec with
  | completed hid => exact ⟨fun _ => ⟨rfl, ids_forget id st⟩, fun hno => absurd hid hno⟩
  | unknown hid =>
      exact ⟨fun hyes => absurd hyes hid, fun _ => ⟨rfl, rfl, congrArg some (errorResponse_unknown id)⟩⟩

/-- **The life of a request.** Let a service be made from settings, with any latency budget that has 64
bits of seconds, and let HTTP requests come in one after the other while time passes. Then a request is
in flight from its start until it is completed or as old as `requestTtl`; to complete it is answered by
204 if it is in flight, which happens at most once, and else by 404; and each request that comes to the
age of the budget is paged once. -/
theorem request_lifecycle {settings : Settings} {key : RoutingKey} {shows : Bool} {log : List LogLine}
    (hmade : ofSettings settings key shows = .ok (s, log))
    (hbudget : settings.watchdog.budgetSeconds ≤ 18446744073709551615) (t : Transport τ) (x : τ)
    {acts : List Act} (hids : ((starts (history acts)).map (·.id)).Nodup) :
    let budget := Duration.ofSeconds settings.watchdog.budgetSeconds
    let h := history acts
    let st := (s.run t x acts).1
    let steps := (s.run t x acts).2
    budget.nanoseconds < s.requestTtl.nanoseconds ∧
      (st.ids.Nodup ∧ ∀ id, id ∈ st.ids ↔ InFlight s.requestTtl id h) ∧
      (∀ now fresh r id, life? now fresh r = some (.stop id) →
        let asked := s.handle t now fresh r st
        (InFlight s.requestTtl id h →
          asked.2.1 = some { status := 204 } ∧ asked.1.ids = st.ids.filter (· ≠ id)) ∧
        (¬ InFlight s.requestTtl id h → asked.1 = st ∧ asked.2.2.pages = [] ∧
          asked.2.1 = some {
            status := 404
            contentType := some "application/json"
            body := s!"\x7b\"error\":\"Unknown request id: {id.text}\"\x7d" })) ∧
      (∀ id, steps.countP (fun step => isCompletion id step.1.life? step.2.1) ≤ 1) ∧
      (∀ now fresh r, Route.ofPath? r.path = some .health → r.method = "GET" →
        ∃ uptime retained, (s.handle t now fresh r st).2.1 =
          some (healthy uptime retained st.ids.length)) ∧
      (settings.watchdog.enabled = true →
        watchPages steps = (hung budget h).map (s.alarm.hangingPage budget) ∧
          ∀ before r after, h = before ++ .start r :: after →
            ∃ earlier later, earlier.Sublist (starts before) ∧ later.Sublist (starts after) ∧
              (Lasts budget r.id after →
                watchPages steps = (earlier ++ r :: later).map (s.alarm.hangingPage budget)) ∧
              (¬ Lasts budget r.id after →
                watchPages steps = (earlier ++ later).map (s.alarm.hangingPage budget))) ∧
      (settings.watchdog.enabled = false → watchPages steps = []) ∧
      ∀ step ∈ steps, step.1.isReport = true →
        ∀ page ∈ step.2.2.pages, ∃ batch, page = s.alarm.page batch := by
  intro budget h st steps
  obtain ⟨httl, hwatchdog⟩ := ofSettings_spec hmade
  have hlt : budget.nanoseconds < s.requestTtl.nanoseconds := by
    rw [httl]
    exact lt_requestTtl hbudget
  -- All that follows is about any service that remembers requests for longer than it watches them.
  have hp : Patient s := by
    refine ⟨Nat.lt_of_le_of_lt (Nat.zero_le _) hlt, fun b hb => ?_⟩
    rw [hwatchdog] at hb
    split at hb <;> cases hb
    exact hlt
  obtain ⟨hserving, hpages, halarms, honce⟩ := serving_run hp t x hids
  have hmem (id : RequestId) : id ∈ st.ids ↔ InFlight s.requestTtl id h := by
    rw [← mem_ids_young_iff, ← hserving.ids_eq]
  refine ⟨hlt, ⟨?_, hmem⟩, ?_, ?_, ?_, ?_, ?_, halarms⟩
  · show (s.run t x acts).1.ids.Nodup
    rw [hserving.ids_eq]
    exact (nodup_lives hids).sublist (List.filter_sublist.map _)
  · intro now fresh r id hlife
    rw [← hmem]
    exact handle_complete t hlife
  · intro id
    have hle := honce id
    have hcount := List.nodup_iff_count_le_one.mp hids id
    show (s.run t x acts).2.countP _ ≤ 1
    omega
  · intro now fresh r hroute hget
    have hanswer := handle_health (s := s) t now fresh hroute hget hserving.isOpen
    rw [State.ids, List.length_map]
    exact hanswer
  · intro henabled
    rw [if_pos henabled] at hwatchdog
    have htold : watchPages steps = (hung budget h).map (s.alarm.hangingPage budget) :=
      hpages.trans (Alarm.hangingPages_hanging hwatchdog h)
    exact ⟨htold, fun before r after => hung_split htold⟩
  · intro hdisabled
    rw [hdisabled, if_neg Bool.false_ne_true] at hwatchdog
    exact hpages.trans (Alarm.hangingPages_off hwatchdog h)

/-- The HTTP request that starts a request for embeddings. -/
def startEmbeddings : Http.Request where
  method := "POST"
  target := "/api/v1/requests".toList
  contentType := some "application/json"
  body := "\x7b\"call_type\":\"embeddings\"\x7d".toUTF8.toList

/-- The HTTP request that completes the request with the identifier `id`. -/
def completing (id : RequestId) : Http.Request where
  method := "POST"
  target := Route.path (.complete id.text.toList)

/-- Two requests are started. The first is completed twice, and the second when it has been forgotten. -/
def twoRequests : List Act := [
  .ask default ⟨1⟩ startEmbeddings, .ask default ⟨2⟩ startEmbeddings, .pass (.ofSeconds 1),
  .ask default ⟨3⟩ (completing ⟨1⟩), .ask default ⟨3⟩ (completing ⟨1⟩), .pass (.ofSeconds 1),
  .pass (.ofSeconds 60), .ask default ⟨3⟩ (completing ⟨2⟩)]

/-- With a budget of two seconds, the first request is completed once, and the second is paged once. -/
theorem request_lifecycle_of_two :
    let settings : Settings := { watchdog := { budgetSeconds := 2 } }
    ∃ s log, ofSettings settings ⟨"service-key", by decide⟩ true = .ok (s, log) ∧
      ((starts (history twoRequests)).map (·.id)).Nodup ∧
      (s.run Outbox.transport {} twoRequests).2.countP
        (fun step => isCompletion ⟨1⟩ step.1.life? step.2.1) ≤ 1 ∧
      watchPages (s.run Outbox.transport {} twoRequests).2 =
        [s.alarm.hangingPage (.ofSeconds 2) ⟨⟨2⟩, .embeddings, none, default⟩] := by
  intro settings
  have hhistory : history twoRequests = [
      .start ⟨⟨1⟩, .embeddings, none, default⟩, .start ⟨⟨2⟩, .embeddings, none, default⟩,
      .pass (.ofSeconds 1), .stop ⟨1⟩, .stop ⟨1⟩, .pass (.ofSeconds 1), .pass (.ofSeconds 60),
      .stop ⟨2⟩] := by
    decide +kernel
  have hids : ((starts (history twoRequests)).map (·.id)).Nodup := by
    rw [hhistory]
    decide
  -- The first request is completed in time, the second one reaches two seconds.
  have hhung : hung (.ofSeconds 2) (history twoRequests) = [⟨⟨2⟩, .embeddings, none, default⟩] := by
    rw [hhistory]
    decide
  cases hmade : ofSettings settings ⟨"service-key", by decide⟩ true with
  | error e => cases hmade
  | ok made =>
      obtain ⟨s, log⟩ := made
      obtain ⟨-, -, -, honce, -, hpages, -⟩ :=
        request_lifecycle hmade (by decide) Outbox.transport {} hids
      refine ⟨s, log, rfl, hids, honce ⟨1⟩, ?_⟩
      rw [(hpages rfl).1]
      show (hung (.ofSeconds 2) (history twoRequests)).map _ = _
      rw [hhung]
      rfl

end Service
end FailureAlarm
