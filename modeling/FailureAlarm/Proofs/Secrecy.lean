import FailureAlarm.Proofs.Disguise
import FailureAlarm.Proofs.Window
import FailureAlarm.Service.Basic

/-!
# The routing key remains secret

The routing key stands in every page, and nowhere else. Two alarms that differ in their keys alone, used
in the same way, answer the same, log the same warnings and errors, count the same and retain the same
failures; their pages differ in the one member that holds the key, and there it stands as it was given.

To write another key on a page is a disguise (`rekeying`), which takes a run of the one alarm to the run
of the other (`sameButKey_trail`). The transport is told the key with every page, and may keep it. What is
asked of it is that the results of its deliveries do not depend on it (`Transport.IgnoresKey`).

A service that is made with another key differs from the first one in the key of its alarm alone
(`ofSettings_keyed`).
-/

namespace FailureAlarm

open Json (Value)

variable {τ : Type}

/-- The page with another key. -/
def Page.keyed (key : String) (p : Page) : Page := { p with routingKey := key }

/-- The form of a page on the wire, with its key. -/
def Page.wire (payload : Value) (key : String) : Value :=
  .object [("payload", payload), ("routing_key", .string key), ("event_action", .string "trigger")]

/-- The bodies of the pages are the same, except for the member that is the key. -/
def Page.SameButKey (key key' : String) (p p' : Page) : Prop :=
  ∃ payload, p.body = (wire payload key).text ∧ p'.body = (wire payload key').text

/-- The transport delivers a page alike, and logs the same warnings and errors, whatever the key is. The
states that it comes to may differ, as long as they are related. -/
structure Transport.IgnoresKey (t : Transport τ) (R : τ → τ → Prop) : Prop where
  delivery : ∀ {x x'}, R x x' → ∀ number (page : Page) key key',
    (t.deliver x' number (page.keyed key')).1 = (t.deliver x number (page.keyed key)).1
  log : ∀ {x x'}, R x x' → ∀ number (page : Page) key key',
    (t.deliver x' number (page.keyed key')).2.1.filter (·.isWarning) =
      (t.deliver x number (page.keyed key)).2.1.filter (·.isWarning)
  next : ∀ {x x'}, R x x' → ∀ number (page : Page) key key',
    R (t.deliver x number (page.keyed key)).2.2 (t.deliver x' number (page.keyed key')).2.2

/-- A script does not look at pages. -/
theorem Script.ignoresKey : Script.transport.IgnoresKey Eq where
  delivery h _ _ _ _ := by rw [h]; rfl
  log h _ _ _ _ := by rw [h]; rfl
  next h _ _ _ _ := by rw [h]; rfl

namespace Alarm

/-- The alarm with another key. -/
def keyed (a : Alarm) (k : RoutingKey) : Alarm :=
  { a with dispatcher := { a.dispatcher with routingKey := k } }

/-- A service that is made with another key is the same but for the key of its alarm, and what is logged
when it is made is the same. -/
theorem ofSettings_keyed (settings : Settings) (k k' : RoutingKey) (showsMetrics : Bool) :
    Service.ofSettings settings k' showsMetrics =
      (Service.ofSettings settings k showsMetrics).map fun (s, log) =>
        ({ s with alarm := s.alarm.keyed k' }, log) := by
  unfold Service.ofSettings ofPolicy
  dsimp only
  by_cases h : settings.alerting.windowSeconds ≤ Policy.maxWindow
  · rw [dif_pos h, dif_pos h]
    simp only [Except.map, keyed, Dispatcher.ofConfig]
  · rw [dif_neg h, dif_neg h]
    simp only [Except.map]

/-- The alarm of a service that is made with a key has this key. -/
theorem keyed_of_ofSettings {settings : Settings} {k : RoutingKey} {showsMetrics : Bool} {s : Service}
    {log : List LogLine} (hmade : Service.ofSettings settings k showsMetrics = .ok (s, log)) :
    s.alarm.keyed k = s.alarm := by
  have hsame := ofSettings_keyed settings k k showsMetrics
  rw [hmade] at hsame
  have hservice : s = { s with alarm := s.alarm.keyed k } :=
    (Prod.mk.inj (Except.ok.inj hsame)).1
  exact (congrArg Service.alarm hservice).symm

/-- Another key is written on the pages. -/
def rekeying (a : Alarm) (k k' : RoutingKey) : Disguise (a.keyed k) (a.keyed k') where
  payload := id
  failure := id
  page := Page.keyed k'.text
  policy := rfl
  watchdog := rfl
  toFailure _ _ := rfl
  time _ := rfl
  line _ := rfl
  summary _ := rfl
  dispatched _ _ := rfl

theorem op_rekeying (a : Alarm) (k k' : RoutingKey) (op : Op) : (a.rekeying k k').op op = op := by
  cases op with
  | record reading n =>
      obtain ⟨payload⟩ := n
      cases payload <;> rfl
  | _ => rfl

theorem unnoticed_rekeying (a : Alarm) (k k' : RoutingKey) {t : Transport τ} {R : τ → τ → Prop}
    (ht : t.IgnoresKey R) : (a.rekeying k k').Unnoticed t (·.isWarning) R where
  delivery h number page := ht.delivery h number page page.routingKey k'.text
  log h number page := ht.log h number page page.routingKey k'.text
  next h number page := ht.next h number page page.routingKey k'.text

/-- A page that a step hands over is over a batch of failures or about a hanging request, or it was asked
for. -/
theorem page_of_step (a : Alarm) (s : State) (op : Op) : ∀ p ∈ (a.step s op).2.2.pages,
    (∃ batch, p.2 = a.page batch) ∨ (∃ budget r, p.2 = a.hangingPage budget r) ∨
      ∃ message details, op = .dispatch message details ∧ p.2 = a.dispatcher.page message details := by
  cases op with
  -- A call pages at the threshold only, and with the batch it has taken.
  | record reading n =>
      have hspec := a.record_spec reading n s
      rw [step_record]
      generalize a.record reading n s = r at hspec ⊢
      cases hspec with
      | reached _ _ _ => simp [Effects.line]
      | below _ _ _ => simp [Effects.line]
      | _ => simp
  | retained reading =>
      have hspec := a.retained_spec reading s
      rw [step_retained]
      generalize a.retained reading s = r at hspec ⊢
      cases hspec <;> simp
  | dispatch message details => simp [step, dispatch, State.handOver]
  | watch r =>
      simp only [step, watch]
      cases a.watchdog <;> simp [Effects.line]
  -- A timer that is due pages its request; without one nothing is paged.
  | fire =>
      simp only [step, fire]
      split
      · next hfire =>
          split at hfire <;> cases hfire
          simp [Effects.line]
      · simp
  | complete number result =>
      rw [a.pages_complete s number result]
      simp
  | _ => simp [step]

/-- The pages that a step hands over have the key of the alarm. -/
theorem routingKey_of_step (a : Alarm) (s : State) (op : Op) :
    ∀ p ∈ (a.step s op).2.2.pages, p.2.routingKey = a.dispatcher.routingKey.text := by
  intro p hp
  rcases a.page_of_step s op p hp with ⟨_, h⟩ | ⟨_, _, h⟩ | ⟨_, _, _, h⟩
  · rw [h]
    rfl
  · rw [h]
    rfl
  · rw [h]
    rfl

/-- What holds of every page that a step of the run hands over holds of the pages that are brought to the
transport. -/
theorem forall_pages_trail {P : Page → Prop} (a : Alarm) (t : Transport τ) (l : Line τ) {ops : List Op}
    (h : ∀ op ∈ ops, ∀ s, ∀ p ∈ (a.step s op).2.2.pages, P p.2) :
    ∀ r ∈ Line.trail a t l ops, ∀ p ∈ r.2.2.pages, P p := by
  induction ops generalizing l with
  | nil => simp [Line.trail]
  | cons op ops ih =>
      obtain ⟨hop, hops⟩ := List.forall_mem_cons.mp h
      intro r hr
      rcases List.mem_cons.mp hr with rfl | hr
      · intro p hp
        rw [Line.pages_step] at hp
        obtain ⟨q, hq, rfl⟩ := List.mem_map.mp hp
        exact hop l.state q hq
      · exact ih _ hops r hr

/-- The pages that are brought to the transport in a run have the key of the alarm. -/
theorem routingKey_of_trail (a : Alarm) (t : Transport τ) (l : Line τ) (ops : List Op) :
    ∀ r ∈ Line.trail a t l ops, ∀ p ∈ r.2.2.pages, p.routingKey = a.dispatcher.routingKey.text :=
  a.forall_pages_trail t l fun op _ s => a.routingKey_of_step s op

/-- The steps are the same except for the keys on their pages: both reply and answer the same, with the
same warnings and errors in the log, and leave the same metrics and the same store. -/
structure SameButKey (key key' : String) (r r' : Line τ × Reply × Traffic) : Prop where
  reply : r'.2.1 = r.2.1
  answers : r'.2.2.answers = r.2.2.answers
  warnings : r'.2.2.log.filter (·.isWarning) = r.2.2.log.filter (·.isWarning)
  metrics : r'.1.state.metrics = r.1.state.metrics
  store : r'.1.state.store = r.1.state.store
  pages : List.Forall₂ (Page.SameButKey key key') r.2.2.pages r'.2.2.pages

theorem sameButKey_of_beside {a : Alarm} {k k' : RoutingKey} {R : τ → τ → Prop}
    {r r' : Line τ × Reply × Traffic} (h : (a.rekeying k k').Beside (·.isWarning) R r r')
    (hkey : ∀ p ∈ r.2.2.pages, p.routingKey = k.text) : SameButKey k.text k'.text r r' where
  reply := h.reply
  answers := h.traffic.answers
  warnings := h.traffic.log
  metrics := by
    rw [h.line.state]
    rfl
  store := by
    rw [h.line.state]
    show (⟨r.1.state.store.failures.map id⟩ : Store) = r.1.state.store
    rw [List.map_id]
  pages := by
    rw [h.traffic.pages, List.forall₂_map_right_iff, List.forall₂_same]
    intro p hp
    refine ⟨p.alert.toJson, ?_, rfl⟩
    rw [← hkey p hp]
    rfl

theorem sameButKey_trail (a : Alarm) (k k' : RoutingKey) {t : Transport τ} {R : τ → τ → Prop}
    (ht : t.IgnoresKey R) {x x' : τ} (hx : R x x') (ops : List Op) :
    List.Forall₂ (SameButKey k.text k'.text) (Line.trail (a.keyed k) t ⟨{}, x⟩ ops)
      (Line.trail (a.keyed k') t ⟨{}, x'⟩ ops) := by
  have hstart : (a.rekeying k k').OfLine R ⟨{}, x⟩ ⟨{}, x'⟩ := ⟨rfl, hx⟩
  have hbeside := Disguise.trail (a.unnoticed_rekeying k k' ht) hstart ops
  have hops : ops.map (a.rekeying k k').op = ops :=
    (List.map_congr_left fun op _ => a.op_rekeying k k' op).trans (List.map_id _)
  rw [hops] at hbeside
  have hkeys := (a.keyed k).routingKey_of_trail t ⟨{}, x⟩ ops
  have hboth := (List.forall₂_and_left _ _).mpr ⟨hkeys, hbeside⟩
  exact hboth.imp fun _ _ h => sameButKey_of_beside h.2 h.1

end Alarm
end FailureAlarm
