import FailureAlarm.Proofs.Disguise
import FailureAlarm.Proofs.Window

/-!
# Callers remain unknown

The identity of a caller comes in with the metadata of a notification, is kept with the failure, and is
dropped with it. It never gets out. In two runs that differ in metadata alone, everything is the same
that can be seen from outside (`View`): what is answered, the pages, the whole log, and the metrics. The
failures that are retained differ in the identity alone.

Taking the identity off is a disguise (`anonymity`), and no transport notices it, as the pages stay what
they are. Each of the two runs is therefore compared to the run in which nobody is known.
-/

namespace FailureAlarm

/-- The payload without its metadata. -/
def LoggingPayload.anonymous (p : LoggingPayload) : LoggingPayload := { p with metadata := none }

namespace Failure

/-- The failure of an unknown caller. -/
def anonymous (f : Failure) : Failure := { f with identity := {} }

/-- All of a failure but the identity: its time, its class, its code and its provider. -/
def classified (f : Failure) : Instant × Option String × Option String × Option String :=
  (f.time, f.errorClass, f.code, f.provider)

end Failure

namespace Alarm

variable {τ : Type}

/-- The step with a notification that has no metadata. -/
def Op.anonymous : Op → Op
  | .record reading n => .record reading ⟨n.payload.map .anonymous⟩
  | op => op

/-- What can be seen of a step and of the line that it leaves, the identities in the store apart. -/
structure View (τ : Type) where
  reply : Reply
  traffic : Traffic
  metrics : Metrics
  failures : List (Instant × Option String × Option String × Option String)
  transport : τ

def view (r : Line τ × Reply × Traffic) : View τ :=
  ⟨r.2.1, r.2.2, r.1.state.metrics, r.1.state.store.failures.map Failure.classified, r.1.transport⟩

/-- Callers are made unknown. -/
def anonymity (a : Alarm) : Disguise a a where
  payload := LoggingPayload.anonymous
  failure := Failure.anonymous
  page := id
  policy := rfl
  watchdog := rfl
  toFailure _ _ := rfl
  time _ := rfl
  line _ := rfl
  summary _ := rfl
  dispatched _ _ := rfl

theorem op_anonymity (a : Alarm) (op : Op) : a.anonymity.op op = op.anonymous := by
  cases op <;> rfl

/-- No transport notices that callers are made unknown. -/
theorem unnoticed_anonymity (a : Alarm) (t : Transport τ) :
    a.anonymity.Unnoticed t (fun _ => true) Eq where
  delivery h _ _ := by rw [h]; rfl
  log h _ _ := by rw [h]; rfl
  next h _ _ := by rw [h]; rfl

theorem traffic_anonymity {a : Alarm} {x y : Traffic}
    (h : a.anonymity.OfTraffic (fun _ => true) x y) : y = x := by
  obtain ⟨pages, log, answers⟩ := y
  have hpages : pages = x.pages := h.pages.trans (List.map_id _)
  have hlog : log = x.log := by simpa using h.log
  have hanswers : answers = x.answers := h.answers
  rw [hpages, hlog, hanswers]

theorem view_of_beside {a : Alarm} {r r' : Line τ × Reply × Traffic}
    (h : a.anonymity.Beside (fun _ => true) Eq r r') : view r = view r' := by
  have hmetrics : r'.1.state.metrics = r.1.state.metrics := by
    rw [h.line.state]
    rfl
  -- The identity is not among the things that a view shows of a failure.
  have hfailures : r'.1.state.store.failures.map Failure.classified =
      r.1.state.store.failures.map Failure.classified := by
    rw [h.line.state]
    exact List.map_map
  unfold view
  rw [h.reply, traffic_anonymity h.traffic, hmetrics, hfailures, h.line.transport]

/-- A run shows the same when its callers are made unknown. -/
theorem view_anonymous (a : Alarm) (t : Transport τ) (x : τ) (ops : List Op) :
    (Line.trail a t ⟨{}, x⟩ ops).map view =
      (Line.trail a t ⟨{}, x⟩ (ops.map Op.anonymous)).map view := by
  have hstart : a.anonymity.OfLine Eq ⟨{}, x⟩ ⟨{}, x⟩ := ⟨rfl, rfl⟩
  have hbeside := Disguise.trail (a.unnoticed_anonymity t) hstart ops
  rw [List.map_congr_left fun op _ => a.op_anonymity op] at hbeside
  rw [← List.forall₂_eq_eq_eq, List.forall₂_map_left_iff, List.forall₂_map_right_iff]
  exact hbeside.imp fun _ _ => view_of_beside

/-- **The identity of callers never leaves the alarm.** Two runs of the same steps, with notifications
that are equal except for their metadata, show the same at every step: the answers, the pages that the
transport is handed and what it does with them, the whole log, and the metrics. The failures in the store
agree one by one in time, class, code and provider. -/
theorem identity_unseen (a : Alarm) (t : Transport τ) (x : τ) {ops ops' : List Op}
    (h : ops.map Op.anonymous = ops'.map Op.anonymous) :
    (Line.trail a t ⟨{}, x⟩ ops).map view = (Line.trail a t ⟨{}, x⟩ ops').map view := by
  rw [a.view_anonymous t x ops, h, ← a.view_anonymous t x ops']

/-- Two failures, each with the metadata of its caller, and a count. -/
def reportsOf (caller caller' : Option Identity) : List Op :=
  let report (metadata : Option Identity) : Notification :=
    ⟨some { metadata, error := some { errorClass := some "RateLimitError", code := some "429" } }⟩
  [.record (some (second 3)) (report caller), .record (some (second 13)) (report caller'),
    .retained (some (second 23))]

/-- The callers are known or not, and the second failure raises an alarm, whose page is refused. -/
theorem identity_unseen_of_two_callers :
    let known := reportsOf (some { hash := some "88dc28d0", teamId := some "search" })
      (some { userId := some "u-17" })
    let unknown := reportsOf none (some {})
    let trail := Line.trail (perMinute 2) Script.transport
      ⟨{}, { coming := [.done (.error (.http "refused"))] }⟩
    known.map Op.anonymous = unknown.map Op.anonymous ∧
      (trail known).map view = (trail unknown).map view ∧
      (trail known).map (·.2.2.pages.length) = [0, 1, 0] ∧
      (trail known).map (·.1.state.metrics.dispatchFailures) = [0, 1, 1] := by
  intro known unknown trail
  have hsame : known.map Op.anonymous = unknown.map Op.anonymous := rfl
  exact ⟨hsame, identity_unseen (perMinute 2) Script.transport _ hsame, by decide, by decide⟩

end Alarm
end FailureAlarm
