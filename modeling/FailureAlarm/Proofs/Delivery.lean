import FailureAlarm.Proofs.Calls
import FailureAlarm.Proofs.Ledger

/-!
# The window does not depend on delivery

What becomes of a page is known only after the call that raised the alarm has let go of the store, and
by then the store is empty. So the end of a sending, be it good, bad, late or never, comes too late to
have a say in what is retained and in when the next page is due.

Two runs are compared here that have the same calls, in the same order and with the same readings, and
nothing else in common. They are built up side by side (`filter_eq_induction`): what is no call is added
to one of them and leaves what is compared, and a call is added to both and does the same in both, by
`call_alike`.
-/

namespace FailureAlarm
namespace Alarm

/-! ### The alarms of a run -/

/-- The alarms are the pages of those that are raised, without the numbers of their sendings. -/
theorem alarms_eq_map (a : Alarm) (ops : List Op) : a.alarms ops = (a.raisedAlarms ops).map (·.2) := by
  induction ops using List.reverseRecOn with
  | nil => rfl
  | append_singleton ops op ih =>
      rw [alarms_concat, raisedAlarms_concat, List.map_append, ih]
      congr 1
      by_cases hcross : (a.step (a.after ops) op).2.1.Crosses
      · obtain ⟨now, p, -, h⟩ := crossing_of_crosses hcross
        rw [raised_of_crossing h, h.reply]
        simp [alarmPages, h.pages]
      · rw [alarmPages_of_not_crosses hcross, raised_of_not_crosses hcross]
        rfl

/-- The crossings are known from the answers, whatever their numbers are. -/
theorem crossings_of_replies {a : Alarm} {ops ops' : List Op}
    (h : (a.replies ops).map (Reply.numbered 0) = (a.replies ops').map (Reply.numbered 0)) :
    a.crossings ops = a.crossings ops' := by
  have hnumbered (rs : List Reply) :
      (rs.zipIdx.filter fun x => decide x.1.Crosses).map (·.2) =
        ((rs.map (Reply.numbered 0)).zipIdx.filter fun x => decide x.1.Crosses).map (·.2) := by
    rw [List.zipIdx_map, List.filter_map, List.map_map]
    simp only [Function.comp_def, Prod.map, crosses_numbered]
    rfl
  unfold crossings
  rw [hnumbered (a.replies ops), hnumbered (a.replies ops'), h]

/-! ### Runs with the same calls -/

/-- The runs cannot be told apart by the window and what was told of it. -/
structure SameCalls (a : Alarm) (ops ops' : List Op) : Prop where
  window : SameWindow (a.after ops) (a.after ops')
  stores : a.stores Op.isCall ops = a.stores Op.isCall ops'
  replies : (a.replies ops).map (Reply.numbered 0) = (a.replies ops').map (Reply.numbered 0)
  alarms : a.raisedAlarms ops = a.raisedAlarms ops'

theorem SameCalls.symm {a : Alarm} {ops ops' : List Op} (h : SameCalls a ops ops') :
    SameCalls a ops' ops :=
  ⟨h.window.symm, h.stores.symm, h.replies.symm, h.alarms.symm⟩

/-- What is no call can be added on one side alone. -/
theorem sameCalls_elsewhere {a : Alarm} {ops ops' : List Op} {op : Op} (hop : op.isCall = false)
    (h : SameCalls a ops ops') : SameCalls a (ops ++ [op]) ops' := by
  obtain ⟨hwindow, hraised⟩ := a.elsewhere_sameWindow (a.after ops) hop
  constructor
  · rw [after_concat]
    exact hwindow.trans h.window
  · rw [stores_concat, hop, if_neg Bool.false_ne_true, List.append_nil]
    exact h.stores
  · rw [replies_concat, hop, if_neg Bool.false_ne_true, List.append_nil]
    exact h.replies
  · rw [raisedAlarms_concat, hraised, List.append_nil]
    exact h.alarms

/-- The same call, made on both sides, does the same to both stores. -/
theorem sameCalls_call {a : Alarm} {ops ops' : List Op} {op : Op} (hop : op.isCall = true)
    (h : SameCalls a ops ops') : SameCalls a (ops ++ [op]) (ops' ++ [op]) := by
  have halike := a.call_alike h.window hop
  constructor
  · rw [after_concat, after_concat]
    exact halike.window
  · rw [stores_concat, stores_concat, if_pos hop, if_pos hop, h.stores, halike.window.store]
  · rw [replies_concat, replies_concat, if_pos hop, if_pos hop, List.map_append, List.map_append,
      h.replies, List.map_singleton, List.map_singleton, halike.reply]
  · rw [raisedAlarms_concat, raisedAlarms_concat, h.alarms, halike.raised]

/-- Runs with the same calls in the same order have the same window, whatever else is done in between. -/
theorem sameCalls_of_filter {a : Alarm} {ops ops' : List Op}
    (hcalls : ops.filter Op.isCall = ops'.filter Op.isCall) : SameCalls a ops ops' := by
  refine filter_eq_induction ⟨⟨rfl, rfl⟩, rfl, rfl, rfl⟩ ?_ ?_ ?_ hcalls
  · intro xs ys op hop h
    exact sameCalls_elsewhere hop h
  · intro xs ys op hop h
    exact (sameCalls_elsewhere hop h.symm).symm
  · intro xs ys op hop h
    exact sameCalls_call hop h

/-- **The failure window is independent of delivery.** In two runs with the same calls, in which pages are
sent, refused or held up in whatever ways, every call leaves the same store and gives the same answer
except for the number of its sending; the same calls cross the threshold, with batches of the same
sizes and the same pages. For the end of a sending does not change the store and hands no page over
again, and a call that crosses the threshold has emptied the store before its page is sent. -/
theorem window_without_delivery (a : Alarm) {ops ops' : List Op}
    (hcalls : ops.filter Op.isCall = ops'.filter Op.isCall) :
    a.stores Op.isCall ops = a.stores Op.isCall ops' ∧
      (a.replies ops).map (Reply.numbered 0) = (a.replies ops').map (Reply.numbered 0) ∧
      a.crossings ops = a.crossings ops' ∧
      a.raisedAlarms ops = a.raisedAlarms ops' ∧
      a.alarms ops = a.alarms ops' ∧
      (∀ s number result, (a.step s (.complete number result)).1.store = s.store ∧
        (a.step s (.complete number result)).2.2.pages = []) ∧
      ∀ s op, (a.step s op).2.1.Crosses → (a.step s op).1.store.failures = [] := by
  have h : SameCalls a ops ops' := sameCalls_of_filter hcalls
  refine ⟨h.stores, h.replies, crossings_of_replies h.replies, h.alarms, ?_, ?_, ?_⟩
  · rw [alarms_eq_map, alarms_eq_map, h.alarms]
  · intro s number result
    exact ⟨(a.agree_complete s number result).store, a.pages_complete s number result⟩
  · intro s op hcross
    obtain ⟨now, p, -, hcrossing⟩ := crossing_of_crosses hcross
    rw [hcrossing.store]

/-- Of two pages, the first is refused at once, or sent after the second one; that one is never answered. -/
theorem window_without_delivery_of_four :
    let ops : List Op := [.record (some (second 0)) ⟨some {}⟩, .record (some (second 10)) ⟨some {}⟩,
      .complete 0 (.error (.http "refused")), .record (some (second 20)) ⟨some {}⟩,
      .record (some (second 30)) ⟨some {}⟩]
    let ops' : List Op := [.record (some (second 0)) ⟨some {}⟩, .record (some (second 10)) ⟨some {}⟩,
      .record (some (second 20)) ⟨some {}⟩, .record (some (second 30)) ⟨some {}⟩,
      .complete 0 (.ok ())]
    ops.filter Op.isCall = ops'.filter Op.isCall ∧
      (perMinute 2).crossings ops = [1, 3] ∧ (perMinute 2).crossings ops' = [1, 3] := by
  intro ops ops'
  have hcalls : ops.filter Op.isCall = ops'.filter Op.isCall := rfl
  obtain ⟨-, -, hsame, -⟩ := window_without_delivery (perMinute 2) hcalls
  have hcross : (perMinute 2).crossings ops = [1, 3] := by decide
  exact ⟨hcalls, hcross, hsame ▸ hcross⟩

end Alarm
end FailureAlarm
