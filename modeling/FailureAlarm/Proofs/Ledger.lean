import FailureAlarm.Proofs.Event
import Mathlib.Algebra.Ring.Nat
import Mathlib.Data.List.Nodup

/-!
# The books of a run

Every failure that is recorded goes into the store, and leaves it in one of two ways: a look at the
window drops it, or a crossing takes it into the batch of its page. No step of the alarm shows that none
is lost or counted twice on the way, so this module keeps books beside a run. The failures are numbered
in the order of their records, and each event notes what it moves (`Ledger.note`).

The books are kept from the events alone, and agree with all that the run shows (`Ledger.Matches`):
what is in the store, the pages of the alarms, and what is logged about failures that were pruned. They
are always balanced (`Ledger.Balanced`). `accounted_once` puts the two together.
-/

namespace FailureAlarm
namespace Alarm

/-- A recorded failure with its number in the order of the records. -/
structure Entry where
  number : Nat
  failure : Failure
deriving DecidableEq

/-- What a look at the window dropped, with the cutoff of that look. -/
structure Drop where
  cutoff : Instant
  entries : List Entry

/-- The books of a run. -/
structure Ledger where
  recorded : List Entry := []
  stored : List Entry := []
  drops : List Drop := []
  batches : List (List Entry) := []

namespace Ledger

/-! ### Keeping the books -/

/-- The entry for the failure that an event records, if it records one. -/
def entered (l : Ledger) (e : Event) : List Entry :=
  e.failure?.toList.map fun f => ⟨l.recorded.length, f⟩

/-- The entries among which an event looks for those in the window. -/
def held (l : Ledger) (e : Event) : List Entry := l.stored ++ l.entered e

/-- The entries that an event finds in the window. -/
def kept (l : Ledger) (a : Alarm) (e : Event) : List Entry :=
  (l.held e).filter fun x => a.cutoff e.now < x.failure.time

/-- The entries that an event drops. -/
def dropped (l : Ledger) (a : Alarm) (e : Event) : List Entry :=
  (l.held e).filter fun x => !decide (a.cutoff e.now < x.failure.time)

/-- Note an event. -/
def note (a : Alarm) (l : Ledger) (e : Event) : Ledger where
  recorded := l.recorded ++ l.entered e
  stored := if e.isCrossing then [] else l.kept a e
  drops := l.drops ++ [⟨a.cutoff e.now, l.dropped a e⟩]
  batches := l.batches ++ if e.isCrossing then [l.kept a e] else []

/-- The places where an entry can be: the store, the batches, and what the looks at the window
dropped. -/
def places (l : Ledger) : List (List Entry) := l.stored :: (l.batches ++ l.drops.map (·.entries))

/-! ### The balance -/

/-- The books are balanced. -/
structure Balanced (l : Ledger) : Prop where
  numbers : l.recorded.map (·.number) = List.range l.recorded.length
  balance : (l.batches.flatten ++ l.stored ++ (l.drops.map (·.entries)).flatten).Perm l.recorded
  order : (l.batches.flatten ++ l.stored).Sublist l.recorded
  late : ∀ d ∈ l.drops, ∀ x ∈ d.entries, x.failure.time ≤ d.cutoff

/-- What an event finds in the window is in the store or in the last batch afterward. -/
theorem batches_note (a : Alarm) (l : Ledger) (e : Event) :
    (l.note a e).batches.flatten ++ (l.note a e).stored = l.batches.flatten ++ l.kept a e := by
  unfold note
  cases e.isCrossing with
  | true => simp
  | false => simp

/-- A look at the window parts what is held: what is kept and what is dropped are all of it. -/
theorem kept_append_dropped (a : Alarm) (l : Ledger) (e : Event) :
    (l.kept a e ++ l.dropped a e).Perm (l.held e) := List.filter_append_perm ..

/-- The failures are numbered in the order of their records. -/
theorem numbers_note {a : Alarm} {l : Ledger} (h : l.Balanced) (e : Event) :
    (l.note a e).recorded.map (·.number) = List.range (l.note a e).recorded.length := by
  show (l.recorded ++ l.entered e).map _ = List.range (l.recorded ++ l.entered e).length
  unfold entered
  cases e.failure? with
  | none => simpa using h.numbers
  | some f => simp [h.numbers, List.range_succ]

/-- **One event more keeps the books balanced.** What it finds in the window goes to the store or to a
batch, the rest to its drops, and what it records is one entry more. -/
theorem balanced_note {a : Alarm} {l : Ledger} (h : l.Balanced) (e : Event) : (l.note a e).Balanced where
  numbers := numbers_note h e
  balance := by
    have hdrops : ((l.note a e).drops.map (·.entries)).flatten =
        (l.drops.map (·.entries)).flatten ++ l.dropped a e := by simp [note]
    rw [batches_note, hdrops, List.perm_iff_count]
    -- Each entry that is held goes to one side of the cutoff, and all others stay where they are.
    intro x
    have hbefore := h.balance.count_eq x
    have hmoved := (kept_append_dropped a l e).count_eq x
    unfold held at hmoved
    show _ = (l.recorded ++ l.entered e).count x
    simp only [List.count_append] at hbefore hmoved ⊢
    omega
  order := by
    rw [batches_note]
    have hkept : (l.kept a e).Sublist (l.held e) := List.filter_sublist
    have hheld : (l.batches.flatten ++ l.kept a e).Sublist
        (l.batches.flatten ++ l.stored ++ l.entered e) := by
      rw [List.append_assoc]
      exact (List.Sublist.refl _).append hkept
    exact hheld.trans (h.order.append (List.Sublist.refl _))
  late := by
    intro d hd x hx
    rcases List.mem_append.mp hd with hd | hd
    · exact h.late d hd x hx
    · cases List.mem_singleton.mp hd
      have hnot := (List.mem_filter.mp hx).2
      simpa using hnot

/-- The books of all events are balanced. -/
theorem balanced_foldl (a : Alarm) (es : List Event) : (es.foldl (note a) {}).Balanced := by
  induction es using List.reverseRecOn with
  | nil => exact ⟨rfl, List.Perm.refl _, List.Sublist.refl _, fun d hd => by cases hd⟩
  | append_singleton es e ih =>
      rw [List.foldl_append]
      exact balanced_note ih e

/-! ### One place for each entry -/

/-- Of lists that have no element twice, neither within one nor in two of them, one has each element. -/
theorem countP_mem {α : Type} [DecidableEq α] {ls : List (List α)} (h : ls.flatten.Nodup) (x : α) :
    ls.countP (x ∈ ·) = if x ∈ ls.flatten then 1 else 0 := by
  induction ls with
  | nil => rfl
  | cons l ls ih =>
      rw [List.flatten_cons, List.nodup_append'] at h
      obtain ⟨-, hls, hdisjoint⟩ := h
      rw [List.countP_cons, ih hls, List.flatten_cons]
      by_cases hx : x ∈ l
      · have hnot : x ∉ ls.flatten := fun h => hdisjoint hx h
        simp only [hx, hnot, List.mem_append, decide_true, if_true, if_false, true_or]
      · simp only [hx, List.mem_append, decide_false, false_or]
        rfl

/-- All places together hold what has been recorded. -/
theorem perm_places {l : Ledger} (h : l.Balanced) : l.places.flatten.Perm l.recorded := by
  refine List.Perm.trans ?_ h.balance
  rw [List.perm_iff_count]
  intro x
  unfold places
  simp only [List.flatten_cons, List.flatten_append, List.count_append]
  omega

/-- No entry is recorded twice, for no number is given twice. -/
theorem nodup_recorded {l : Ledger} (h : l.Balanced) : l.recorded.Nodup := by
  apply List.Nodup.of_map Entry.number
  rw [h.numbers]
  exact List.nodup_range

/-- **Each recorded failure is in one place, and nothing else is anywhere.** -/
theorem countP_places {l : Ledger} (h : l.Balanced) (x : Entry) :
    l.places.countP (x ∈ ·) = if x ∈ l.recorded then 1 else 0 := by
  have hperm := perm_places h
  rw [countP_mem (hperm.nodup_iff.mpr (nodup_recorded h)) x]
  simp only [hperm.mem_iff]

/-- Different batches have no entry in common. -/
theorem disjoint_batches {l : Ledger} (h : l.Balanced) : l.batches.Pairwise List.Disjoint := by
  have hnodup := h.balance.nodup_iff.mpr (nodup_recorded h)
  rw [List.append_assoc] at hnodup
  exact (List.nodup_flatten.mp (List.Nodup.of_append_left hnodup)).2

/-- The entries add up. -/
theorem length_recorded {l : Ledger} (h : l.Balanced) :
    l.recorded.length = (l.drops.map (·.entries.length)).sum + (l.batches.map List.length).sum +
      l.stored.length := by
  have hlength := h.balance.length_eq
  simp only [List.length_append, List.length_flatten, List.map_map] at hlength
  have hcomp : (List.length ∘ fun d : Drop => d.entries) = fun d => d.entries.length := rfl
  rw [hcomp] at hlength
  omega

/-! ### The books and the run -/

/-- The entries that are held are the failures in the store and the new one. -/
theorem map_held (l : Ledger) (e : Event) :
    (l.held e).map (·.failure) = l.stored.map (·.failure) ++ e.failure?.toList := by
  unfold held entered
  rw [List.map_append, List.map_map]
  exact congrArg _ (List.map_id _)

/-- The entries that the books keep are the failures that the alarm keeps. -/
theorem map_kept (a : Alarm) (l : Ledger) (e : Event) :
    (l.kept a e).map (·.failure) = a.kept (l.stored.map (·.failure)) e := by
  unfold Alarm.kept inWindow
  rw [← map_held, List.filter_map]
  rfl

/-- As many entries are dropped as the alarm says in its log. -/
theorem length_dropped (a : Alarm) (l : Ledger) (e : Event) :
    (l.dropped a e).length = (l.stored.map (·.failure) ++ e.failure?.toList).length -
      (a.kept (l.stored.map (·.failure)) e).length := by
  have hlength := (kept_append_dropped a l e).length_eq
  rw [List.length_append] at hlength
  rw [← map_held, ← map_kept, List.length_map, List.length_map]
  omega

end Ledger

/-- The pages of the alarms in a run. -/
def alarms (a : Alarm) : List Op → List Page :=
  a.collect fun _ reply effects => alarmPages reply effects

/-- What is logged in a run about failures that were pruned. -/
def pruned (a : Alarm) : List Op → List LogLine := a.collect fun _ _ effects => storeLines effects

/-- The books of a run from the beginning. -/
def ledger (a : Alarm) (ops : List Op) : Ledger := (a.events ops).foldl (Ledger.note a) {}

/-- The books agree with all that a run shows of its failures. -/
structure Ledger.Matches (a : Alarm) (ops : List Op) (l : Ledger) : Prop where
  stored : (a.after ops).store.failures = l.stored.map (·.failure)
  recorded : l.recorded.map (·.failure) = (a.events ops).filterMap Event.failure?
  counted : (a.after ops).metrics.recorded = l.recorded.length
  alarms : a.alarms ops = l.batches.map fun b => a.page (b.map (·.failure))
  pruned : a.pruned ops = l.drops.flatMap fun d => (pruneLog d.entries.length d.cutoff).log

theorem alarms_concat (a : Alarm) (ops : List Op) (op : Op) :
    a.alarms (ops ++ [op]) = a.alarms ops ++
      alarmPages (a.step (a.after ops) op).2.1 (a.step (a.after ops) op).2.2 :=
  a.collect_concat ..

theorem pruned_concat (a : Alarm) (ops : List Op) (op : Op) :
    a.pruned (ops ++ [op]) = a.pruned ops ++ storeLines (a.step (a.after ops) op).2.2 :=
  a.collect_concat ..

/-- A step without an event leaves nothing to note. -/
theorem matches_uneventful {a : Alarm} {ops : List Op} {op : Op} {l : Ledger}
    (h : l.Matches a ops) (hnone : Event.shown? op (a.step (a.after ops) op).2.1 = none)
    (hquiet : Uneventful (a.after ops) (a.step (a.after ops) op)) : l.Matches a (ops ++ [op]) where
  stored := by
    rw [after_concat, hquiet.store]
    exact h.stored
  recorded := by
    rw [events_concat, hnone, Option.toList_none, List.append_nil]
    exact h.recorded
  counted := by
    rw [after_concat, hquiet.recorded]
    exact h.counted
  alarms := by
    rw [alarms_concat, hquiet.alarms, List.append_nil]
    exact h.alarms
  pruned := by
    rw [pruned_concat, hquiet.lines, List.append_nil]
    exact h.pruned

/-- An event does to the alarm what is noted about it. -/
theorem matches_event {a : Alarm} {ops : List Op} {op : Op} {l : Ledger} {e : Event}
    (h : l.Matches a ops) (he : Event.shown? op (a.step (a.after ops) op).2.1 = some e)
    (hstep : a.Happens (a.after ops) (a.step (a.after ops) op) e) :
    (l.note a e).Matches a (ops ++ [op]) where
  stored := by
    rw [after_concat, hstep.store, h.stored]
    unfold left Ledger.note
    -- At a crossing the store is emptied into a batch; otherwise what is kept stays.
    cases e.isCrossing with
    | true => rfl
    | false => exact (l.map_kept a e).symm
  recorded := by
    rw [events_concat, he, List.filterMap_append, ← h.recorded]
    show (l.recorded ++ l.entered e).map _ = _
    rw [List.map_append]
    -- A call without a reading or a payload enters nothing.
    unfold Ledger.entered
    cases hf : e.failure? with
    | none => simp [hf]
    | some f => simp [hf]
  counted := by
    rw [after_concat, hstep.recorded, h.counted]
    show _ = (l.recorded ++ l.entered e).length
    unfold Ledger.entered
    rw [List.length_append, List.length_map]
  alarms := by
    rw [alarms_concat, hstep.alarms, h.alarms, h.stored, ← l.map_kept a e]
    unfold Ledger.note
    cases e.isCrossing with
    | true => simp
    | false => simp
  pruned := by
    rw [pruned_concat, hstep.lines, h.pruned, h.stored, ← l.length_dropped a e]
    show _ = (l.drops ++ [Drop.mk (a.cutoff e.now) (l.dropped a e)]).flatMap _
    rw [List.flatMap_append, List.flatMap_singleton]

/-- **The books of a run agree with what it shows.** The induction is on the run; each step shows no event
or one. -/
theorem matches_after (a : Alarm) (ops : List Op) : (a.ledger ops).Matches a ops := by
  induction ops using List.reverseRecOn with
  | nil => exact ⟨rfl, rfl, rfl, rfl, rfl⟩
  | append_singleton ops op ih =>
      unfold ledger
      rw [events_concat, List.foldl_append]
      rcases a.step_cases (a.after ops) op with ⟨hnone, hquiet⟩ | ⟨e, he, hstep⟩
      · rw [hnone]
        exact matches_uneventful ih hnone hquiet
      · rw [he]
        exact matches_event ih he hstep

/-- **Every failure is accounted for exactly once.** After every run there are books in which every
recorded failure has an entry of its own, and this entry is in one of three places: in the store, among
what one look at the window dropped, being no later than its cutoff, or in the batch of one crossing.
The batches in the order of the crossings, and then the store, keep the order of the records. The
counter of recorded failures is the number of those pruned, of those in the batches, whatever became of
their pages, and of those in the store. -/
theorem accounted_once (a : Alarm) (ops : List Op) :
    let l := a.ledger ops
    (a.after ops).store.failures = l.stored.map (·.failure) ∧
      a.alarms ops = (l.batches.map fun b => a.page (b.map (·.failure))) ∧
      a.pruned ops = (l.drops.flatMap fun d => (pruneLog d.entries.length d.cutoff).log) ∧
      l.recorded.map (·.failure) = (a.events ops).filterMap Event.failure? ∧
      l.recorded.map (·.number) = List.range l.recorded.length ∧
      (∀ x, (l.stored :: (l.batches ++ l.drops.map (·.entries))).countP (x ∈ ·) =
        if x ∈ l.recorded then 1 else 0) ∧
      (∀ d ∈ l.drops, ∀ x ∈ d.entries, x.failure.time ≤ d.cutoff) ∧
      l.batches.Pairwise List.Disjoint ∧
      (l.batches.flatten ++ l.stored).Sublist l.recorded ∧
      (a.after ops).metrics.recorded = (l.drops.map (·.entries.length)).sum +
        (l.batches.map List.length).sum + (a.after ops).store.size := by
  intro l
  have hbalanced : l.Balanced := Ledger.balanced_foldl a (a.events ops)
  have hmatches := a.matches_after ops
  refine ⟨hmatches.stored, hmatches.alarms, hmatches.pruned, hmatches.recorded, hbalanced.numbers,
    Ledger.countP_places hbalanced, hbalanced.late, Ledger.disjoint_batches hbalanced,
    hbalanced.order, ?_⟩
  -- The counter goes by what was entered, and each entry is in one of the three places.
  have hsize : (a.after ops).store.size = l.stored.length := by
    unfold Store.size
    rw [hmatches.stored, List.length_map]
  rw [hmatches.counted, hsize]
  exact Ledger.length_recorded hbalanced

end Alarm
end FailureAlarm
