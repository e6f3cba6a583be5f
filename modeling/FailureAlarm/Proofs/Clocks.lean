import FailureAlarm.Time.Clock
import Mathlib.Data.List.DropRight
import Mathlib.Data.List.Induction

/-!
# A clock that recovers

An advance fails if it leads out of the range of instants (`shift?_eq_none`). It breaks off with the lock
of the clock in hand, so the lock is poisoned from then on. Two things keep this from being noticed: the
advance has not touched the instant by then, and all users of the clock take what stands behind the lock
even if it is poisoned. So whatever is done with a clock looks at the instant alone (`step_alike`), and a
failed advance leaves it as it was (`now_of_failed`).

Whenever steps are blind to a part of the state, and those that fail change nothing else, the failed ones
can be left out of any course (`turns_noticed`). That goes for the operations of a clock (`blind`), so what
a clock shows can be read off the settings and advances that did not fail (`now_last`).
-/

namespace FailureAlarm

/-! ### Steps that go unnoticed -/

namespace Steps

variable {σ ι ω ν : Type} (step : σ → ι → σ × ω)

/-- The state after some steps. -/
def last (s : σ) (inputs : List ι) : σ := inputs.foldl (fun s i => (step s i).1) s

/-- The steps one after the other, each with what it showed. -/
def turns (s : σ) : List ι → List (ι × ω)
  | [] => []
  | i :: is => (i, (step s i).2) :: turns (step s i).1 is

/-- The inputs without those at which nothing but failure was shown. -/
def noticed (failed : ω → Bool) (s : σ) (inputs : List ι) : List ι :=
  ((turns step s inputs).filter fun t => !failed t.2).map (·.1)

/-- The last step starts from where the others have led to. -/
theorem last_concat (s : σ) (inputs : List ι) (i : ι) :
    last step s (inputs ++ [i]) = (step (last step s inputs) i).1 := List.foldl_concat ..

/-- The last step shows what it shows there. -/
theorem turns_concat (s : σ) (inputs : List ι) (i : ι) :
    turns step s (inputs ++ [i]) = turns step s inputs ++ [(i, (step (last step s inputs) i).2)] := by
  induction inputs generalizing s with
  | nil => rfl
  | cons j js ih => exact congrArg ((j, (step s j).2) :: ·) (ih (step s j).1)

/-- All that steps look at and change is in sight, and a step that fails changes nothing of it. -/
structure Blind (sight : σ → ν) (failed : ω → Bool) : Prop where
  alike : ∀ {s t}, sight s = sight t → ∀ i,
    (step s i).2 = (step t i).2 ∧ sight (step s i).1 = sight (step t i).1
  failed : ∀ {s i}, failed (step s i).2 = true → sight (step s i).1 = sight s

/-- **Steps that fail can be left out.** The others show the same, and lead to the same sight, also from
another state that looks the same. -/
theorem turns_noticed {sight : σ → ν} {failed : ω → Bool} (h : Blind step sight failed) {s t : σ}
    (hst : sight t = sight s) (inputs : List ι) :
    turns step t (noticed step failed s inputs) =
        (turns step s inputs).filter (fun t => !failed t.2) ∧
      sight (last step t (noticed step failed s inputs)) = sight (last step s inputs) := by
  induction inputs generalizing s t with
  | nil => exact ⟨rfl, hst⟩
  | cons i is ih =>
      cases hfailed : failed (step s i).2 with
      | true =>
          have hskip : noticed step failed s (i :: is) = noticed step failed (step s i).1 is := by
            unfold noticed
            rw [turns, List.filter_cons_of_neg (by simp [hfailed])]
          rw [hskip, turns, List.filter_cons_of_neg (by simp [hfailed])]
          -- The shorter course stays where it is, and sees what it saw before the failed step.
          exact ih (hst.trans (h.failed hfailed).symm)
      | false =>
          have hkeep : noticed step failed s (i :: is) =
              i :: noticed step failed (step s i).1 is := by
            unfold noticed
            rw [turns, List.filter_cons_of_pos (by simp [hfailed]), List.map_cons]
          obtain ⟨hshown, hsight⟩ := h.alike hst i
          obtain ⟨hturns, hlast⟩ := ih hsight
          rw [hkeep, turns, turns, List.filter_cons_of_pos (by simp [hfailed]), hturns, hshown]
          exact ⟨rfl, hlast⟩

end Steps

/-! ### Where an advance leads -/

namespace Instant

/-- So many nanoseconds lead out of the range of instants. Forward, a leap second counts as the second
before it, and backward as the second after it. -/
def Overruns (t : Instant) (span : Int) : Prop :=
  t.secs * 1000000000 + t.nanos + span < minSecs * 1000000000 ∨
    (maxSecs + 1) * 1000000000 ≤ t.secs * 1000000000 + (t.nanos % 1000000000 : Nat) + span

/-- A number of nanoseconds is no instant if its seconds are out of range. The nanoseconds inside of a
second always are in range. -/
theorem ofNanoseconds?_eq_none {total : Int} :
    ofNanoseconds? total = none ↔
      total < minSecs * 1000000000 ∨ (maxSecs + 1) * 1000000000 ≤ total := by
  unfold ofNanoseconds? ofParts?
  have hvalid : Valid (total / 1000000000) (total % 1000000000).toNat ↔
      minSecs ≤ total / 1000000000 ∧ total / 1000000000 ≤ maxSecs := by
    refine ⟨fun v => ⟨v.min_le, v.le_max⟩, fun ⟨hmin, hmax⟩ => ⟨hmin, hmax, ?_, ?_⟩⟩ <;> omega
  split
  · next h =>
    rw [hvalid] at h
    simp only [reduceCtorEq, false_iff]
    omega
  · next h =>
    rw [hvalid] at h
    simp only [true_iff]
    omega

/-- There are whole seconds in a span, of its sign, exactly if it is at least a second long. This is how
`shift?` tells whether a leap second is left. -/
theorem sign_whole_seconds (span : Int) :
    (0 < span.tdiv 1000000000 ↔ 1000000000 ≤ span) ∧
      (span.tdiv 1000000000 < 0 ↔ span ≤ -1000000000) := by
  rcases Int.le_total 0 span with hspan | hspan
  · rw [Int.tdiv_eq_ediv_of_nonneg hspan]
    omega
  · obtain ⟨back, rfl⟩ : ∃ back, span = -back := ⟨-span, (Int.neg_neg span).symm⟩
    rw [Int.neg_tdiv, Int.tdiv_eq_ediv_of_nonneg (by omega)]
    omega

/-- **An instant cannot be moved exactly if that leads out of the range.** -/
theorem shift?_eq_none {t : Instant} {span : Int} : t.shift? span = none ↔ t.Overruns span := by
  have hmin := t.valid.min_le
  have hmax := t.valid.le_max
  have hnanos := t.valid.nanos_lt
  have hwhole := sign_whole_seconds span
  unfold shift? Overruns
  dsimp only
  split
  · next hleap =>
    unfold IsLeap at hleap
    split
    · rw [ofNanoseconds?_eq_none]
      omega
    · split
      · rw [ofNanoseconds?_eq_none]
        omega
      · -- The instant stays in its leap second, or goes to the second before it.
        have hstays : Valid t.secs (t.nanos + span).toNat :=
          ⟨hmin, hmax, by omega, fun _ => t.valid.leap hleap⟩
        unfold ofParts?
        rw [dif_pos hstays]
        simp only [reduceCtorEq, false_iff]
        omega
  · next hleap =>
    unfold IsLeap at hleap
    rw [ofNanoseconds?_eq_none]
    omega

end Instant

/-! ### Clocks -/

/-- One who insists gets the value, whether the lock is poisoned or not. -/
theorem Guarded.insist_ask {α : Type} (g : Guarded α) : insist g.ask = g.value := by
  unfold ask
  split <;> rfl

namespace ManualClock

/-- An operation does its work on the instant behind the lock, and its reply is what comes of that. -/
theorem step_spec (c : ManualClock) (op : Op) :
    (c.step op).1.now = (op.work c.now).1 ∧ (c.step op).2 = (op.work c.now).2 :=
  ⟨Guarded.insist_ask _, rfl⟩

theorem look_eq (c : ManualClock) : c.look = some c.now := rfl

/-- What clocks reply, and what they show afterwards, is a matter of what they show. -/
theorem step_alike {c d : ManualClock} (h : c.now = d.now) (op : Op) :
    (c.step op).2 = (d.step op).2 ∧ (c.step op).1.now = (d.step op).1.now := by
  obtain ⟨hnow, hreply⟩ := c.step_spec op
  obtain ⟨hnow', hreply'⟩ := d.step_spec op
  rw [hnow, hreply, hnow', hreply', h]
  exact ⟨rfl, rfl⟩

theorem now_set (c : ManualClock) (t : Instant) : (c.set t).now = t := (c.step_spec (.set t)).1

/-- An advance that fails leaves the clock as it was. -/
theorem now_advance (c : ManualClock) (span : Int) :
    (c.advance span).now = (c.now.shift? span).getD c.now := by
  refine (c.step_spec (.advance span)).1.trans ?_
  dsimp only [Op.work]
  cases c.now.shift? span <;> rfl

/-- What an advance shows of the clock, if it does not fail. -/
theorem now_advance? (c : ManualClock) (span : Int) :
    (c.advance? span).map (·.now) = c.now.shift? span := by
  unfold advance?
  rw [Option.map_map]
  show Option.map (fun _ => (c.advance span).now) _ = _
  rw [now_advance, (c.step_spec (.advance span)).2]
  dsimp only [Op.work]
  cases c.now.shift? span <;> rfl

/-- All that an operation can come to. -/
inductive Served (c : ManualClock) : Op → ManualClock × Option Reply → Prop
  | set {t c'} : c'.now = t → Served c (.set t) (c', some .done)
  | advanced {span t c'} : ¬ c.now.Overruns span → c.now.shift? span = some t → c'.now = t →
      Served c (.advance span) (c', some .done)
  | failed {span c'} : c.now.Overruns span → c'.now = c.now → Served c (.advance span) (c', none)
  | looked {c'} : c'.now = c.now → Served c .look (c', some (.shows c.now))

/-- **Every operation is served**, whatever has happened before. The lock may be poisoned, but nobody is
locked out. -/
theorem served (c : ManualClock) (op : Op) : Served c op (c.step op) := by
  obtain ⟨hnow, hreply⟩ := c.step_spec op
  generalize c.step op = r at hnow hreply
  obtain ⟨c', reply⟩ := r
  dsimp only at hnow hreply
  subst hreply
  cases op with
  | set t => exact .set hnow
  | look => exact .looked hnow
  | advance span =>
      dsimp only [Op.work] at hnow ⊢
      cases hshift : c.now.shift? span with
      | none =>
          rw [hshift] at hnow
          exact .failed (Instant.shift?_eq_none.mp hshift) hnow
      | some t =>
          rw [hshift] at hnow
          refine .advanced (fun hover => ?_) hshift hnow
          rw [Instant.shift?_eq_none.mpr hover] at hshift
          cases hshift

/-- Only an advance can fail, and then the clock goes on showing the same. -/
theorem now_of_failed {c : ManualClock} {op : Op} (h : (c.step op).2.isNone = true) :
    (c.step op).1.now = c.now := by
  have hserved := c.served op
  generalize c.step op = r at h hserved ⊢
  cases hserved with
  | failed _ hnow => exact hnow
  | _ => cases h

/-- The poison in the lock of a clock is out of sight. -/
theorem blind : Steps.Blind step now Option.isNone := ⟨step_alike, now_of_failed⟩

/-! ### What a clock shows -/

/-- An operation with its reply. -/
abbrev Turn := Op × Option Reply

namespace Turn

/-- The instant that the clock was set to. -/
def set? : Turn → Option Instant
  | (.set t, _) => some t
  | _ => none

/-- The span of an advance that did not fail. -/
def span? : Turn → Option Int
  | (.advance span, some _) => some span
  | _ => none

end Turn

/-- The instant that the clock was set to at last, or the one at the start. -/
def lastSet (start : Instant) (ts : List Turn) : Instant := (ts.reverse.findSome? Turn.set?).getD start

/-- The spans of the advances since then that did not fail. -/
def spansSince (ts : List Turn) : List Int := (ts.rtakeWhile (·.set?.isNone)).filterMap Turn.span?

/-- The last operation that sets the clock counts. -/
theorem lastSet_concat (start : Instant) (ts : List Turn) (t : Turn) :
    lastSet start (ts ++ [t]) = t.set?.getD (lastSet start ts) := by
  unfold lastSet
  rw [List.reverse_append, List.reverse_singleton, List.singleton_append, List.findSome?_cons]
  cases t.set? <;> rfl

/-- When the clock is set, the advances before it do not count any more. -/
theorem spansSince_concat (ts : List Turn) (t : Turn) :
    spansSince (ts ++ [t]) = if t.set?.isNone then spansSince ts ++ t.span?.toList else [] := by
  unfold spansSince
  rw [List.rtakeWhile_concat]
  split
  · rw [List.filterMap_append, List.filterMap_cons]
    cases t.span? <;> rfl
  · rfl

/-- **A clock shows what it was set to, moved on by all later advances that did not fail.** -/
theorem now_last (c : ManualClock) (ops : List Op) :
    (spansSince (Steps.turns step c ops)).foldlM Instant.shift?
        (lastSet c.now (Steps.turns step c ops)) = some (Steps.last step c ops).now := by
  induction ops using List.reverseRecOn with
  | nil => rfl
  | append_singleton ops op ih =>
      have hserved := (Steps.last step c ops).served op
      rw [Steps.turns_concat, Steps.last_concat, lastSet_concat, spansSince_concat]
      generalize (Steps.last step c ops).step op = r at hserved ⊢
      cases hserved with
      | set hnow => exact congrArg some hnow.symm
      | advanced _ hshift hnow =>
          show (spansSince _ ++ [_]).foldlM _ (lastSet c.now _) = _
          rw [List.foldlM_append, ih, hnow]
          simpa using hshift
      | failed _ hnow =>
          show (spansSince _ ++ []).foldlM _ (lastSet c.now _) = _
          rw [List.append_nil, hnow]
          exact ih
      | looked hnow =>
          show (spansSince _ ++ []).foldlM _ (lastSet c.now _) = _
          rw [List.append_nil, hnow]
          exact ih

/-- At the first instant the clock does not go back, and goes on from there. -/
example :
    let c : ManualClock := ⟨Instant.min⟩
    (Steps.turns step c [.advance (-1), .look]).map (·.2) = [none, some (.shows Instant.min)] := by
  decide

end ManualClock
end FailureAlarm
