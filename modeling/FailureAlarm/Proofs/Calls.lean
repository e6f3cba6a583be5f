import FailureAlarm.Proofs.Sensitivity

/-!
# What calls depend on

Of the whole state, a call looks at the store and its lock. The rest, such as pages under way, requests
that are watched, and what has been counted, is only ever added to. This has two sides:

* `call_alike`: on states with the same store and the same lock a call does the same, up to the number
  under which its page is sent;
* `step_withWindow`: the steps that are no calls do the same whatever is in the store.

To compare runs by them, `gather` picks out of a run what is to be compared.
-/

namespace FailureAlarm
namespace Alarm

/-! ### Gathering along a run -/

/-- What is gathered of the steps of a run, each with the state that it leads to. -/
def gather {β : Type} (a : Alarm) (f : Op → State × Reply × Effects → List β) (s : State) :
    List Op → List β
  | [] => []
  | op :: ops => f op (a.step s op) ++ a.gather f (a.step s op).1 ops

/-- What is gathered grows by what the last step gives. -/
theorem gather_concat {β : Type} (a : Alarm) (f : Op → State × Reply × Effects → List β)
    (ops : List Op) (op : Op) :
    a.gather f {} (ops ++ [op]) = a.gather f {} ops ++ f op (a.step (a.after ops) op) := by
  have happend (s : State) : a.gather f s (ops ++ [op]) =
      a.gather f s ops ++ f op (a.step (a.run s ops).1 op) := by
    induction ops generalizing s with
    | nil => exact List.append_nil _
    | cons op' ops ih =>
        show f op' (a.step s op') ++ a.gather f (a.step s op').1 (ops ++ [op]) = _
        rw [ih, ← List.append_assoc]
        rfl
  exact happend {}

/-- The stores that those steps of a run leave that are `p`. -/
def stores (a : Alarm) (p : Op → Bool) : List Op → List Store :=
  a.gather (fun op r => if p op then [r.1.store] else []) {}

/-- Of those steps that are chosen, the last one adds the store that it leaves. -/
theorem stores_concat (a : Alarm) (p : Op → Bool) (ops : List Op) (op : Op) :
    a.stores p (ops ++ [op]) =
      a.stores p ops ++ if p op then [(a.step (a.after ops) op).1.store] else [] :=
  a.gather_concat ..

/-- The alarm that a step hands over: over how many failures it is, and its page. -/
def raised : State × Reply × Effects → List (Nat × Page)
  | (s, .record (.sending _), _) =>
    match s.sending.getLast? with
    | some ⟨_, .alarm n, page⟩ => [(n, page)]
    | _ => []
  | _ => []

/-- The alarms that are handed over in a run. -/
def raisedAlarms (a : Alarm) : List Op → List (Nat × Page) := a.gather (fun _ => raised) {}

theorem raisedAlarms_concat (a : Alarm) (ops : List Op) (op : Op) :
    a.raisedAlarms (ops ++ [op]) = a.raisedAlarms ops ++ raised (a.step (a.after ops) op) :=
  a.gather_concat ..

/-- A crossing raises one alarm, over what is in the window. -/
theorem raised_of_crossing {a : Alarm} {s : State} {now : Instant} {p : LoggingPayload}
    {r : State × Reply × Effects} (h : a.Crossing s now p r) :
    raised r = [((a.inWindow now (s.store.failures ++ [p.toFailure now])).length,
      a.page (a.inWindow now (s.store.failures ++ [p.toFailure now])))] := by
  obtain ⟨s', reply, effects⟩ := r
  have hreply : reply = .record (.sending s.nextSending) := h.reply
  have hsending := h.sending
  subst hreply
  simp only [raised]
  rw [hsending, List.getLast?_concat]

/-- Nothing else raises any. -/
theorem raised_of_not_crosses {r : State × Reply × Effects} (h : ¬ r.2.1.Crosses) : raised r = [] := by
  unfold raised
  split
  · exact absurd ⟨_, rfl⟩ h
  · rfl

/-! ### Calls on the same store -/

/-- The answer with this number in the place of that of a sending. -/
def Reply.numbered (number : Nat) : Reply → Reply
  | .record (.sending _) => .record (.sending number)
  | reply => reply

/-- Whether a reply waits for a sending does not depend on the number of it. -/
theorem crosses_numbered (number : Nat) (reply : Reply) :
    (reply.numbered number).Crosses ↔ reply.Crosses := by
  unfold Reply.numbered
  split
  · exact iff_of_true ⟨_, rfl⟩ ⟨_, rfl⟩
  · exact Iff.rfl

/-- The states agree on what calls look at. -/
structure SameWindow (s t : State) : Prop where
  store : s.store = t.store
  poisoned : s.poisoned = t.poisoned

theorem SameWindow.symm {s t : State} (h : SameWindow s t) : SameWindow t s :=
  ⟨h.store.symm, h.poisoned.symm⟩

theorem SameWindow.trans {s t u : State} (h : SameWindow s t) (h' : SameWindow t u) :
    SameWindow s u := ⟨h.store.trans h'.store, h.poisoned.trans h'.poisoned⟩

/-- The steps come to the same, up to the numbers of sendings. -/
structure Alike (r r' : State × Reply × Effects) : Prop where
  window : SameWindow r.1 r'.1
  reply : r.2.1.numbered 0 = r'.2.1.numbered 0
  raised : raised r = raised r'
  pages : r.2.2.pages.map (·.2) = r'.2.2.pages.map (·.2)

/-- **Calls look at the window alone.** In states with the same window they come to the same, but for the
numbers of sendings. -/
theorem call_alike (a : Alarm) {s t : State} (h : SameWindow s t) {op : Op}
    (hop : op.isCall = true) : Alike (a.step s op) (a.step t op) := by
  obtain ⟨hstore, hpoisoned⟩ := h
  cases op with
  | record reading n =>
      simp only [step, record, hpoisoned]
      split
      · exact ⟨⟨hstore, hpoisoned⟩, rfl, rfl, rfl⟩
      · split
        · exact ⟨⟨hstore, hpoisoned⟩, rfl, rfl, rfl⟩
        · split
          · exact ⟨⟨hstore, rfl⟩, rfl, rfl, rfl⟩
          · simp only [take, State.handOver, hstore]
            split
            -- Only here do the numbers of the two sendings differ; they are left out of what is compared.
            · refine ⟨⟨rfl, hpoisoned⟩, rfl, ?_, by simp⟩
              simp [raised]
            · exact ⟨⟨rfl, hpoisoned⟩, rfl, rfl, rfl⟩
  | retained reading =>
      simp only [step, retained, hpoisoned]
      split
      · exact ⟨⟨hstore, hpoisoned⟩, rfl, rfl, rfl⟩
      · split
        · exact ⟨⟨hstore, rfl⟩, rfl, rfl, rfl⟩
        · rw [hstore]
          exact ⟨⟨rfl, rfl⟩, rfl, rfl, rfl⟩
  | _ => cases hop

/-- A step that is no call leaves what calls look at, and raises no alarm. -/
theorem elsewhere_sameWindow (a : Alarm) (s : State) {op : Op} (hop : op.isCall = false) :
    SameWindow (a.step s op).1 s ∧ raised (a.step s op) = [] := by
  obtain ⟨hstore, hpoisoned, -⟩ := a.step_elsewhere s hop
  refine ⟨⟨hstore, hpoisoned⟩, raised_of_not_crosses fun hcross => ?_⟩
  rw [isCall_of_crosses hcross] at hop
  cases hop

/-! ### Other steps on another store -/

/-- The state with another store and another gauge. -/
def withWindow (s : State) (store : Store) (gauge : Option Nat) : State :=
  { s with store, metrics := { s.metrics with retained := gauge } }

/-- What is no call does not look at the window, and does the same beside any other. -/
theorem step_withWindow (a : Alarm) (s : State) (store : Store) (gauge : Option Nat) {op : Op}
    (hop : op.isCall = false) :
    a.step (withWindow s store gauge) op =
      (withWindow (a.step s op).1 store gauge, (a.step s op).2) := by
  cases op with
  | record reading n => cases hop
  | retained reading => cases hop
  | dispatch message details => rfl
  -- What is left looks at the watchdog and the sendings, which `withWindow` keeps.
  | watch r =>
      simp only [step, watch]
      split
      · rfl
      · split <;> rfl
  | release id => rfl
  | pass d => rfl
  | fire =>
      simp only [step, fire, withWindow]
      cases a.watchdog with
      | off => rfl
      | hanging budget => cases s.watched.find? (·.isDue s.elapsed) <;> rfl
  | complete number result =>
      simp only [step, State.complete, withWindow]
      cases s.sending.find? (·.number = number) with
      | none => rfl
      | some x => cases result <;> rfl

end Alarm
end FailureAlarm
