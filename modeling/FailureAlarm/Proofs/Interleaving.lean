import FailureAlarm.Alarm.Transport
import FailureAlarm.Proofs.Sending

/-!
# Concurrent calls

Calls of `record` and `retained` may overlap. Each gets hold of the store once, and does there at one
stroke all that it does to it. If it crosses the threshold, it then waits for the sending of its page,
which may end at any later time, while other calls come and go.

An interleaving is a list of moves: a call enters, or a sending ends. The same calls can be served one
after the other, each to its end (`Line.serveAll`), by a transport that answers at once. `linearizable`
says that nobody can tell the difference: the store, the pages and what the calls return are the same.

The state of an interleaving agrees with that of the serial run on all that calls look at (`Agree`),
since the end of a sending touches none of it. What a call that waits is told at last is settled by
`answer_of_sending`.
-/

namespace FailureAlarm

/-- The transport that knows at once how the sending with each number ends. -/
def Transport.prompt (result : Nat → Except PagingError Unit) : Transport Unit :=
  ⟨fun _ number _ => (.done (result number), [], ())⟩

namespace Alarm

/-! ### Interleavings -/

/-- A call, with the reading that it takes while it holds the store. -/
inductive Call where
  | record (reading : Reading) (notification : Notification)
  | retained (reading : Reading)
deriving DecidableEq

/-- The step that a call takes while it holds the store. -/
def Call.op : Call → Op
  | record reading n => .record reading n
  | retained reading => .retained reading

theorem Call.isCall_op (call : Call) : call.op.isCall = true := by cases call <;> rfl

/-- A move of concurrent calls. -/
inductive Move where
  /-- A call gets hold of the store. -/
  | enter (call : Call)
  /-- The sending with this number ends. -/
  | complete (number : Nat)
deriving DecidableEq

namespace Move

/-- The step that a move is, when every sending ends as `result` says. -/
def op (result : Nat → Except PagingError Unit) : Move → Op
  | enter call => call.op
  | complete number => .complete number (result number)

/-- The call that enters. -/
def call? : Move → Option Call
  | enter call => some call
  | complete _ => none

end Move

/-- What a call returns, as soon as the answers tell it. -/
def Reply.resolved (answers : List (Nat × Answer)) : Reply → Reply
  | .record (.sending number) =>
    match answers.find? (·.1 = number) with
    | some (_, .alarm result) => .record (.finished result)
    | _ => .record (.sending number)
  | reply => reply

/-- What the calls of a run answered when they let go of the store, in the order in which they had
hold of it. -/
def replies (a : Alarm) : List Op → List Reply :=
  a.collect fun op reply _ => if op.isCall then [reply] else []

/-- What the calls of a run have returned by its end. -/
def results (a : Alarm) (ops : List Op) : List Reply :=
  (a.replies ops).map (Reply.resolved (a.answers ops))

end Alarm

namespace Line

variable {τ : Type}

/-- Serve a call to its end, as far as the transport lets it come to one. -/
def serve (a : Alarm) (t : Transport τ) (l : Line τ) : Alarm.Call → Line τ × Alarm.Reply × Traffic
  | .record reading n =>
    let (l, p, traffic) := l.record a t reading n
    (l, .record p, traffic)
  | .retained reading =>
    let (l, p, traffic) := l.retained a t reading
    (l, .retained p, traffic)

/-- Serve calls one after the other. -/
def serveAll (a : Alarm) (t : Transport τ) (l : Line τ) :
    List Alarm.Call → Line τ × List (Alarm.Reply × Traffic)
  | [] => (l, [])
  | call :: calls =>
    let (l, served) := l.serve a t call
    let (l, rest) := serveAll a t l calls
    (l, served :: rest)

/-- The last call is served where the others have led to. -/
theorem serveAll_concat (a : Alarm) (t : Transport τ) (l : Line τ) (calls : List Alarm.Call)
    (call : Alarm.Call) :
    l.serveAll a t (calls ++ [call]) =
      (((l.serveAll a t calls).1.serve a t call).1,
        (l.serveAll a t calls).2 ++ [((l.serveAll a t calls).1.serve a t call).2]) := by
  induction calls generalizing l with
  | nil => rfl
  | cons c calls ih =>
      show (((l.serve a t c).1.serveAll a t (calls ++ [call])).1,
        (l.serve a t c).2 :: ((l.serve a t c).1.serveAll a t (calls ++ [call])).2) = _
      rw [ih]
      rfl

/-! ### Bringing the pages of a step to a transport -/

/-- A step without pages leaves nothing to bring. -/
theorem settle_quiet (t : Transport τ) (l : Line τ) (state : State) {effects : Effects}
    (h : effects.pages = []) :
    (l.settle t state effects).1.state = state ∧ (l.settle t state effects).2.pages = [] := by
  unfold settle
  rw [h]
  exact ⟨rfl, rfl⟩

/-- One page, of the only sending under way, is brought and answered. -/
theorem settle_prompt (result : Nat → Except PagingError Unit) (l : Line Unit) {state : State}
    {effects : Effects} {x : Sending} (hstate : state.sending = [x])
    (h : effects.pages = [(x.number, x.page)]) :
    (l.settle (.prompt result) state effects).1.state =
        { state with sending := [], metrics := State.count state.metrics (result x.number) } ∧
      (l.settle (.prompt result) state effects).2.pages = [x.page] ∧
      (l.settle (.prompt result) state effects).2.answers =
        [(x.number, State.answer (result x.number) x.sender)] := by
  have hfind : state.sending.find? (·.number = x.number) = some x := by simp [hstate]
  have hfilter : state.sending.filter (·.number ≠ x.number) = [] := by simp [hstate]
  -- The only sending under way is the one that ends.
  have hcomplete : state.complete x.number (result x.number) =
      ({ state with sending := [], metrics := State.count state.metrics (result x.number) },
        some (State.answer (result x.number) x.sender),
        { log := State.completionLog x (result x.number) }) := by
    unfold State.complete
    rw [hfind, hfilter]
  have hended : Line.complete ⟨state, l.transport⟩ x.number (result x.number) =
      (⟨{ state with sending := [], metrics := State.count state.metrics (result x.number) },
        l.transport⟩, ⟨[], State.completionLog x (result x.number),
          [(x.number, State.answer (result x.number) x.sender)]⟩) := by
    unfold Line.complete
    rw [hcomplete]
    rfl
  unfold settle
  rw [h]
  unfold deliver
  dsimp only [Transport.prompt]
  rw [hended]
  exact ⟨rfl, rfl, rfl⟩

end Line

namespace Alarm

/-! ### A call alone -/

/-- The states agree on all that calls look at. -/
structure Agree (s t : State) : Prop where
  store : s.store = t.store
  poisoned : s.poisoned = t.poisoned
  next : s.nextSending = t.nextSending

theorem Agree.refl (s : State) : Agree s s := ⟨rfl, rfl, rfl⟩

/-- Calls answer alike in states that agree, and the states still agree after them. -/
theorem call_congr (a : Alarm) {s t : State} (h : Agree s t) (call : Call) :
    (a.step s call.op).2 = (a.step t call.op).2 ∧
      Agree (a.step s call.op).1 (a.step t call.op).1 := by
  obtain ⟨hstore, hpoisoned, hnext⟩ := h
  cases call with
  | record reading n =>
      show (Reply.record (a.record reading n s).2.1, (a.record reading n s).2.2) =
          (Reply.record (a.record reading n t).2.1, (a.record reading n t).2.2) ∧
        Agree (a.record reading n s).1 (a.record reading n t).1
      unfold record
      rw [hpoisoned]
      split
      · exact ⟨rfl, hstore, hpoisoned, hnext⟩
      · split
        · exact ⟨rfl, hstore, hpoisoned, hnext⟩
        · split
          · exact ⟨rfl, hstore, rfl, hnext⟩
          -- The number of the sending comes from the state, and there the two agree.
          · unfold take State.handOver
            rw [hstore, hnext]
            dsimp only
            split
            · exact ⟨rfl, rfl, hpoisoned, rfl⟩
            · exact ⟨rfl, rfl, hpoisoned, rfl⟩
  | retained reading =>
      show (Reply.retained (a.retained reading s).2.1, (a.retained reading s).2.2) =
          (Reply.retained (a.retained reading t).2.1, (a.retained reading t).2.2) ∧
        Agree (a.retained reading s).1 (a.retained reading t).1
      unfold retained
      rw [hpoisoned]
      split
      · exact ⟨rfl, hstore, hpoisoned, hnext⟩
      · split
        · exact ⟨rfl, hstore, rfl, hnext⟩
        · rw [hstore]
          exact ⟨rfl, rfl, rfl, hnext⟩

/-- What the end of a sending makes of a call that waits for it with a page over `n` failures. -/
def verdict (n : Nat) : Except PagingError Unit → Except AlarmError Outcome
  | .ok () => .ok (.alerted n)
  | .error e => .error (.dispatch e)

/-- A call that does not wait returns what it has answered. -/
theorem resolved_of_not_crosses {reply : Reply} (h : ¬ reply.Crosses)
    (answers : List (Nat × Answer)) : reply.resolved answers = reply := by
  cases reply with
  | record progress =>
      cases progress with
      | sending number => exact absurd ⟨number, rfl⟩ h
      | _ => rfl
  | _ => rfl

/-- A call that waits returns the verdict when its sending has ended. -/
theorem resolved_of_answer {answers : List (Nat × Answer)} {number n : Nat}
    {result : Except PagingError Unit}
    (h : answers.find? (·.1 = number) = some (number, State.answer result (.alarm n))) :
    (Reply.record (.sending number)).resolved answers = .record (.finished (verdict n result)) := by
  unfold Reply.resolved
  dsimp only
  rw [h]
  cases result <;> rfl

/-- A call of `record` returns what the answers tell by the time when its page has been brought to the
transport. -/
theorem progress_record {τ : Type} (a : Alarm) (t : Transport τ) (l : Line τ) (reading : Reading)
    (n : Notification) :
    Reply.record (l.record a t reading n).2.1 =
      (Reply.record (a.record reading n l.state).2.1).resolved
        (l.settle t (a.record reading n l.state).1 (a.record reading n l.state).2.2).2.answers := by
  unfold Line.record Traffic.answerTo?
  generalize a.record reading n l.state = r
  obtain ⟨state, progress, effects⟩ := r
  cases progress with
  | sending number =>
      unfold Reply.resolved
      dsimp only
      cases (l.settle t state effects).2.answers.find? (·.1 = number) with
      | none => rfl
      | some y =>
          obtain ⟨k, answer⟩ := y
          cases answer <;> rfl
  | _ => rfl

/-- To serve a call is to take its step, to bring its pages to the transport, and to return what the
answers tell by then. -/
theorem serve_eq {τ : Type} (a : Alarm) (t : Transport τ) (l : Line τ) (call : Call) :
    let r := a.step l.state call.op
    let settled := l.settle t r.1 r.2.2
    l.serve a t call = (settled.1, r.2.1.resolved settled.2.answers, settled.2) := by
  cases call with
  | retained reading => rfl
  | record reading n =>
      intro r settled
      have hreply : Reply.record (l.record a t reading n).2.1 = r.2.1.resolved settled.2.answers :=
        a.progress_record t l reading n
      rw [← hreply]
      rfl

/-- A call that is served alone, with no sending under way, does what its step does. If it crosses the
threshold, it returns at once what it would be told at last. -/
theorem serve_spec (a : Alarm) (result : Nat → Except PagingError Unit) {l : Line Unit}
    (hidle : l.state.sending = []) (call : Call) :
    let r := a.step l.state call.op
    let served := l.serve a (.prompt result) call
    Agree r.1 served.1.state ∧ served.1.state.sending = [] ∧
      served.2.2.pages = r.2.2.pages.map (·.2) ∧
      (¬ r.2.1.Crosses → served.2.1 = r.2.1) ∧
      ∀ now p, a.Crossing l.state now p r →
        served.2.1 = .record (.finished (verdict
          (a.inWindow now (l.state.store.failures ++ [p.toFailure now])).length
          (result l.state.nextSending))) := by
  intro r served
  have hserved : served = ((l.settle (.prompt result) r.1 r.2.2).1,
      r.2.1.resolved (l.settle (.prompt result) r.1 r.2.2).2.answers,
      (l.settle (.prompt result) r.1 r.2.2).2) := serve_eq a (.prompt result) l call
  rw [hserved]
  by_cases hcrosses : r.2.1.Crosses
  · obtain ⟨now, p, -, hcross⟩ := crossing_of_crosses hcrosses
    have hsending := hcross.sending
    rw [hidle] at hsending
    obtain ⟨hstate, hpages, -⟩ := Line.settle_prompt result l hsending hcross.pages
    rw [hstate, hpages, hcross.pages]
    refine ⟨⟨rfl, rfl, rfl⟩, rfl, rfl, fun h => absurd hcrosses h, ?_⟩
    -- The only page under way is answered before the call returns.
    intro now' p' hcross'
    have hsending' := hcross'.sending
    rw [hidle] at hsending'
    obtain ⟨-, -, hanswers⟩ := Line.settle_prompt result l hsending' hcross'.pages
    rw [hanswers, hcross'.reply]
    exact resolved_of_answer (List.find?_cons_of_pos (decide_eq_true rfl))
  · obtain ⟨hquiet, hsending⟩ := call_quiet call.isCall_op hcrosses
    obtain ⟨hstate, hpages⟩ := Line.settle_quiet (.prompt result) l r.1 hquiet
    rw [hstate, hpages, hquiet]
    refine ⟨Agree.refl _, hsending.trans hidle, rfl, ?_, ?_⟩
    · intro _
      exact resolved_of_not_crosses hcrosses _
    · intro now p hcross
      exact absurd ⟨_, hcross.reply⟩ hcrosses

/-! ### An interleaving and its calls one after the other -/

/-- The calls of an interleaving, one after the other in the order in which they had hold of the
store. -/
def serial (a : Alarm) (result : Nat → Except PagingError Unit) (moves : List Move) :
    Line Unit × List (Reply × Traffic) :=
  Line.serveAll a (.prompt result) ⟨{}, ()⟩ (moves.filterMap Move.call?)

/-- What a call that was served alone returned follows from what the same call answered in the
interleaving: it is that answer, or it is how the sending will end that the call waits for. -/
inductive Foretold (a : Alarm) (result : Nat → Except PagingError Unit) (moves : List Move) :
    Reply → Reply → Prop
  | finished {reply} : ¬ reply.Crosses → Foretold a result moves reply reply
  | waiting (before later) {x n} : moves = before ++ later →
      x ∈ (a.after (before.map (Move.op result))).sending → x.sender = .alarm n →
      Foretold a result moves (.record (.sending x.number))
        (.record (.finished (verdict n (result x.number))))

/-- What has been foretold stays so, for it is about the past. -/
theorem Foretold.concat {a : Alarm} {result : Nat → Except PagingError Unit} {moves : List Move}
    {reply its : Reply} (h : Foretold a result moves reply its) (move : Move) :
    Foretold a result (moves ++ [move]) reply its := by
  cases h with
  | finished h => exact .finished h
  | waiting before later hmoves hx hn =>
      refine .waiting before (later ++ [move]) ?_ hx hn
      rw [hmoves, List.append_assoc]

/-- One operation more gives one reply more, if it is a call. -/
theorem replies_concat (a : Alarm) (ops : List Op) (op : Op) :
    a.replies (ops ++ [op]) =
      a.replies ops ++ if op.isCall then [(a.step (a.after ops) op).2.1] else [] :=
  a.collect_concat ..

/-- The end of a sending touches nothing that calls look at. -/
theorem agree_complete (a : Alarm) (s : State) (number : Nat) (result : Except PagingError Unit) :
    Agree (a.step s (.complete number result)).1 s := by
  have hcall : (Op.complete number result).isCall = false := rfl
  obtain ⟨hstore, hpoisoned, -⟩ := a.step_elsewhere s hcall
  exact ⟨hstore, hpoisoned, (complete_sending s number result).2⟩

/-- The interleaving and the serial run go side by side. -/
structure SideBySide (a : Alarm) (result : Nat → Except PagingError Unit) (moves : List Move) :
    Prop where
  agree : Agree (a.after (moves.map (Move.op result))) (a.serial result moves).1.state
  idle : (a.serial result moves).1.state.sending = []
  pages : a.pages (moves.map (Move.op result)) = (a.serial result moves).2.flatMap (·.2.pages)
  foretold : List.Forall₂ (a.Foretold result moves) (a.replies (moves.map (Move.op result)))
    ((a.serial result moves).2.map (·.1))

/-- Both runs begin with the same state. -/
theorem sideBySide_nil (a : Alarm) (result : Nat → Except PagingError Unit) :
    a.SideBySide result [] := ⟨Agree.refl _, rfl, rfl, .nil⟩

/-- **A call gets hold of the store.** In both runs the store is the same, so the call does the same. The
serial run brings its page to the end before the next call; the interleaving goes on while the page is
under way. -/
theorem sideBySide_enter {a : Alarm} {result : Nat → Except PagingError Unit} {moves : List Move}
    (h : a.SideBySide result moves) (call : Call) : a.SideBySide result (moves ++ [.enter call]) := by
  have hserial : a.serial result (moves ++ [.enter call]) =
      (((a.serial result moves).1.serve a (.prompt result) call).1,
        (a.serial result moves).2 ++ [((a.serial result moves).1.serve a (.prompt result) call).2]) := by
    unfold serial
    rw [List.filterMap_append]
    exact Line.serveAll_concat ..
  have hmap : (moves ++ [Move.enter call]).map (Move.op result) =
      moves.map (Move.op result) ++ [call.op] := List.map_append
  obtain ⟨hsame, hagree⟩ := a.call_congr h.agree call
  obtain ⟨hserved, hidle, hpages, hfinished, hwaits⟩ := a.serve_spec result h.idle call
  constructor
  · rw [hmap, hserial, after_concat]
    exact ⟨hagree.store.trans hserved.store, hagree.poisoned.trans hserved.poisoned,
      hagree.next.trans hserved.next⟩
  · rw [hserial]
    exact hidle
  · rw [hmap, hserial, pages_concat, hsame, h.pages, List.flatMap_append, List.flatMap_singleton,
      hpages]
  · rw [hmap, hserial, replies_concat, if_pos call.isCall_op, List.map_append]
    refine List.rel_append (h.foretold.imp fun _ _ hf => hf.concat _) (.cons ?_ .nil)
    show a.Foretold result (moves ++ [.enter call])
      (a.step (a.after (moves.map (Move.op result))) call.op).2.1
      ((a.serial result moves).1.serve a (.prompt result) call).2.1
    by_cases hcrosses : (a.step (a.after (moves.map (Move.op result))) call.op).2.1.Crosses
    -- Both runs cross with the same failure and number, but only the serial one knows the end by now.
    · obtain ⟨now, p, hop, hcross⟩ := crossing_of_crosses hcrosses
      obtain ⟨now', p', hop', hcross'⟩ := crossing_of_crosses (hsame ▸ hcrosses)
      cases hop.symm.trans hop'
      have hits := hwaits now p hcross'
      rw [← h.agree.store, ← h.agree.next] at hits
      have hmem := hcross.sending ▸ List.mem_append_right _ List.mem_cons_self
      rw [← after_concat, ← hmap] at hmem
      rw [hcross.reply, hits]
      exact .waiting (moves ++ [.enter call]) [] (List.append_nil _).symm hmem rfl
    · have hits := hfinished (hsame ▸ hcrosses)
      rw [hits, ← hsame]
      exact .finished hcrosses

/-- **A sending ends.** The serial run has been there already, and the interleaving changes nothing that
calls look at. -/
theorem sideBySide_complete {a : Alarm} {result : Nat → Except PagingError Unit} {moves : List Move}
    (h : a.SideBySide result moves) (number : Nat) :
    a.SideBySide result (moves ++ [.complete number]) := by
  have hserial : a.serial result (moves ++ [.complete number]) = a.serial result moves := by
    unfold serial
    rw [List.filterMap_append]
    exact congrArg _ (List.append_nil _)
  have hmap : (moves ++ [Move.complete number]).map (Move.op result) =
      moves.map (Move.op result) ++ [.complete number (result number)] := List.map_append
  have hquiet := a.agree_complete (a.after (moves.map (Move.op result))) number (result number)
  constructor
  · rw [hmap, hserial, after_concat]
    exact ⟨hquiet.store.trans h.agree.store, hquiet.poisoned.trans h.agree.poisoned,
      hquiet.next.trans h.agree.next⟩
  · rw [hserial]
    exact h.idle
  · rw [hmap, hserial, pages_concat, pages_complete, List.map_nil, List.append_nil]
    exact h.pages
  · have hcall : ¬ (Op.complete number (result number)).isCall = true := Bool.false_ne_true
    rw [hmap, hserial, replies_concat, if_neg hcall, List.append_nil]
    exact h.foretold.imp fun _ _ hf => hf.concat _

/-- The two runs go side by side. The induction is on the moves of the interleaving. -/
theorem sideBySide (a : Alarm) (result : Nat → Except PagingError Unit) (moves : List Move) :
    a.SideBySide result moves := by
  induction moves using List.reverseRecOn with
  | nil => exact a.sideBySide_nil result
  | append_singleton moves move ih =>
      cases move with
      | enter call => exact sideBySide_enter ih call
      | complete number => exact sideBySide_complete ih number

/-! ### What a waiting call is told -/

/-- A sending ends with the one result that it has, if it does. -/
theorem findSome?_ends (result : Nat → Except PagingError Unit) (number : Nat) (moves : List Move) :
    (moves.map (Move.op result)).findSome? (Op.ends? number) =
      if .complete number ∈ moves then some (result number) else none := by
  induction moves with
  | nil => rfl
  | cons move moves ih =>
      rw [List.map_cons, List.findSome?_cons, ih]
      cases move with
      | enter call => cases call <;> simp [Move.op, Call.op, Op.ends?]
      | complete k =>
          by_cases hk : k = number
          · simp [Move.op, Op.ends?, hk]
          · simp [Move.op, Op.ends?, hk, Ne.symm hk]

/-- A call that waits for a sending is told how it ended if it has ended, and else still waits. -/
theorem resolved_of_sending {a : Alarm} {result : Nat → Except PagingError Unit}
    {before : List Move} {x : Sending} {n : Nat}
    (hx : x ∈ (a.after (before.map (Move.op result))).sending) (hn : x.sender = .alarm n)
    (later : List Move) :
    (.complete x.number ∈ later →
      (Reply.record (.sending x.number)).resolved (a.answers ((before ++ later).map (Move.op result))) =
        .record (.finished (verdict n (result x.number)))) ∧
    (.complete x.number ∉ later →
      (Reply.record (.sending x.number)).resolved (a.answers ((before ++ later).map (Move.op result))) =
        .record (.sending x.number) ∧
      x ∈ (a.after ((before ++ later).map (Move.op result))).sending) := by
  -- The first answer with this number is the one that counts, and there is only one.
  obtain ⟨hfind, hstays⟩ := answer_of_sending hx (later.map (Move.op result))
  rw [findSome?_ends, ← List.map_append, hn] at hfind
  rw [findSome?_ends, ← List.map_append] at hstays
  constructor
  · intro hlater
    rw [if_pos hlater] at hfind
    exact resolved_of_answer hfind
  · intro hlater
    rw [if_neg hlater] at hfind hstays
    refine ⟨?_, hstays rfl⟩
    unfold Reply.resolved
    dsimp only
    rw [hfind]
    rfl

/-- The results of an interleaving are those of the serial run, except for the calls that still wait. -/
theorem results_serial (a : Alarm) (result : Nat → Except PagingError Unit) (moves : List Move) :
    List.Forall₂ (fun mine its => mine = its ∨
        ∃ x ∈ (a.after (moves.map (Move.op result))).sending, mine = .record (.sending x.number))
      (a.results (moves.map (Move.op result))) ((a.serial result moves).2.map (·.1)) := by
  unfold results
  rw [List.forall₂_map_left_iff]
  refine (a.sideBySide result moves).foretold.imp fun reply its h => ?_
  cases h with
  | finished h => exact Or.inl (resolved_of_not_crosses h _)
  | @waiting before later x n hmoves hx hn =>
      subst hmoves
      obtain ⟨hended, hwaits⟩ := resolved_of_sending hx hn later
      by_cases hlater : Move.complete x.number ∈ later
      · exact Or.inl (hended hlater)
      · obtain ⟨hreply, hstill⟩ := hwaits hlater
        exact Or.inr ⟨x, hstill, hreply⟩

/-- **Concurrent calls are linearizable.** In every interleaving, with all ends of sendings that it
may bring in any order, the store, the pages and the results of the calls are those of the calls one
after the other, in the order in which they had hold of the store; only the calls whose page is still
under way have not returned yet. The end of a sending never changes the store. And a call that crosses
the threshold is told how its own sending ended, with the size of its own batch, whatever the others
do meanwhile. -/
theorem linearizable (a : Alarm) (result : Nat → Except PagingError Unit) (moves : List Move) :
    let ops := moves.map (Move.op result)
    (a.after ops).store = (a.serial result moves).1.state.store ∧
      a.pages ops = (a.serial result moves).2.flatMap (·.2.pages) ∧
      List.Forall₂ (fun mine its => mine = its ∨
          ∃ x ∈ (a.after ops).sending, mine = .record (.sending x.number))
        (a.results ops) ((a.serial result moves).2.map (·.1)) ∧
      ((a.after ops).sending = [] → a.results ops = (a.serial result moves).2.map (·.1)) ∧
      (∀ number r, (a.step (a.after ops) (.complete number r)).1.store = (a.after ops).store) ∧
      ∀ before call later, moves = before ++ .enter call :: later →
        let s := a.after (before.map (Move.op result))
        ∀ number, (a.step s call.op).2.1 = .record (.sending number) →
          ∃ now p, call = .record (some now) ⟨some p⟩ ∧
            let batch := a.inWindow now (s.store.failures ++ [p.toFailure now])
            let final := Reply.resolved (a.answers ops) (.record (.sending number))
            (a.step s call.op).2.2.pages = [(number, a.page batch)] ∧
              (.complete number ∈ later → result number = .ok () →
                final = .record (.finished (.ok (.alerted batch.length)))) ∧
              (∀ e, .complete number ∈ later → result number = .error e →
                final = .record (.finished (.error (.dispatch e)))) ∧
              (.complete number ∉ later → final = .record (.sending number)) := by
  intro ops
  have hside := a.sideBySide result moves
  have hresults := a.results_serial result moves
  refine ⟨hside.agree.store, hside.pages, hresults, ?_, ?_, ?_⟩
  · intro hidle
    rw [← List.forall₂_eq_eq_eq]
    refine hresults.imp fun mine its h => ?_
    rcases h with h | ⟨x, hx, -⟩
    · exact h
    · rw [hidle] at hx
      cases hx
  · intro number r
    exact (a.agree_complete _ number r).store
  · intro before call later hmoves s number hreply
    obtain ⟨now, p, hop, hcross⟩ := crossing_of_crosses ⟨number, hreply⟩
    have hcall : call = .record (some now) ⟨some p⟩ := by
      cases call with
      | record reading n => cases hop; rfl
      | retained reading => cases hop
    cases hreply.symm.trans hcross.reply
    have hmem := hcross.sending ▸ List.mem_append_right _ List.mem_cons_self
    have hops : moves = (before ++ [.enter call]) ++ later := by
      rw [hmoves, List.append_assoc]
      rfl
    have hbefore : a.after ((before ++ [Move.enter call]).map (Move.op result)) =
        (a.step s call.op).1 := by
      rw [List.map_append]
      exact a.after_concat ..
    rw [← hbefore] at hmem
    -- From here on only the end of the sending matters to the call.
    obtain ⟨hended, hwaits⟩ := resolved_of_sending hmem rfl later
    rw [← hops] at hended hwaits
    refine ⟨now, p, hcall, hcross.pages, ?_, ?_, ?_⟩
    · intro hlater hok
      exact (hended hlater).trans (by rw [hok]; rfl)
    · intro e hlater he
      exact (hended hlater).trans (by rw [he]; rfl)
    · intro hlater
      exact (hwaits hlater).1

end Alarm
end FailureAlarm
