import FailureAlarm.Alarm.Watch

/-!
# Handing pages to a transport

A transport is handed pages one after the other. For each it says at once how the sending ended, or
holds the page and leaves the end open. `settle` brings the pages of a step to a transport and ends
the sendings whose end is known; `fireAll` fires all timers that have come due, each with its page.
-/

namespace FailureAlarm

/-- What becomes of a page that a transport was handed. -/
inductive Delivery where
  | done (result : Except PagingError Unit)
  | held

/-- A way to deliver pages, with a state of its own. It sees the number of the sending. -/
structure Transport (τ : Type) where
  deliver : τ → Nat → Page → Delivery × List LogLine × τ

/-- The state of an alarm together with that of its transport. -/
structure Line (τ : Type) where
  state : State
  transport : τ

/-- What steps did in sight of the transport: the pages it was handed, the log, and the answers to
the sendings that ended. -/
structure Traffic where
  pages : List Page := []
  log : List LogLine := []
  answers : List (Nat × Answer) := []
deriving Inhabited

namespace Traffic

/-- What was done first and then. -/
def append (a b : Traffic) : Traffic := ⟨a.pages ++ b.pages, a.log ++ b.log, a.answers ++ b.answers⟩

instance : Append Traffic := ⟨append⟩

@[simp] theorem pages_append (a b : Traffic) : (a ++ b).pages = a.pages ++ b.pages := rfl

/-- The answer to the sending with this number, if it has ended. -/
def answerTo? (t : Traffic) (number : Nat) : Option Answer :=
  (t.answers.find? (·.1 = number)).map (·.2)

end Traffic

namespace Line

variable {τ : Type}

/-- End a sending. -/
def complete (l : Line τ) (number : Nat) (result : Except PagingError Unit) : Line τ × Traffic :=
  let (state, answer, effects) := l.state.complete number result
  ({ l with state }, { log := effects.log, answers := (answer.map (number, ·)).toList })

/-- Bring pages to the transport. -/
def deliver (t : Transport τ) : Line τ → List (Nat × Page) → Line τ × Traffic
  | l, [] => (l, {})
  | l, (number, page) :: rest =>
    let (delivery, log, transport) := t.deliver l.transport number page
    let l := { l with transport }
    let (l, ended) := match delivery with
      | .done result => l.complete number result
      | .held => (l, {})
    let (l, more) := deliver t l rest
    (l, { pages := [page], log := log } ++ ended ++ more)

/-- Go on to the state after a step, and bring its pages to the transport. -/
def settle (t : Transport τ) (l : Line τ) (state : State) (effects : Effects) : Line τ × Traffic :=
  let (l, traffic) := deliver t { l with state } effects.pages
  (l, { log := effects.log } ++ traffic)

/-- Fire at most `n` timers that have come due. -/
def fireUpTo (a : Alarm) (t : Transport τ) : Nat → Line τ → Line τ × Traffic
  | 0, l => (l, {})
  | n + 1, l =>
    match a.fire l.state with
    | none => (l, {})
    | some (state, effects) =>
      let (l, first) := l.settle t state effects
      let (l, more) := fireUpTo a t n l
      (l, first ++ more)

/-- Fire the timers that have come due. -/
def fireAll (a : Alarm) (t : Transport τ) (l : Line τ) : Line τ × Traffic :=
  fireUpTo a t l.state.watched.length l

/-- Hand a request to the watchdog. -/
def watch (a : Alarm) (t : Transport τ) (runtime : Bool) (r : Request) (l : Line τ) :
    Line τ × Traffic :=
  let (state, effects) := a.watch runtime r l.state
  let (l, hooked) := l.settle t state effects
  let (l, fired) := fireAll a t l
  (l, hooked ++ fired)

/-- Let time pass. -/
def pass (a : Alarm) (t : Transport τ) (d : Duration) (l : Line τ) : Line τ × Traffic :=
  fireAll a t { l with state := Alarm.pass d l.state }

/-- Record a failure. -/
def record (a : Alarm) (t : Transport τ) (reading : Reading) (n : Notification) (l : Line τ) :
    Line τ × Progress (Except AlarmError Outcome) × Traffic :=
  let (state, progress, effects) := a.record reading n l.state
  let (l, traffic) := l.settle t state effects
  let progress := match progress with
    | .sending number =>
      match traffic.answerTo? number with
      | some (.alarm result) => .finished result
      | _ => .sending number
    | p => p
  (l, progress, traffic)

/-- Send a page of one's own. -/
def dispatch (a : Alarm) (t : Transport τ) (message : String) (details : Details) (l : Line τ) :
    Line τ × Progress (Except PagingError Unit) × Traffic :=
  let (state, progress, effects) := a.dispatch message details l.state
  let (l, traffic) := l.settle t state effects
  let progress := match progress with
    | .sending number =>
      match traffic.answerTo? number with
      | some (.direct result) => .finished result
      | _ => .sending number
    | p => p
  (l, progress, traffic)

/-- Count the failures in the window. -/
def retained (a : Alarm) (t : Transport τ) (reading : Reading) (l : Line τ) :
    Line τ × Progress (Except AlarmError Nat) × Traffic :=
  let (state, progress, effects) := a.retained reading l.state
  let (l, traffic) := l.settle t state effects
  (l, progress, traffic)

end Line

/-! ### A transport that follows a script -/

/-- What will become of the pages to come, and the numbers of the sendings that are held, in the
order in which they were handed over. When the script is at its end, every page is sent. -/
structure Script where
  coming : List Delivery := []
  held : List Nat := []

namespace Script

/-- Deliver the next page as the script says. -/
def deliver (s : Script) (number : Nat) (_ : Page) : Delivery × List LogLine × Script :=
  match s.coming with
  | [] => (.done (.ok ()), [], s)
  | .done result :: rest => (.done result, [], { s with coming := rest })
  | .held :: rest => (.held, [], ⟨rest, s.held ++ [number]⟩)

/-- The transport that follows a script. -/
def transport : Transport Script := ⟨deliver⟩

end Script

/-! ### A transport that hands pages on -/

/-- The pages that wait to be sent, with the numbers of their sendings. -/
structure Outbox where
  waiting : List (Nat × Page) := []

/-- The transport that puts every page into an outbox. -/
def Outbox.transport : Transport Outbox :=
  ⟨fun o number page => (.held, [], ⟨o.waiting ++ [(number, page)]⟩)⟩

end FailureAlarm
