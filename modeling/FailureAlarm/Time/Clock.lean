import FailureAlarm.Time.Instant

/-!
# Settable clocks

A clock that shows one instant until it is set or advanced. An advance that leads out of the range
of instants fails, and the clock goes on showing what it showed.

The instant stands behind a lock, since a clock has many users. One who breaks off with the lock in hand
leaves it poisoned, which is told to all who ask for it later. Users of a clock do not mind: what stands
behind the lock is an instant in any case.
-/

namespace FailureAlarm

/-- A value behind a lock. The lock is poisoned once somebody has broken off with it in hand. -/
structure Guarded (α : Type) where
  value : α
  poisoned : Bool := false
deriving DecidableEq, Inhabited

namespace Guarded

variable {α β : Type}

/-- A value behind a new lock. -/
instance : Coe α (Guarded α) := ⟨fun value => { value }⟩

/-- Ask for the lock. If it has been poisoned, the value comes as an error. -/
def ask (g : Guarded α) : Except α α := if g.poisoned then .error g.value else .ok g.value

/-- The value, even if it comes as an error. -/
def insist : Except α α → α
  | .ok value => value
  | .error value => value

/-- Work on the value with the lock in hand, be it poisoned or not. The work leaves a value behind, and
has a result unless it breaks off. -/
def hold (g : Guarded α) (work : α → α × Option β) : Guarded α × Option β :=
  let (left, result) := work (insist g.ask)
  (⟨left, g.poisoned || result.isNone⟩, result)

end Guarded

/-- A clock that stands still between its settings. -/
structure ManualClock where
  shown : Guarded Instant
deriving DecidableEq, Inhabited

namespace ManualClock

/-- What can be done with a clock. -/
inductive Op where
  /-- Show this instant from now on. -/
  | set (t : Instant)
  /-- Move on by a signed number of nanoseconds. -/
  | advance (span : Int)
  | look
deriving DecidableEq

/-- What an operation answers if it does not fail. -/
inductive Reply where
  | done
  | shows (t : Instant)
deriving DecidableEq

/-- What is done with the lock in hand. An advance finds out where it leads before it changes the
instant, and breaks off if there is no such instant. -/
def Op.work : Op → Instant → Instant × Option Reply
  | set t, _ => (t, some .done)
  | advance span, now =>
    match now.shift? span with
    | some t => (t, some .done)
    | none => (now, none)
  | look, now => (now, some (.shows now))

/-- Do one thing with a clock. There is no reply if it fails. -/
def step (c : ManualClock) (op : Op) : ManualClock × Option Reply :=
  let (shown, reply) := c.shown.hold op.work
  (⟨shown⟩, reply)

/-- The instant behind the lock. -/
def now (c : ManualClock) : Instant := Guarded.insist c.shown.ask

/-- What one sees who looks at the clock. -/
def look (c : ManualClock) : Option Instant :=
  match (c.step .look).2 with
  | some (.shows t) => some t
  | _ => none

/-- The clock after it was set. -/
def set (c : ManualClock) (t : Instant) : ManualClock := (c.step (.set t)).1

/-- The clock after an advance, which may have failed. -/
def advance (c : ManualClock) (span : Int) : ManualClock := (c.step (.advance span)).1

/-- The clock after an advance, if it does not fail. -/
def advance? (c : ManualClock) (span : Int) : Option ManualClock :=
  (c.step (.advance span)).2.map fun _ => c.advance span

end ManualClock
end FailureAlarm
