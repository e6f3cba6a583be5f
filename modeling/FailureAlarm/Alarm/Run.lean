import FailureAlarm.Alarm.Watch

/-!
# Runs

A run is a sequence of steps. What happens at once in the service is one step here: the part of a
call that holds the store, the end of one sending, the firing of one timer. Calls that overlap are
thereby runs in which the ends of their sendings come later, in any order; every interleaving of the
service is a run, and every reading of the clock is given with the step that takes it.
-/

namespace FailureAlarm
namespace Alarm

/-- A step of a run. -/
inductive Op where
  | record (reading : Reading) (notification : Notification)
  | retained (reading : Reading)
  | dispatch (message : String) (details : Details)
  | watch (request : Request)
  /-- A request ends. -/
  | release (id : RequestId)
  /-- Time passes without any timer firing on the way. -/
  | pass (duration : Duration)
  /-- The first timer that has come due fires. -/
  | fire
  | complete (number : Nat) (result : Except PagingError Unit)

/-- What a step answers. -/
inductive Reply where
  | record (progress : Progress (Except AlarmError Outcome))
  | retained (progress : Progress (Except AlarmError Nat))
  | dispatch (progress : Progress (Except PagingError Unit))
  | complete (answer : Option Answer)
  | silent

/-- Take one step. -/
def step (a : Alarm) (s : State) : Op → State × Reply × Effects
  | .record reading n =>
    let (s, p, e) := a.record reading n s
    (s, .record p, e)
  | .retained reading =>
    let (s, p, e) := a.retained reading s
    (s, .retained p, e)
  | .dispatch message details =>
    let (s, p, e) := a.dispatch message details s
    (s, .dispatch p, e)
  | .watch r =>
    let (s, e) := a.watch true r s
    (s, .silent, e)
  | .release id => (release id s, .silent, {})
  | .pass d => (pass d s, .silent, {})
  | .fire =>
    match a.fire s with
    | some (s, e) => (s, .silent, e)
    | none => (s, .silent, {})
  | .complete number result =>
    let (s, answer, e) := s.complete number result
    (s, .complete answer, e)

/-- Take the steps of a run one after the other: the last state, and what each step answered and
handed out. -/
def run (a : Alarm) (s : State) : List Op → State × List (Reply × Effects)
  | [] => (s, [])
  | op :: ops =>
    let (s, reply) := a.step s op
    let (s, replies) := a.run s ops
    (s, reply :: replies)

end Alarm
end FailureAlarm
