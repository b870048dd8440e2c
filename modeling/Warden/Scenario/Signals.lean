import Warden.Scenario.Answer

/-! Scenarios of one signal channel and the listeners armed at it. -/

namespace Warden.Scenario

open Supervision

/-- A step of a signal scenario; listeners are named by the order in which they were armed. -/
inductive SignalOp
  | arm (policy : Escalation)
  | abort (listener : Nat)
  | send (signal : Signal)
  | cancel (listener : Nat) (cause : Cause)
  | state (listener : Nat)
  | sleep (millis : Nat)
deriving Repr, Inhabited

/-- Sends a signal if the channel has room for it. -/
def trySend (signal : Signal) (w : World) : Bool × World :=
  if w.channel.slot = .free then (true, w.deliver signal) else (false, w)

/-- In a signal scenario every listener has the task and the run of its own number. -/
def signalStep (_ : Nat) : SignalOp → Flow Answer
  | .arm policy => do
    let run ← Flow.answer (·.openRun)
    let _ ← Flow.arm run policy
    return .index run
  | .abort listener => do
    Flow.change (·.abort listener)
    return .nothing
  | .send signal => return .flag (← Flow.answer (trySend signal))
  | .cancel listener cause => return .flag (← Flow.answer (·.cancel .owner listener cause))
  | .state listener => do
    let cause ← Flow.look (·.cause? listener)
    return .listener cause (← Flow.look (·.isEnded listener))
  | .sleep millis => do
    Flow.sleep millis
    return .nothing

/-- Plays a signal scenario. -/
def signalScenario (ops : List SignalOp) : Except Halt (List Answered) × World :=
  (answerAll signalStep 0 ops).run {}

end Warden.Scenario
