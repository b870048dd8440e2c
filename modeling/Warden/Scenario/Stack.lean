import Warden.Scenario.Answer

/-! Scenarios of the services that have started. -/

namespace Warden.Scenario

open Supervision

/-- A step of a scenario of started services. -/
inductive StackOp
  | push (service : Service)
  | names
  | size
  | text
  | stopAll (millis : Nat)
  | step (step : Step)
deriving Repr, Inhabited

/-- Takes one step and answers it; a service is known by the number of the step that started it. -/
def stackStep (index : Nat) : StackOp → Flow Answer
  | .push service => do
    Flow.keepStarted ⟨index, service⟩
    return .nothing
  | .names => return .names (← Flow.look startedNames)
  | .size => return .size (← Flow.look (·.started.length))
  | .text => return .text (Text.quotedList (← Flow.look startedNames))
  | .stopAll millis => do
    Flow.stopAll 0 (.ofMillis millis)
    return .result none
  | .step step => playStep (mainActor 0) step

/-- Plays a scenario of started services. -/
def stackScenario (ops : List StackOp) : Except Halt (List Answered) × World :=
  play (answerAll stackStep 0 ops)

end Warden.Scenario
