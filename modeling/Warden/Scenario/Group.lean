import Warden.Scenario.Answer
import Warden.Text.Record

/-! Scenarios of one group of tasks. -/

namespace Warden.Scenario

open Supervision

/-- A step of a group scenario. -/
inductive GroupOp
  | spawn (script : Script)
  | detach (name : String) (script : Script)
  | size
  | text
  | wait
  | cause
  | step (step : Step)
deriving Repr, Inhabited

/-- A group as records show it. -/
def groupText (w : World) : String :=
  Text.record "ProcessGroup" [
    ("tasks", toString (w.awaited 0).length),
    ("detached", toString (w.detached 0).length)]

/-- Takes one step and answers it; a task is named by the number of the step that added it. -/
def groupStep (index : Nat) : GroupOp → Flow Answer
  | .spawn script => do
    let actor : Actor := ⟨"task" ++ toString index, 0, none⟩
    let _ ← Flow.answer (·.spawnAwaited 0 ⟨.member, actor, script, .fresh, none, false⟩)
    return .nothing
  | .detach name script => do
    let actor : Actor := ⟨"task" ++ toString index, 0, none⟩
    let _ ← Flow.answer (·.spawnDetached 0 name ⟨.action, actor, script, .fresh, none, false⟩)
    return .nothing
  | .size => return .size (← Flow.look (·.awaited 0)).length
  | .text => return .text (← Flow.look groupText)
  | .wait => return .result (← Flow.waitGroup 0)
  | .cause => return .cause (← Flow.look (·.cause? 0))
  | .step step => playStep (mainActor 0) step

/-- Plays a group scenario and lets one more millisecond pass. -/
def groupScenario (ops : List GroupOp) : Except Halt (List Answered) × World :=
  play do
    let answers ← answerAll groupStep 0 ops
    Flow.bounded (Flow.sleep 1)
    return answers

end Warden.Scenario
