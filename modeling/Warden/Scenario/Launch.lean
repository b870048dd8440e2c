import Warden.Scenario.Group

/-! Scenarios of launching services, one by one or all in a row. -/

namespace Warden.Scenario

open Supervision

/-- A launch scenario; deadlines are in milliseconds, and the first one serves where none is
given. -/
structure LaunchPlan where
  services : List Service := []
  deadlines : List Nat := []
  all : Bool := false
  before : Script := []
  actions : Script := []
deriving Repr, Inhabited

/-- How one launch came out, when, and whether the run was cancelled then. -/
structure LaunchReport where
  outcome : Except Answer Launched
  time : Nat
  cancelled : Bool

/-- What a launch scenario shows. -/
structure LaunchOutcome where
  launches : List LaunchReport
  started : Option (Except Answer (List String))
  group : String
  wait : Answer

/-- The deadline of the service at a place; a minute if none is given at all. -/
def LaunchPlan.deadline (plan : LaunchPlan) (position : Nat) : Duration :=
  .ofMillis (plan.deadlines[position]?.getD (plan.deadlines.head?.getD 60000))

/-- Gives a flow its patience; a panic or a wait without end becomes an answer in place of its
value. -/
def attemptValue {α : Type} (flow : Flow α) : Flow (Except Answer α) :=
  tryCatch (do return .ok (← Flow.bounded flow)) fun halt =>
    match halt with
    | .panicked message => return .error (.panicked message)
    | .stuck => return .error .stuck
    | .exited code => throw (.exited code)

/-- Launches services one after another, whatever became of those before. -/
def launchEach (plan : LaunchPlan) : List Placed → Flow (List LaunchReport)
  | [] => return []
  | service :: rest => do
    let outcome ← attemptValue (Flow.launch 0 0 service (plan.deadline service.position))
    let report : LaunchReport :=
      ⟨outcome, ← Flow.look (·.now), ← Flow.look (·.isCancelled 0)⟩
    return report :: (← launchEach plan rest)

/-- Plays a launch scenario, waits for the group and lets one more millisecond pass. -/
def launchScenario (plan : LaunchPlan) : Except Halt LaunchOutcome × World :=
  play do
    playScript (mainActor 0) plan.before
    let _ ← Flow.spawnAction 0 plan.actions
    let services := placed plan.services
    let launches ← if plan.all then pure [] else launchEach plan services
    let started ←
      if plan.all then
        some <$> attemptValue do
          Flow.startAll 0 0 (plan.deadline 0) services
          Flow.look startedNames
      else pure none
    let group ← Flow.look groupText
    let wait ← attempt (return .result (← Flow.waitGroup 0))
    Flow.bounded (Flow.sleep 1)
    return ⟨launches, started, group, wait⟩

end Warden.Scenario
