import Warden.Container.Run
import Warden.Scenario.Launch

/-! Scenarios of one container whose services are scripts. -/

namespace Warden.Scenario

open Supervision

/-- How services are built: perhaps after a cancellation, perhaps not at all; actions go on beside
them. -/
structure FactoryPlan where
  cancel : Option Cause := none
  fail : Option String := none
  services : List Service := []
  actions : Script := []
deriving Repr, Inhabited

/-- The factory that follows a plan. -/
def FactoryPlan.build (plan : FactoryPlan) : Factory := fun run config => do
  Flow.emit (.deed (.built config))
  if let some cause := plan.cancel then
    let _ ← Flow.answer (·.cancel .owner run cause)
  match plan.fail with
  | some error => return .error (.words error)
  | none =>
    let _ ← Flow.spawnAction run plan.actions
    return .ok plan.services

/-- How the run of a container came out, how long it took and what happened. -/
structure ContainerReport where
  outcome : Except Answer (Option RunOutcome)
  elapsed : Nat
  trace : Trace

/-- Follows a flow to its end and lets one more millisecond pass. -/
def containerFlow (flow : Flow (Option RunOutcome)) : Flow ContainerReport := do
  let outcome ← attemptValue flow
  let elapsed ← Flow.look (·.now)
  Flow.bounded (Flow.sleep 1)
  return ⟨outcome, elapsed, ← Flow.look (·.trace)⟩

/-- How a flow comes out in a fresh world. -/
def containerReport (flow : Flow (Option RunOutcome)) : Except Halt ContainerReport × World :=
  (containerFlow flow).run {}

/-- Runs a container. -/
def containerScenario (container : Container) (around : Surroundings) (plan : FactoryPlan) :
    Except Halt ContainerReport × World :=
  containerReport do return some (← container.run around plan.build)

/-- Runs the container of a name with the file that the environment names. -/
def namedScenario (name path : String) (around : Surroundings) (plan : FactoryPlan) :
    Except Halt ContainerReport × World :=
  containerReport do
    Container.runNamed name path around plan.build
    return none

end Warden.Scenario
