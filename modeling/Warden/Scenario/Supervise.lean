import Warden.Scenario.Launch

/-! Scenarios of one supervisor and the runs that it supervises one after another. -/

namespace Warden.Scenario

open Supervision

/-- One run: how often it is prepared, which context it uses, and what happens around it. -/
structure RunPlan where
  preparations : Nat := 1
  use : Option Nat := none
  before : Script := []
  actions : Script := []
  services : List Service := []
  after : Script := []
deriving Repr, Inhabited

/-- What one run shows. -/
structure RunReport where
  result : Except Answer (Option RunError)
  elapsed : Nat
  cause : Option Cause
  cancelled : List Bool
  trace : Trace

/-- The supervisor and the contexts of all runs so far. -/
structure Stage where
  supervisor : Supervisor
  contexts : List RunId := []

/-- Prepares a run as often as asked; the contexts are kept in order. -/
def prepareTimes : Nat → Stage → Flow Stage
  | 0, stage => return stage
  | count + 1, stage => do
    let (supervisor, run) ← Flow.prepare stage.supervisor
    prepareTimes count ⟨supervisor, stage.contexts ++ [run]⟩

/-- The contexts with a fresh one if there is none at all. -/
def orFresh (stage : Stage) : Flow Stage := do
  if stage.contexts.isEmpty then
    return { stage with contexts := [← Flow.answer (·.openRun)] }
  else return stage

/-- Plays one run and lets one more millisecond pass. -/
def playRun (plan : RunPlan) (stage : Stage) : Flow (RunReport × Stage) := do
  let beginning ← Flow.look (·.now)
  let before ← Flow.look (·.trace.length)
  let stage ← orFresh (← prepareTimes plan.preparations stage)
  -- A plan that names no context uses the last one.
  let last := stage.contexts.length - 1
  let run := (stage.contexts[plan.use.getD last]?).getD (stage.contexts.getLastD 0)
  playScript (mainActor run) plan.before
  let action ← Flow.spawnAction run plan.actions
  let result ← attemptValue (Flow.startServices stage.supervisor run (placed plan.services))
  let ending ← Flow.look (·.now)
  -- The script beside the run is cut off when the run ends.
  Flow.change (·.abort action)
  playScript (mainActor run) plan.after
  Flow.bounded (Flow.sleep 1)
  let w ← get
  let report : RunReport :=
    ⟨result, ending - beginning, w.cause? run, stage.contexts.map (w.isCancelled ·),
      w.trace.drop before⟩
  return (report, { stage with supervisor := stage.supervisor.spent })

/-- Plays runs one after another under one supervisor. -/
def playRuns : List RunPlan → Stage → Flow (List RunReport)
  | [], _ => return []
  | plan :: rest, stage => do
    let (report, stage) ← playRun plan stage
    return report :: (← playRuns rest stage)

/-- Plays the runs of one supervisor. -/
def superviseScenario (settings : Settings) (plans : List RunPlan) :
    Except Halt (List RunReport) × World :=
  (playRuns plans ⟨{ settings }, []⟩).run {}

end Warden.Scenario
