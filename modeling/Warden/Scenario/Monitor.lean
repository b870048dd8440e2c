import Warden.Service.ChainMonitor
import Warden.Supervision.Event

/-! Scenarios of one chain monitor and the run that it belongs to. -/

namespace Warden.Scenario

open Ethereum Service Supervision

/-- A step of a monitor scenario. -/
inductive MonitorOp
  | name
  | start
  | stop
  | cancel
  | poll (count : Nat)
deriving Repr, DecidableEq, Inhabited

/-- What a step of a monitor scenario answers. -/
inductive MonitorAnswer
  | name (name : String)
  | done
  | failed (message : String)
  | flag (value : Bool)
  | polls (health heads : List String)
deriving Repr, Inhabited

/-- A monitor with the cancellation of its run. -/
structure Watch where
  monitor : ChainMonitor
  run : CancelState := {}

/-- Lets a poller take its polls; they leave no entries in the log of the supervising flow. -/
def takePolls (network : Network) : Nat → ChainMonitor → Asking ChainMonitor
  | 0, monitor => return monitor
  | count + 1, monitor => do
    let entries := (← get).entries
    let monitor ← monitor.tick.finishPoll network monitor.client.providers.length
    modify fun s => { s with entries }
    takePolls network count monitor

/-- The values of the first polls: whether each reached the chain, and the heads of those that
did. -/
def firstPolls (count : Nat) (session : Session) : MonitorAnswer :=
  let health := (session.shown Reading.healthName).take count
  .polls health ((session.shown Reading.headName).take (health.count "1"))

/-- Takes one step and answers it. -/
def watchStep (network : Network) (watch : Watch) : MonitorOp → Asking (MonitorAnswer × Watch)
  | .name => return (.name ChainMonitor.name, watch)
  | .start => do
    match ← watch.monitor.start network with
    | (.ok (), monitor) => return (.done, { watch with monitor })
    | (.error e, monitor) => return (.failed e.message, { watch with monitor })
  | .stop => do
    match ← watch.monitor.stop network with
    | (.ok (), monitor) => return (.done, { watch with monitor })
    | (.error message, monitor) => return (.failed message, { watch with monitor })
  | .cancel => do
    let (first, run) := watch.run.cancel .requested
    unless first do note (Notice.cancelledAlready .requested).entry
    return (.flag first, ⟨watch.monitor.cancel, run⟩)
  | .poll count => do
    -- Polls that were taken before count as well.
    let taken := ((← get).shown Reading.healthName).length
    let monitor ← takePolls network (count - taken) watch.monitor
    return (firstPolls count (← get), { watch with monitor })

/-- Takes steps in order. -/
def watchSteps (network : Network) : List MonitorOp → Watch → Asking (List MonitorAnswer × Watch)
  | [], watch => return ([], watch)
  | op :: rest, watch => do
    let (answer, watch) ← watchStep network watch op
    let (answers, watch) ← watchSteps network rest watch
    return (answer :: answers, watch)

/-- Plays a scenario of the monitor that a configuration describes, if it describes one. -/
def monitorScenario (network : Network) (config : Config.Chain) (ops : List MonitorOp) :
    Except ChainError (List MonitorAnswer × Watch) × Session :=
  let (client, session) := (Client.open? config).run {}
  match client with
  | .error e => (.error e, session)
  | .ok client =>
    let (result, session) := (watchSteps network ops { monitor := { client } }).run session
    (.ok result, session)

end Warden.Scenario
