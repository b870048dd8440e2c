import Warden.Service.HealthEndpoint
import Warden.Supervision.Event

/-! Scenarios of one health endpoint and the run that it belongs to. -/

namespace Warden.Scenario

open Service Supervision

/-- A step of a health scenario. -/
inductive HealthOp
  | name
  | start
  | stop
  | cancel
  | address
  | startSecond
  | get (method target : String)
deriving Repr, DecidableEq, Inhabited

/-- What a step of a health scenario answers. -/
inductive HealthAnswer
  | name (name : String)
  | done
  | failed (message : String)
  | flag (value : Bool)
  | address (address : Option Net.SocketAddress)
  | nothing
  | response (response : Response)
  | refused
deriving Repr, Inhabited

/-- An endpoint with the cancellation of its run and what was logged. -/
structure HealthStage where
  endpoint : HealthEndpoint
  run : CancelState := {}
  entries : List Log.Entry := []
deriving Repr

/-- Adds an entry to what was logged. -/
def HealthStage.log (stage : HealthStage) (entry : Log.Entry) : HealthStage :=
  { stage with entries := stage.entries ++ [entry] }

/-- Starts one more endpoint at an address that is taken. -/
def startAt (machine : Net.Machine) (address : Net.SocketAddress) (stage : HealthStage) :
    HealthAnswer × HealthStage :=
  let second : HealthEndpoint :=
    { stage.endpoint with config := { stage.endpoint.config with bindAddress := address.text } }
  match second.start machine with
  | .ok (entry, _) => (.done, stage.log entry)
  | .error e => (.failed e.message, stage)

/-- Takes one step and answers it. -/
def healthStep (machine : Net.Machine) (stage : HealthStage) : HealthOp → HealthAnswer × HealthStage
  | .name => (.name HealthEndpoint.name, stage)
  | .start =>
    match stage.endpoint.start machine with
    | .ok (entry, endpoint) => (.done, { stage.log entry with endpoint })
    | .error e => (.failed e.message, stage)
  | .stop =>
    let (entry, endpoint) := stage.endpoint.stop
    (.done, { entry.elim stage stage.log with endpoint })
  | .cancel =>
    let (first, run) := stage.run.cancel .requested
    let stage := { stage with run, endpoint := stage.endpoint.cancel }
    (.flag first, if first then stage else stage.log (Notice.cancelledAlready .requested).entry)
  | .address => (.address stage.endpoint.address, stage)
  | .startSecond =>
    match stage.endpoint.address with
    | none => (.nothing, stage)
    | some address => startAt machine address stage
  | .get method target =>
    if machine.reachable && stage.endpoint.isServing then
      (.response (stage.endpoint.answer runIdentifier method target), stage)
    else (.refused, stage)

/-- Takes steps in order. -/
def healthSteps (machine : Net.Machine) : List HealthOp → HealthStage →
    List HealthAnswer × HealthStage
  | [], stage => ([], stage)
  | op :: rest, stage =>
    let (answer, stage) := healthStep machine stage op
    let (answers, stage) := healthSteps machine rest stage
    (answer :: answers, stage)

/-- Plays a scenario of the endpoint that a configuration describes. -/
def healthScenario (machine : Net.Machine) (config : Config.Health) (container : String)
    (ops : List HealthOp) : List HealthAnswer × HealthStage :=
  healthSteps machine ops { endpoint := { config, container } }

end Warden.Scenario
