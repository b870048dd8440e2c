import Warden.Supervision.Launch
import Warden.Supervision.Stop

/-!
The supervisor: it prepares a run, starts its services, waits for its end and stops what it started.
-/

namespace Warden.Supervision

/-- How a supervisor behaves. -/
structure Settings where
  /-- How long each service may take to start. -/
  startupTimeout : Duration := .ofSecs 60
  /-- How long each service may take to stop. -/
  stopTimeout : Duration := .ofSecs 30
  /-- Whether the signals of the system are forwarded. -/
  osSignals : Bool := true
  /-- What is done with a second signal. -/
  escalation : Escalation := .forceExit
deriving Repr, DecidableEq, Inhabited

/-- The behaviour that a configuration asks for. -/
def Settings.ofConfig (c : Config.Supervision) : Settings where
  startupTimeout := .ofSecs c.startupTimeoutSecs.toNat
  stopTimeout := .ofSecs c.stopTimeoutSecs.toNat
  osSignals := true
  escalation := if c.forceExitOnSecondSignal then .forceExit else .ignore

/-- A supervisor with the group of the run that it has prepared and the listener of the last one. -/
structure Supervisor where
  settings : Settings := {}
  /-- The prepared run's group, until it is used. -/
  group : Option GroupId := none
  /-- The listener that the next preparation replaces. -/
  listener : Option TaskId := none
deriving Repr, DecidableEq, Inhabited

/-- The message when services are to be started in a run that was not prepared. -/
def notPrepared : String := "initialize must be called before start_services"

/-- The task that ends with the cause of a run once it is cancelled. -/
def watcherTask (run : RunId) : Task :=
  ⟨.watcher, ⟨"", run, some run⟩, [], .fresh, none, false⟩

namespace Flow

/-- Begins to forward the signals of the system into the channel, if that is wanted, once. -/
def forwardSignals (wanted : Bool) : Flow Unit := do
  -- The process forwards its signals once, whatever number of supervisors asks for it.
  if wanted && (← look (·.forwarder)).isNone then
    let id ← answer (·.spawn ⟨.forwarder, ⟨"", 0, none⟩, [], .fresh, none, false⟩)
    change fun w => { w with forwarder := some id }

/-- Arms a listener for a run. -/
def arm (run : RunId) (policy : Escalation) : Flow TaskId :=
  answer (·.spawn ⟨.listener policy, ⟨"", run, none⟩, [], .fresh, none, false⟩)

/-- Prepares a run: a fresh context, a new listener in place of the last one, and an empty group. -/
def prepare (supervisor : Supervisor) : Flow (Supervisor × RunId) := do
  let run ← answer (·.openRun)
  forwardSignals supervisor.settings.osSignals
  let listener ← arm run supervisor.settings.escalation
  -- The new listener stands in line before the old one is asked to end.
  change fun w => supervisor.listener.elim w fun stale => w.abort stale
  change fun w => supervisor.group.elim w fun unused => w.dropGroup unused
  let group ← answer (·.openGroup run)
  notice .runPrepared
  return ({ supervisor with group := some group, listener := some listener }, run)

/-- Prepares a run, unless the system refuses to forward its signals when that is asked of it. -/
def tryPrepare (refusal : Option String) (supervisor : Supervisor) :
    Flow (Except String (Supervisor × RunId)) := do
  -- A system that forwards already is not asked again and has nothing to refuse.
  let asked ← look fun w => supervisor.settings.osSignals && w.forwarder.isNone
  match refusal.filter fun _ => asked with
  | some fault =>
    let _ ← answer (·.openRun)
    return .error fault
  | none => return .ok (← prepare supervisor)

/-- Notices the error with which a run ended, if it ended with one. -/
def noticeEnd (result : Option RunError) : Flow Unit := do
  if let some error := result then notice (.runEnded error)

/-- Watches a run, starts its services in order, waits for its end and stops what was started. -/
def supervise (settings : Settings) (group : GroupId) (run : RunId) (services : List Placed) :
    Flow (Option RunError) := do
  let _ ← answer (·.spawnAwaited group (watcherTask run))
  -- What an earlier run left on the stack is none of this run's.
  change fun w => { w with started := [] }
  startAll group run settings.startupTimeout services
  notice (.waiting (← look (·.started.length)))
  let result ← waitGroup group
  noticeEnd result
  stopAll run settings.stopTimeout
  return result

/-- Supervises services in the run that was prepared; its group is dropped however this ends. -/
def startServices (supervisor : Supervisor) (run : RunId) (services : List Placed) :
    Flow (Option RunError) := do
  match supervisor.group with
  | none => throw (.panicked notPrepared)
  | some group =>
    -- A group that goes out of scope takes its tasks with it, also when a panic unwinds the flow.
    tryCatch (supervise supervisor.settings group run services) fun halt => do
      change (·.dropGroup group)
      throw halt

/-- Sets a script going on a task of its own beside the services of a run. -/
def spawnAction (run : RunId) (script : Script) : Flow TaskId :=
  answer (·.spawn ⟨.action, ⟨"action", run, none⟩, script, .fresh, none, false⟩)

end Flow

/-- The supervisor after it has supervised a run: the next one has to be prepared again. -/
def Supervisor.spent (supervisor : Supervisor) : Supervisor :=
  { supervisor with group := none }

end Warden.Supervision
