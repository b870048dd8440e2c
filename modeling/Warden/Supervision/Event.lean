import Warden.Ethereum.Network
import Warden.Supervision.Actor
import Warden.Supervision.Script

/-! What a run leaves behind: deeds of scripts, log notices, counts and gauges, in order of time. -/

namespace Warden.Supervision

/-- How the launch of a service came out. -/
inductive Launched
  | started
  | failed
  | timedOut
deriving Repr, DecidableEq, Inhabited

namespace Launched

/-- The outcomes of a launch. -/
def all : List Launched := [.started, .failed, .timedOut]

/-- An outcome as a metric label. -/
def label : Launched → String
  | .started => "started"
  | .failed => "failed"
  | .timedOut => "timed_out"

/-- An outcome as reports spell it. -/
def text : Launched → String
  | .started => "Started"
  | .failed => "Failed"
  | .timedOut => "TimedOut"

end Launched

/-- An act of a scripted service or task. -/
inductive Deed
  | start (service : Placed)
  | up (service : Placed)
  /-- A start has returned an error. -/
  | startFailed (service : Placed)
  | stop (service : Placed)
  | down (service : Placed)
  /-- A stop has returned an error. -/
  | stopFailed (service : Placed)
  | noted (who text : String)
  | cancelled (who : String) (first : Bool)
  | sawCancel (who : String)
  | sent (who : String)
  | tried (who : String) (accepted : Bool)
  /-- The identifier of its run was asked for. -/
  | probed (party : Party) (actor : Actor)
  /-- The hook for a further signal was called. -/
  | escalated (signal : Signal)
  | built (config : Config)
deriving Repr, DecidableEq, Inhabited

/-- A deed as journals spell it. -/
def Deed.text : Deed → String
  | .start p => "start:" ++ p.name
  | .up p => "up:" ++ p.name
  | .startFailed p => "failed:" ++ p.name
  | .stop p => "stop:" ++ p.name
  | .down p => "down:" ++ p.name
  | .stopFailed p => "stop_failed:" ++ p.name
  | .noted who text => who ++ ":" ++ text
  | .cancelled who first => who ++ ":cancel:" ++ Text.truth first
  | .sawCancel who => who ++ ":saw_cancel"
  | .sent who => who ++ ":signal:true"
  | .tried who accepted => who ++ ":try_signal:" ++ Text.truth accepted
  | .probed _ actor => actor.who ++ ":exec_id:" ++ actor.identifier
  | .escalated s => "escalate:" ++ s.name
  | .built _ => "factory"

/-- What the supervisor writes to the log. -/
inductive Notice
  | cancelledAlready (cause : Cause)
  | signalReceived (signal : Signal)
  | forcingExit (signal : Signal)
  | signalIgnored (signal : Signal)
  | signalEscalated (signal : Signal)
  | furtherError (error : RunError)
  | abandoning (service : String)
  | serviceStarted (service : Placed)
  | lateStart (service : Placed)
  | startFailed (service : Placed) (error : String)
  | startPanicked (service : Placed)
  | startTimedOut (service : Placed) (timeout : Duration)
  | serviceStopped (service : Placed)
  | stopFailed (service : Placed) (error : String)
  | stopTimedOut (service : Placed) (timeout : Duration)
  | runPrepared
  | contextDone (cause : Cause)
  | waiting (running : Nat)
  | runEnded (error : RunError)
  | other (entry : Log.Entry)
deriving Repr, DecidableEq, Inhabited

/-- The identifier of a run is random, so that entries show this in its place. -/
def runIdentifier : String := "<exec_id>"

/-- What is written for a notice: its module, level, message and fields. -/
def Notice.entry : Notice → Log.Entry
  -- A second cancellation is worth no more than a line for those who look for one.
  | .cancelledAlready cause => ⟨.context, .debug, "run already cancelled", [("cause", cause.label)]⟩
  | .signalReceived signal => ⟨.signals, .info, "received signal", [("signal", signal.name)]⟩
  | .forcingExit signal =>
    ⟨.signals, .warn, "second signal received, forcing exit", [("signal", signal.name)]⟩
  | .signalIgnored signal =>
    ⟨.signals, .warn, "second signal received, shutdown already in progress",
      [("signal", signal.name)]⟩
  | .signalEscalated signal =>
    ⟨.signals, .warn, "second signal received, escalating", [("signal", signal.name)]⟩
  | .furtherError error =>
    ⟨.group, .warn, "additional supervised task error", [("error", error.text)]⟩
  | .abandoning service =>
    ⟨.group, .warn, "abandoning unfinished start task", [("service", service)]⟩
  | .serviceStarted service => ⟨.startup, .info, "service started", [("service", service.name)]⟩
  | .lateStart service =>
    ⟨.startup, .warn, "service started after its deadline, ignoring", [("service", service.name)]⟩
  | .startFailed service error =>
    ⟨.startup, .error, "failed to start service", [("service", service.name), ("error", error)]⟩
  | .startPanicked service =>
    ⟨.startup, .error, "service start task panicked", [("service", service.name)]⟩
  | .startTimedOut service timeout =>
    ⟨.startup, .error, "service did not start in time",
      [("service", service.name), ("timeout", timeout.text)]⟩
  | .serviceStopped service => ⟨.shutdown, .info, "service stopped", [("service", service.name)]⟩
  | .stopFailed service error =>
    ⟨.shutdown, .error, "error while stopping", [("service", service.name), ("error", error)]⟩
  | .stopTimedOut service timeout =>
    ⟨.shutdown, .error, "service stop timed out",
      [("service", service.name), ("timeout", timeout.text)]⟩
  | .runPrepared =>
    ⟨.supervisor, .info, "execution context initialized", [("exec_id", runIdentifier)]⟩
  | .contextDone cause => ⟨.supervisor, .info, "context is done", [("cause", cause.text)]⟩
  | .waiting running =>
    ⟨.supervisor, .info, "waiting for supervised tasks", [("running", toString running)]⟩
  | .runEnded error =>
    ⟨.supervisor, .error, "supervised run ended with error", [("error", error.text)]⟩
  -- An entry that does not come from the supervision is written as it is.
  | .other entry => entry

/-- Whether an entry was written by the flow that supervises or by a task beside it. -/
inductive Origin
  | main
  | task
deriving Repr, DecidableEq, Inhabited

/-- Who asks for a cancellation: code on the supervising flow, a script on a task, a start that
failed, the listener of a run, the launcher or the group. -/
inductive Caller
  | owner
  | script
  | start
  | listener
  | launcher
  | group
deriving Repr, DecidableEq, Inhabited

/-- Where the call of a cancellation is noticed. -/
def Caller.origin : Caller → Origin
  | .owner | .launcher | .group => .main
  | .script | .start | .listener => .task

/-- What is counted. -/
inductive Count
  | start (service : Placed) (outcome : Launched)
  | stop (service : Placed) (ok : Bool)
  | cancellation (run : RunId) (cause : Cause)
deriving Repr, DecidableEq, Inhabited

namespace Count

/-- The name of a counter. -/
def name : Count → String
  | .start _ _ => "supervisor_service_starts_total"
  | .stop _ _ => "supervisor_service_stops_total"
  | .cancellation _ _ => "supervisor_cancellations_total"

/-- The labels of a counter, in the order of their names. -/
def labels : Count → List (String × String)
  | .start service outcome => [("outcome", outcome.label), ("service", service.name)]
  -- A stop that has failed counts like one that has not ended in time.
  | .stop service ok => [("outcome", if ok then "ok" else "error"), ("service", service.name)]
  | .cancellation _ cause => [("cause", cause.label)]

end Count

/-- One thing that happened. -/
inductive Event
  /-- What a script or a service does. -/
  | deed (deed : Deed)
  | notice (origin : Origin) (notice : Notice)
  /-- A counter went up. -/
  | count (count : Count)
  /-- A start was put on its task. -/
  | launched (service : Placed)
  /-- A cancellation was asked for, by whichever caller and whether or not it was the first. -/
  | cancelCall (caller : Caller) (run : RunId) (cause : Cause)
  /-- The gauge of running services was set. -/
  | running (services : Nat)
  /-- A start that had begun was dropped. -/
  | abandoned (service : Placed)
  /-- A signal was put into the channel. -/
  | accepted (signal : Signal)
  /-- A listener took a signal. -/
  | handled (listener : Nat) (signal : Signal)
  /-- The log level was set. -/
  | levelSet (level : Log.Level)
  /-- A question was put to a server. -/
  | asked (attempt : Ethereum.Attempt)
  /-- A value was shown. -/
  | shown (reading : Ethereum.Reading)
deriving Repr, DecidableEq, Inhabited

/-- What happened and when, in milliseconds. -/
structure Stamped where
  time : Nat
  event : Event
deriving Repr, DecidableEq, Inhabited

/-- Everything that happened, in order. -/
abbrev Trace := List Stamped

/-- The name under which the number of running services is shown. -/
def runningGauge : String := "supervisor_services_running"

end Warden.Supervision
