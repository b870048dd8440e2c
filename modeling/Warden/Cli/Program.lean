import Warden.Cli.Message
import Warden.Container.Run
import Warden.Log.Directive
import Warden.Service.ChainMonitor
import Warden.Service.HealthEndpoint

/-!
The program: one container with the health endpoint and the chain monitor, and the log that it
prints.
-/

namespace Warden.Cli

open Supervision

/-- What surrounds the program: variables of the environment, files and the machine. -/
structure Environment where
  configPath : Option String := none
  logDirectives : Option String := none
  files : String → Except Config.FileFault String
  machine : Net.Machine

/-- What the program leaves behind; it has no exit code while it waits for a signal. -/
structure Report where
  exitCode : Option Nat := some 0
  output : String := ""
  errors : String := ""
deriving Repr, DecidableEq

/-- The exit code of wrong arguments. -/
def usageCode : Nat := 2

/-- The exit code of a program that panics. -/
def panicCode : Nat := 101

/-- The health endpoint as a service: what it logs, and whether it can listen. -/
def healthService (machine : Net.Machine) (config : Config.Health) (container : String) : Service :=
  let endpoint : Service.HealthEndpoint := { config, container }
  match endpoint.start machine with
  | .error e => { name := Service.HealthEndpoint.name, start := [.fail e.message] }
  | .ok (entry, endpoint) =>
    { name := Service.HealthEndpoint.name, start := [.log entry]
      stop := endpoint.stop.1.toList.map .log }

/-- The chain monitor as a service. The program reaches no server here, so that the start finds none
and there is nothing to poll or to stop; `Warden.Service.ChainMonitor` has all of it. -/
def monitorService (client : Ethereum.Client) : Service :=
  let monitor : Service.ChainMonitor := { client }
  let ((result, _), session) := (monitor.start Ethereum.sealed).run {}
  let fault := match result with
    | .error e => [Step.fail e.message]
    | .ok () => []
  { name := Service.ChainMonitor.name, start := session.entries.map .log ++ fault }

/-- The chain monitor, if it is switched on; only a bad locator keeps it from being built. -/
def monitorServices (config : Config.Chain) : Flow (Except BuildError (List Service)) := do
  if config.enabled then
    match ← Flow.asking (Ethereum.Client.open? config) with
    | .error e => return .error (.chain e)
    | .ok client => return .ok [monitorService client]
  else return .ok []

/-- Builds the services that are switched on; a script goes on beside them. -/
def factory (machine : Net.Machine) (container : String) (beside : Script) : Factory :=
  fun run config => do
    let health :=
      if config.health.enabled then [healthService machine config.health container] else []
    match ← monitorServices config.chain with
    | .error e => return .error e
    | .ok monitor =>
      let _ ← Flow.spawnAction run beside
      return .ok (health ++ monitor)

/-- The first entry of the program. -/
def starting (name : String) : Log.Entry :=
  ⟨.program, .info, name ++ " v" ++ programVersion ++ " starting", []⟩

/-- The entry of a container that is refused before anything starts. -/
def exited (refusal : Refusal) : Log.Entry :=
  ⟨.program, .warn, "container exited before supervising services", [("outcome", refusal.text)]⟩

/-- Runs the container that was ordered. It reaches no server here either, so that no contracts are
found; `Warden.Container.run` takes any network. -/
def container (order : Order) (env : Environment) (beside : Script) : Flow Unit := do
  Flow.write (starting order.name)
  let container : Container := { name := order.name, source := .file order.path, logHandle := true }
  let around : Surroundings :=
    { files := env.files, network := Ethereum.sealed, machine := env.machine }
  if let .refused refusal ← container.run around (factory env.machine order.name beside) then
    Flow.write (exited refusal)

/-- How the container's run ends and what happened in it. -/
def runContainer (order : Order) (env : Environment) (beside : Script) :
    Except Halt Unit × Trace :=
  let (ending, world) := (Flow.bounded (container order env beside)).run {}
  (ending, world.trace)

/-- When the program began to wait for what it supervises. -/
def waitingSince? (trace : Trace) : Option Nat :=
  trace.findSome? fun stamped =>
    match stamped.event with
    | .notice _ (.waiting _) => some stamped.time
    | _ => none

/-- Runs the container; the signal comes as soon as it waits for what it supervises. -/
def runSignalled (order : Order) (env : Environment) (signal : Option Signal) :
    Except Halt Unit × Trace :=
  -- The first pass tells when the program begins to wait, and the second raises the signal a
  -- millisecond later.
  let quiet := runContainer order env []
  match signal, waitingSince? quiet.2 with
  | some s, some time => runContainer order env [.sleep (time + 1), .raise s]
  | _, _ => quiet

/-- The lines of the log that directives let through; a level that is set takes the place of them
all. -/
def lines : Log.Directives → Trace → List String
  | _, [] => []
  | directives, stamped :: rest =>
    match stamped.event with
    | .levelSet level => lines (.upTo level) rest
    | .notice _ notice =>
      if directives.allow notice.entry then notice.entry.line :: lines directives rest
      else lines directives rest
    | _ => lines directives rest

/-- What a run leaves behind besides its log. -/
def closing : Except Halt Unit → Option Nat × String
  | .ok () => (some 0, "")
  | .error (.exited code) => (some code, "")
  | .error (.panicked message) => (some panicCode, message ++ "\n")
  | .error .stuck => (none, "")

/-- Runs the program. -/
def run (env : Environment) (signal : Option Signal) (arguments : List String) : Report :=
  match order env.configPath arguments with
  | .error .help => { output := helpText env.configPath }
  | .error .version => { output := versionText }
  | .error (.fault fault) => { exitCode := some usageCode, errors := fault.text }
  | .ok order =>
    let (ending, trace) := runSignalled order env signal
    let (exitCode, errors) := closing ending
    let shown := lines (.ofEnvironment env.logDirectives) trace
    { exitCode, errors, output := String.join (shown.map (· ++ "\n")) }

end Warden.Cli
