import Warden.Container.Basic
import Warden.Ethereum.Contracts
import Warden.Supervision.Trace

/-!
Running a container: configuration, contracts, log level and metrics first, then its services.
-/

namespace Warden

open Supervision

namespace Supervision.Flow

/-- Writes entries of the supervising flow to the log. -/
def writeAll (entries : List Log.Entry) : Flow Unit :=
  change (·.emitAll (entries.map fun entry => .notice .main (.other entry)))

/-- Writes one entry. -/
def write (entry : Log.Entry) : Flow Unit :=
  writeAll [entry]

/-- Asks servers as part of the supervising flow; all that was asked before counts as history. -/
def asking {α : Type} (asking : Ethereum.Asking α) : Flow α := do
  -- What servers answer may depend on all that was asked, hence also before this.
  let history ← look (·.trace.attempts)
  let (a, session) := asking.run { attempts := history }
  change (·.emitAll ((session.attempts.drop history.length).map .asked ++
    session.readings.map .shown))
  writeAll session.entries
  return a

end Supervision.Flow

namespace Container

/-- The configuration, held to the rules wherever it comes from. -/
def loadConfig (c : Container) (files : String → Except Config.FileFault String) :
    Except Config.Failure Config :=
  match c.source with
  | .file path => Config.load path (files path)
  | .value config =>
    match config.validate with
    | .ok () => .ok config
    | .error broken => .error (.invalid broken)

/-- No configuration could be had. -/
def configRefused (name : String) (failure : Config.Failure) : Log.Entry :=
  ⟨.container, .error, "could not get config for container",
    [("container", name), ("error", failure.message)]⟩

/-- No contracts are looked for. -/
def contractsSkipped : Log.Entry :=
  ⟨.container, .info, "ENS registry not configured, skipping contract resolution", []⟩

/-- The contracts could not be found. -/
def contractsFailed (error : Ethereum.ChainError) : Log.Entry :=
  ⟨.container, .error, "could not initialize contracts for config", [("error", error.message)]⟩

/-- What a search for the contracts gives; without a registry nothing is searched. -/
def findContracts (c : Container) (network : Ethereum.Network) (ens : Config.Ens) :
    Flow (Option (Except Ethereum.ChainError Ethereum.Contracts)) := do
  match c.contracts with
  | some found => return some found
  | none =>
    -- An empty address switches the search off, before anything else of the section is looked at.
    if ens.contractAddress.isEmpty then return none
    match Ethereum.Resolver.open? ens with
    | .error e => return some (.error e)
    | .ok resolver => return some (← Flow.asking (resolver.contracts network))

/-- Writes the contracts into the configuration if they are found; a failure is logged and that is
all. -/
def resolveContracts (c : Container) (network : Ethereum.Network) (config : Config) :
    Flow Config := do
  match ← c.findContracts network config.ens with
  | none =>
    Flow.write contractsSkipped
    return config
  | some found =>
    let (result, config) ← Flow.asking (config.settleContracts found)
    -- A search that has failed is no reason to stop: the run goes on with what was configured.
    if let .error e := result then Flow.write (contractsFailed e)
    return config

/-- Applies the level of the log if the container may; a name of no level is given back. -/
def applyLevel (c : Container) (name : String) : Flow (Except String Unit) := do
  match Log.Level.parse? name with
  | none => return .error name
  | some level =>
    -- The level is checked in any case, and set only where the container holds the handle of the
    -- log.
    if c.logHandle then Flow.emit (.levelSet level)
    return .ok ()

/-- The level is none. -/
def levelRefused (name : String) : Log.Entry :=
  ⟨.container, .error, "could not initialize log level", [("error", Log.invalidLevel name)]⟩

/-- The metrics can be had. -/
def metricsListening (address : Net.SocketAddress) : Log.Entry :=
  ⟨.metrics, .info, "Metrics exporter listening", [("address", address.text)]⟩

/-- The machine grants no address to the metrics. -/
def metricsRefused (error : Net.ListenError) : Log.Entry :=
  ⟨.metrics, .error, "Failed to install metrics exporter",
    [("error", "failed to create HTTP listener: " ++ error.message)]⟩

/-- The address of the metrics is none. -/
def metricsUnreadable (text : String) : Log.Entry :=
  ⟨.container, .error, "Failed to parse metrics address", [("metrics_address", text)]⟩

/-- What the log shows of the metrics, which are offered if they are switched on. A process can have
one exporter only, and a second one in it is refused with an error of its own: that is left out. -/
def metricsEntries (machine : Net.Machine) (c : Config.Observability) : List Log.Entry :=
  if c.metricsEnabled then
    match Net.SocketAddress.parse? c.metricsAddress with
    | none => [metricsUnreadable c.metricsAddress]
    | some address =>
      match machine.bind address with
      | .ok _ => [metricsListening address]
      | .error e => [metricsRefused e]
  else []

/-- The container begins. -/
def starting (name : String) : Log.Entry :=
  ⟨.container, .info, "Starting " ++ name, []⟩

/-- The container ends. -/
def stopping (name : String) : Log.Entry :=
  ⟨.container, .info, "Stopping " ++ name, []⟩

/-- The signals of the system cannot be had. -/
def signalsRefused (fault : String) : Log.Entry :=
  ⟨.container, .error, "could not initialize supervisor",
    [("error", (RunError.signalSetup fault).text)]⟩

/-- The services could not be built. -/
def buildRefused (error : BuildError) : Log.Entry :=
  ⟨.container, .error, "could not initialize services", [("error", error.message)]⟩

/-- The run has ended with an error. -/
def runFailed (error : RunError) : Log.Entry :=
  ⟨.container, .error, "error running services", [("error", error.text)]⟩

/-- The supervisor of a run: the one that is given, or a fresh one that behaves as the configuration
asks. -/
def supervisorFor (c : Container) (config : Config) : Supervisor :=
  c.supervisor.getD { settings := .ofConfig config.supervisor }

/-- Supervises services if they could be built; however this comes out, the run is cancelled at its
end. -/
def conclude (c : Container) (supervisor : Supervisor) (run : RunId) :
    Except BuildError (List Service) → Flow RunOutcome
  | .error e => do
    Flow.write (buildRefused e)
    -- The run that was prepared for them is cancelled all the same, so that nobody waits for it.
    let _ ← Flow.answer (·.cancel .owner run .requested)
    return .refused (.construction e)
  | .ok services => do
    let error ← Flow.startServices supervisor run (placed services)
    if let some error := error then Flow.write (runFailed error)
    Flow.write (stopping c.name)
    let _ ← Flow.answer (·.cancel .owner run .requested)
    return .finished error

/-- Prepares a run, builds its services and supervises them. -/
def superviseWith (c : Container) (around : Surroundings) (factory : Factory) (config : Config) :
    Flow RunOutcome := do
  match ← Flow.tryPrepare around.signalFault (c.supervisorFor config) with
  | .error fault =>
    Flow.write (signalsRefused fault)
    return .refused (.signals fault)
  -- The supervisor that was used is the one that has prepared the run.
  | .ok (supervisor, run) => c.conclude supervisor run (← factory run config)

/-- Offers metrics, says that the container starts, and supervises its services. -/
def runWith (c : Container) (around : Surroundings) (factory : Factory) (config : Config) :
    Flow RunOutcome := do
  Flow.writeAll (metricsEntries around.machine config.observability)
  Flow.write (starting c.name)
  c.superviseWith around factory config

/-- Runs a container to its end. -/
def run (c : Container) (around : Surroundings) (factory : Factory) : Flow RunOutcome := do
  match c.loadConfig around.files with
  | .error failure =>
    Flow.write (configRefused c.name failure)
    return .refused (.config failure)
  | .ok config =>
    let config ← c.resolveContracts around.network config
    match ← c.applyLevel config.log.level with
    | .error name =>
      Flow.write (levelRefused name)
      return .refused (.level name)
    | .ok () => c.runWith around factory config

/-- The log was set up before. -/
def logTaken : Log.Entry :=
  ⟨.container, .warn, "using existing log subscriber", [("error", Log.alreadyInstalled)]⟩

/-- Runs the container of a name with the file that the environment names, where the log is set up
already. -/
def runNamed (name path : String) (around : Surroundings) (factory : Factory) : Flow Unit := do
  Flow.write logTaken
  let _ ← run { name, source := .file path } around factory

end Container

end Warden
