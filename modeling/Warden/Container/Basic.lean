import Warden.Config.Source
import Warden.Ethereum.Resolver
import Warden.Net.Listen
import Warden.Supervision.Supervisor

/-!
Containers: a node with a name, the source of its configuration, and how a run of it can come out.
-/

namespace Warden

open Supervision

/-- Where a container gets its configuration. -/
inductive ConfigSource
  | file (path : String)
  | value (config : Config)
deriving Repr, DecidableEq

/-- The source as a record. -/
def ConfigSource.text : ConfigSource → String
  | .file path => "Path(" ++ Text.quoted path ++ ")"
  | .value config => "Value(" ++ config.text ++ ")"

/-- A container; what it is not given it takes from its configuration. -/
structure Container where
  name : String
  source : ConfigSource
  /-- What a search for the contracts gives. -/
  contracts : Option (Except Ethereum.ChainError Ethereum.Contracts) := none
  /-- Whether it may change the level of the log. -/
  logHandle : Bool := false
  settings : Option Settings := none
  /-- The supervisor, which may have prepared runs before; settings alone ask for a fresh one. -/
  supervisor : Option Supervisor := settings.map fun settings => { settings }

/-- The container as a record. -/
def Container.text (c : Container) : String :=
  Text.record "Container" [
    ("name", Text.quoted c.name),
    ("config", c.source.text),
    ("custom_resolver", Text.truth c.contracts.isSome)]

/-- What surrounds a container: files, servers, the machine, and whether signals of the system can
be had. -/
structure Surroundings where
  files : String → Except Config.FileFault String
  network : Ethereum.Network
  machine : Net.Machine
  signalFault : Option String := none

/-- Why services could not be built. -/
inductive BuildError
  | words (words : String)
  | chain (error : Ethereum.ChainError)
deriving Repr, DecidableEq, Inhabited

/-- What a report says of it. -/
def BuildError.message : BuildError → String
  | .words s => s
  | .chain error => error.message

/-- The error as a record. -/
def BuildError.text : BuildError → String
  | .words s => Text.quoted s
  | .chain error => error.text

/-- Builds the services of a run from its configuration. -/
abbrev Factory := RunId → Config → Flow (Except BuildError (List Service))

/-- Why nothing was started. -/
inductive Refusal
  | config (failure : Config.Failure)
  | level (name : String)
  | signals (fault : String)
  | construction (error : BuildError)
deriving Repr

/-- The refusal as reports show it. -/
def Refusal.text : Refusal → String
  | .config failure => "ConfigFailed(" ++ failure.text ++ ")"
  | .level name => "LogLevelFailed(InvalidLevel(" ++ Text.quoted name ++ "))"
  | .signals fault =>
    "InitFailed(SignalSetup(" ++
      Text.record "Custom" [("kind", "Other"), ("error", Text.quoted fault)] ++ "))"
  | .construction error => "ConstructionFailed(" ++ error.text ++ ")"

/-- How a container's run came out: nothing was started, or its services were supervised to the
end. -/
inductive RunOutcome
  | refused (refusal : Refusal)
  | finished (error : Option RunError)
deriving Repr

/-- Whether services were supervised. -/
def RunOutcome.isFinished : RunOutcome → Bool
  | .refused _ => false
  | .finished _ => true

end Warden
