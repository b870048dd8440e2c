import Warden.Config.Basic
import Warden.Ethereum.Address
import Warden.Log.Level
import Warden.Net.SocketAddress
import Warden.Net.Url

/-! The rules that a usable configuration obeys. -/

namespace Warden.Config

/-- A rule that a configuration breaks, with the setting and what it holds. -/
inductive Violation
  | unknownLevel (value : String)
  | zero (field : String)
  | badUrl (field value : String)
  | badAddress (field value : String)
  | badSocket (field value : String)
deriving Repr, DecidableEq

namespace Violation

/-- The setting that a violation is about. -/
def field : Violation → String
  | .unknownLevel _ => "log.level"
  | .zero field | .badUrl field _ | .badAddress field _ | .badSocket field _ => field

/-- The text that breaks the rule; a number that is zero shows nothing. -/
def value? : Violation → Option String
  | .unknownLevel value | .badUrl _ value | .badAddress _ value | .badSocket _ value => some value
  | .zero _ => none

/-- What a report says of a violation. -/
def message : Violation → String
  | .unknownLevel value => "log.level: unknown level '" ++ value ++ "'"
  | .zero field => field ++ ": must be greater than zero"
  | .badUrl field value => field ++ ": invalid URL '" ++ value ++ "'"
  | .badAddress field value => field ++ ": invalid contract address '" ++ value ++ "'"
  | .badSocket field value => field ++ ": invalid socket address '" ++ value ++ "'"

open Text in
/-- The violation as a record. -/
def text : Violation → String
  | .unknownLevel value => "LogLevel(" ++ quoted value ++ ")"
  | .zero field => record "ZeroDuration" [("field", quoted field)]
  | .badUrl field value =>
    record "InvalidUrl" [("field", quoted field), ("value", quoted value)]
  | .badAddress field value =>
    record "InvalidAddress" [("field", quoted field), ("value", quoted value)]
  | .badSocket field value =>
    record "InvalidSocketAddr" [("field", quoted field), ("value", quoted value)]

end Violation

/-- The violation that stands when a condition fails. -/
def demand (holds : Bool) (violation : Violation) : List Violation :=
  if holds then [] else [violation]

/-- The level has to be one that the log knows. -/
def checkLevel (value : String) : List Violation :=
  demand (Log.Level.parse? value).isSome (.unknownLevel value)

/-- A length of time may not be zero. -/
def checkPositive (field : String) (value : UInt64) : List Violation :=
  demand (value != 0) (.zero field)

/-- A locator has to be absolute. -/
def checkUrl (field value : String) : List Violation :=
  demand (Net.Url.isValid value) (.badUrl field value)

/-- An address has to be one. -/
def checkAddress (field value : String) : List Violation :=
  demand (Ethereum.Address.parse value).isOk (.badAddress field value)

/-- An address that may be left out. -/
def checkOptionalAddress (field value : String) : List Violation :=
  if value.isEmpty then [] else checkAddress field value

/-- A socket address has to be one. -/
def checkSocket (field value : String) : List Violation :=
  demand (Net.SocketAddress.parse? value).isSome (.badSocket field value)

/-- The section of the names; without a registry nothing is asked of it. -/
def checkEns (c : Ens) : List Violation :=
  if c.contractAddress.isEmpty then []
  else
    -- The time for an answer is not among what is asked.
    checkUrl "ens.json_rpc_url" c.jsonRpcUrl ++
    checkAddress "ens.contract_address" c.contractAddress

/-- The section of the health endpoint, if it is switched on. -/
def checkHealth (c : Health) : List Violation :=
  if c.enabled then checkSocket "health.bind_address" c.bindAddress else []

/-- The section of the chain, if it is switched on. -/
def checkChain (c : Chain) : List Violation :=
  if c.enabled then
    checkUrl "chain.rpc_url" c.rpcUrl ++
    checkPositive "chain.rpc_timeout_secs" c.rpcTimeoutSecs ++
    checkPositive "chain.poll_interval_ms" c.pollIntervalMs
  else []

/-- The section of the metrics, if they are switched on. -/
def checkObservability (c : Observability) : List Violation :=
  if c.metricsEnabled then checkSocket "observability.metrics_address" c.metricsAddress else []

/-- Every rule that the configuration breaks, in the order of the rules; sections that are switched
off obey. -/
def violations (c : Config) : List Violation :=
  checkLevel c.log.level ++
  checkPositive "supervisor.startup_timeout_secs" c.supervisor.startupTimeoutSecs ++
  checkPositive "supervisor.stop_timeout_secs" c.supervisor.stopTimeoutSecs ++
  checkEns c.ens ++
  checkOptionalAddress "registry.contract_address" c.registry.contractAddress ++
  checkOptionalAddress "scanner_version_contract_address" c.scannerVersionAddress ++
  checkOptionalAddress "agent_registry_contract_address" c.agentRegistryAddress ++
  checkHealth c.health ++
  checkChain c.chain ++
  checkObservability c.observability

/-- A configuration is accepted when it breaks no rule. -/
def validate (c : Config) : Except (List Violation) Unit :=
  match c.violations with
  | [] => .ok ()
  | broken => .error broken

end Warden.Config
