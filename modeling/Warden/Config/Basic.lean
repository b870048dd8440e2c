import Warden.Text.Record

/-! The configuration of a node: nine settings and sections, each with a default of its own. -/

namespace Warden

namespace Config

/-- How much is logged. -/
structure Log where
  level : String := "info"
deriving Repr, DecidableEq, Inhabited

/-- Where contract names are looked up. -/
structure Ens where
  jsonRpcUrl : String := "http://localhost:8545"
  contractAddress : String := "0x00000000000C2E074eC69A0dFb2997BA6C7d2e1e"
  timeoutSecs : UInt64 := 10
deriving Repr, DecidableEq, Inhabited

/-- The dispatch contract; an empty address is to be looked up. -/
structure Registry where
  contractAddress : String := ""
deriving Repr, DecidableEq, Inhabited

/-- The time allowed to each service, and what a second signal does. -/
structure Supervision where
  startupTimeoutSecs : UInt64 := 60
  stopTimeoutSecs : UInt64 := 30
  forceExitOnSecondSignal : Bool := true
deriving Repr, DecidableEq, Inhabited

/-- The endpoint that reports the state of the run. -/
structure Health where
  enabled : Bool := true
  bindAddress : String := "0.0.0.0:8090"
deriving Repr, DecidableEq, Inhabited

/-- The chain whose head is followed. -/
structure Chain where
  enabled : Bool := false
  rpcUrl : String := "http://localhost:8545"
  failoverUrls : List String := []
  chainId : UInt64 := 1
  rpcTimeoutSecs : UInt64 := 10
  pollIntervalMs : UInt64 := 10000
deriving Repr, DecidableEq, Inhabited

/-- Where metrics are offered. -/
structure Observability where
  metricsEnabled : Bool := false
  metricsAddress : String := "0.0.0.0:9090"
deriving Repr, DecidableEq, Inhabited

end Config

/-- The whole configuration of a node. -/
structure Config where
  log : Config.Log := {}
  ens : Config.Ens := {}
  registry : Config.Registry := {}
  scannerVersionAddress : String := ""
  agentRegistryAddress : String := ""
  supervisor : Config.Supervision := {}
  health : Config.Health := {}
  chain : Config.Chain := {}
  observability : Config.Observability := {}
deriving Repr, DecidableEq, Inhabited

namespace Config

/-- The environment variable that names the configuration file. -/
def pathVariable : String := "NODE_CONFIG_PATH"

/-- The configuration file when nothing names one. -/
def defaultPath : String := "/etc/node-supervisor/config.toml"

/-- The configuration file for a value of the environment variable, which may be empty. -/
def pathFrom (named : Option String) : String :=
  named.getD defaultPath

open Text

/-- The section of the log as a record. -/
def Log.text (c : Log) : String :=
  record "LogConfig" [("level", quoted c.level)]

/-- That of the names. -/
def Ens.text (c : Ens) : String :=
  record "EnsConfig" [
    ("json_rpc_url", quoted c.jsonRpcUrl),
    ("contract_address", quoted c.contractAddress),
    ("timeout_secs", toString c.timeoutSecs)]

/-- That of the registry. -/
def Registry.text (c : Registry) : String :=
  record "RegistryConfig" [("contract_address", quoted c.contractAddress)]

/-- That of the supervisor. -/
def Supervision.text (c : Supervision) : String :=
  record "SupervisorConfig" [
    ("startup_timeout_secs", toString c.startupTimeoutSecs),
    ("stop_timeout_secs", toString c.stopTimeoutSecs),
    ("force_exit_on_second_signal", truth c.forceExitOnSecondSignal)]

/-- That of the health endpoint. -/
def Health.text (c : Health) : String :=
  record "HealthConfig" [
    ("enabled", truth c.enabled),
    ("bind_address", quoted c.bindAddress)]

/-- That of the chain. -/
def Chain.text (c : Chain) : String :=
  record "ChainConfig" [
    ("enabled", truth c.enabled),
    ("rpc_url", quoted c.rpcUrl),
    ("failover_urls", quotedList c.failoverUrls),
    ("chain_id", toString c.chainId),
    ("rpc_timeout_secs", toString c.rpcTimeoutSecs),
    ("poll_interval_ms", toString c.pollIntervalMs)]

/-- That of the metrics. -/
def Observability.text (c : Observability) : String :=
  record "ObservabilityConfig" [
    ("metrics_enabled", truth c.metricsEnabled),
    ("metrics_address", quoted c.metricsAddress)]

/-- The configuration as reports show it, sections in order. -/
def text (c : Config) : String :=
  record "NodeConfig" [
    ("log", c.log.text),
    ("ens", c.ens.text),
    ("registry", c.registry.text),
    ("scanner_version_contract_address", quoted c.scannerVersionAddress),
    ("agent_registry_contract_address", quoted c.agentRegistryAddress),
    ("supervisor", c.supervisor.text),
    ("health", c.health.text),
    ("chain", c.chain.text),
    ("observability", c.observability.text)]

end Config

end Warden
