import Warden.Config.Basic
import Warden.Document.Value

/-! Writing a configuration as nested tables with every setting present. -/

namespace Warden

open Document

/-- A whole number of sixty-four bits as a document's integer. -/
def Document.ofWord (n : UInt64) : Value := .integer n.toNat

namespace Config

/-- The section of the log as a table. -/
def Log.encode (c : Log) : Value := .table [("level", .string c.level)]

/-- That of the names. -/
def Ens.encode (c : Ens) : Value :=
  .table [
    ("json_rpc_url", .string c.jsonRpcUrl),
    ("contract_address", .string c.contractAddress),
    ("timeout_secs", ofWord c.timeoutSecs)]

/-- That of the registry. -/
def Registry.encode (c : Registry) : Value :=
  .table [("contract_address", .string c.contractAddress)]

/-- That of the supervisor. -/
def Supervision.encode (c : Supervision) : Value :=
  .table [
    ("startup_timeout_secs", ofWord c.startupTimeoutSecs),
    ("stop_timeout_secs", ofWord c.stopTimeoutSecs),
    ("force_exit_on_second_signal", .boolean c.forceExitOnSecondSignal)]

/-- That of the health endpoint. -/
def Health.encode (c : Health) : Value :=
  .table [("enabled", .boolean c.enabled), ("bind_address", .string c.bindAddress)]

/-- That of the chain. -/
def Chain.encode (c : Chain) : Value :=
  .table [
    ("enabled", .boolean c.enabled),
    ("rpc_url", .string c.rpcUrl),
    ("failover_urls", .list (c.failoverUrls.map .string)),
    ("chain_id", ofWord c.chainId),
    ("rpc_timeout_secs", ofWord c.rpcTimeoutSecs),
    ("poll_interval_ms", ofWord c.pollIntervalMs)]

/-- That of the metrics. -/
def Observability.encode (c : Observability) : Value :=
  .table [
    ("metrics_enabled", .boolean c.metricsEnabled),
    ("metrics_address", .string c.metricsAddress)]

/-- The configuration as a table of its sections. -/
def encode (c : Config) : Value :=
  .table [
    ("log", c.log.encode),
    ("ens", c.ens.encode),
    ("registry", c.registry.encode),
    ("scanner_version_contract_address", .string c.scannerVersionAddress),
    ("agent_registry_contract_address", .string c.agentRegistryAddress),
    ("supervisor", c.supervisor.encode),
    ("health", c.health.encode),
    ("chain", c.chain.encode),
    ("observability", c.observability.encode)]

end Config

end Warden
