import Warden.Ethereum.Resolver

/-! Writing the addresses of contracts into a configuration. -/

namespace Warden

namespace Config

open Ethereum

/-- Writes addresses; a registry that is configured stays, the other two are replaced. -/
def withContracts (config : Config) (contracts : Contracts) : Config :=
  { config with
    registry :=
      if config.registry.contractAddress.isEmpty then ⟨contracts.dispatch.text⟩
      else config.registry
    scannerVersionAddress := contracts.scannerVersion.text
    agentRegistryAddress := contracts.agent.text }

/-- What the log shows of addresses that were found. -/
def contractsEntry (config : Config) : Log.Entry :=
  ⟨.contracts, .info, "Contract addresses resolved",
    [("registry", config.registry.contractAddress),
     ("scanner_version", config.scannerVersionAddress),
     ("agent_registry", config.agentRegistryAddress)]⟩

/-- Writes the addresses that were found; if none were, the configuration stays as it is. -/
def settleContracts (config : Config) (found : Except ChainError Contracts) :
    Asking (Except ChainError Unit × Config) := do
  match found with
  | .error e => return (.error e, config)
  | .ok contracts =>
    let config := config.withContracts contracts
    note config.contractsEntry
    return (.ok (), config)

end Config

end Warden
