import Warden.Ethereum.Contracts

/-! Scenarios of one configuration into which the addresses of contracts are written. -/

namespace Warden.Scenario

open Ethereum

/-- Addresses are written as they are, or as the outcome of a search for them. -/
inductive ContractsOp
  | write (contracts : Contracts)
  | settle (found : Except ChainError Contracts)

/-- What a step answers, and the three addresses after it. -/
structure ContractsAnswer where
  result : Option (Except ChainError Unit)
  registry : String
  scannerVersion : String
  agentRegistry : String

/-- An answer with the addresses that a configuration holds. -/
def contractsAnswer (result : Option (Except ChainError Unit)) (config : Config) :
    ContractsAnswer :=
  ⟨result, config.registry.contractAddress, config.scannerVersionAddress,
    config.agentRegistryAddress⟩

/-- Takes the steps in order and gives the configuration after the last one. -/
def contractsSteps : List ContractsOp → Config → Asking (List ContractsAnswer × Config)
  | [], config => return ([], config)
  | .write contracts :: rest, config => do
    let config := config.withContracts contracts
    let (answers, last) ← contractsSteps rest config
    return (contractsAnswer none config :: answers, last)
  | .settle found :: rest, config => do
    let (result, config) ← config.settleContracts found
    let (answers, last) ← contractsSteps rest config
    return (contractsAnswer (some result) config :: answers, last)

/-- The answers from the first configuration on, and what the steps left behind. -/
def contractsScenario (config : Config) (ops : List ContractsOp) :
    (List ContractsAnswer × Config) × Session :=
  (contractsSteps ops config).run {}

end Warden.Scenario
