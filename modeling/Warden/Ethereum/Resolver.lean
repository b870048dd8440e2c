import Warden.Duration
import Warden.Ethereum.Client

/-! Looking up names: the registry knows the resolver of a name, and the resolver its address. -/

namespace Warden.Ethereum

/-- The addresses of the contracts that a node works with. -/
structure Contracts where
  dispatch : Address := .zero
  scannerVersion : Address := .zero
  agent : Address := .zero
deriving Repr, DecidableEq, Inhabited

/-- A registry of names behind a server. -/
structure Resolver where
  registry : Address
  server : Net.Url
  timeoutSecs : UInt64

/-- The name of the dispatch contract. -/
def dispatchName : String := "dispatch.forta.eth"

/-- The name of the contract that knows the version of the scanner node. -/
def scannerVersionName : String := "scanner-node-version.forta.eth"

/-- The name of the registry of agents. -/
def agentRegistryName : String := "agents.registries.forta.eth"

namespace Resolver

/-- The resolver that a configuration describes; a bad registry address is found before a bad
locator. -/
def open? (config : Config.Ens) : Except ChainError Resolver :=
  match Address.parse config.contractAddress with
  | .error e =>
    .error (.invalidConfig
      ("Invalid ENS registry address '" ++ config.contractAddress ++ "': " ++ e.message))
  -- The address is good; the locator is read only now.
  | .ok registry =>
    match serverUrl config.jsonRpcUrl with
    | .error e => .error e
    | .ok server => .ok ⟨registry, server, config.timeoutSecs⟩

/-- Asks a contract for an address that belongs to the node of a name. -/
def lookUp (resolver : Resolver) (network : Network) (contract : Address) (lookup : Lookup)
    (node : Word) : Asking (Except ChainError Address) := do
  let secs := resolver.timeoutSecs.toNat
  match ← ask network secs resolver.server (.call contract lookup node) (Reply.address lookup) with
  | .value address => return .ok address
  | .failure failure => return .error (.rpc failure.message)
  | .late => return .error (.timeout secs)

/-- Finds the address of a name; the zero address at either step means that the name is not
known. -/
def resolve (resolver : Resolver) (network : Network) (name : String) :
    Asking (Except ChainError Address) := do
  let node := namehash name
  match ← resolver.lookUp network resolver.registry .resolver node with
  | .error e => return .error e
  | .ok contract =>
    -- The zero address says that nobody is responsible for the name.
    if contract.isZero then return .error (.nameNotFound name)
    match ← resolver.lookUp network contract .addr node with
    | .error e => return .error e
    | .ok address =>
      -- Here it says that the name has no address.
      if address.isZero then return .error (.nameNotFound name)
      note ⟨.names, .debug, "Resolved ENS name", [("name", name), ("address", address.text)]⟩
      return .ok address

/-- Finds the three contracts in a fixed order and stops at the first name that cannot be found. -/
def contracts (resolver : Resolver) (network : Network) :
    Asking (Except ChainError Contracts) := do
  match ← resolver.resolve network dispatchName with
  | .error e => return .error e
  | .ok dispatch =>
    match ← resolver.resolve network scannerVersionName with
    | .error e => return .error e
    | .ok scannerVersion =>
      match ← resolver.resolve network agentRegistryName with
      | .error e => return .error e
      | .ok agent => return .ok ⟨dispatch, scannerVersion, agent⟩

/-- The resolver as a record. -/
def text (resolver : Resolver) : String :=
  Text.record "EnsContractResolver" [
    ("registry", resolver.registry.lowerText),
    ("timeout", (Duration.ofSecs resolver.timeoutSecs.toNat).text)]

end Resolver

end Warden.Ethereum
