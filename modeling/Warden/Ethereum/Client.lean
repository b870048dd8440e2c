import Warden.Config.Basic
import Warden.Ethereum.ChainError
import Warden.Ethereum.Network

/-! The client of a chain: a primary server and those that stand in for it. -/

namespace Warden.Ethereum

/-- A client; the primary server comes first. -/
structure Client where
  primary : Net.Url
  failovers : List Net.Url
  config : Config.Chain

/-- The locator of a server. -/
def serverUrl (text : String) : Except ChainError Net.Url :=
  match Net.Url.parse text with
  | .ok url => .ok url
  | .error e => .error (.invalidConfig ("Invalid RPC URL '" ++ text ++ "': " ++ e.message))

namespace Client

/-- The locators that can be read; the others are noticed and left out. -/
def usable : List String → Asking (List Net.Url)
  | [] => return []
  | text :: rest => do
    match Net.Url.parse text with
    | .ok url => return url :: (← usable rest)
    | .error _ =>
      note ⟨.client, .warn, "Ignoring invalid failover RPC URL", [("url", text)]⟩
      usable rest

/-- The client that a configuration describes; only a bad primary locator is an error. -/
def open? (config : Config.Chain) : Asking (Except ChainError Client) := do
  match serverUrl config.rpcUrl with
  | .error e => return .error e
  | .ok primary => return .ok ⟨primary, ← usable config.failoverUrls, config⟩

/-- The servers in the order in which they are asked. -/
def providers (client : Client) : List Net.Url :=
  client.primary :: client.failovers

/-- How many seconds a server is given. -/
def timeout (client : Client) : Nat := client.config.rpcTimeoutSecs.toNat

/-- The words with which a question's failures are noticed. -/
structure Wording where
  failed : String
  late : String
  exhausted : String
deriving Repr, DecidableEq

/-- What is said when the chain is asked for. -/
def chainIdWording : Wording :=
  ⟨"RPC error, trying next provider", "RPC timeout, trying next provider",
    "All RPC providers failed"⟩

/-- What is said when the latest block is asked for. -/
def blockNumberWording : Wording :=
  ⟨"RPC error", "RPC timeout", "All providers failed to get block number"⟩

/-- Asks one server for a number; without one, the reason is noticed. -/
def tryServer (network : Network) (timeout : Nat) (request : Request) (wording : Wording)
    (index : Nat) (url : Net.Url) : Asking (Option Nat) := do
  match ← ask network timeout url request Reply.number with
  | .value n => return some n
  | .failure failure =>
    note ⟨.client, .warn, wording.failed,
      [("provider_idx", toString index), ("error", failure.message)]⟩
    return none
  | .late =>
    note ⟨.client, .warn, wording.late, [("provider_idx", toString index)]⟩
    return none

/-- Asks servers in order until one gives a number; `index` is the place of the first of them. -/
def firstNumber (network : Network) (timeout : Nat) (request : Request) (wording : Wording)
    (index : Nat) : List Net.Url → Asking (Except ChainError Nat)
  | [] => return .error (.rpc wording.exhausted)
  | url :: rest => do
    match ← tryServer network timeout request wording index url with
    | some n => return .ok n
    | none => firstNumber network timeout request wording (index + 1) rest

/-- The chain that the first server to answer follows. -/
def chainId (client : Client) (network : Network) : Asking (Except ChainError Nat) :=
  firstNumber network client.timeout .chainId chainIdWording 0 client.providers

/-- The latest block that the first server to answer knows. -/
def blockNumber (client : Client) (network : Network) : Asking (Except ChainError Nat) :=
  firstNumber network client.timeout .blockNumber blockNumberWording 0 client.providers

/-- Checks that the servers follow the chain that is configured. -/
def verify (client : Client) (network : Network) : Asking (Except ChainError Unit) := do
  match ← client.chainId network with
  | .error e => return .error e
  | .ok actual =>
    let expected := client.config.chainId.toNat
    -- Only the server that has answered was checked; the others may follow another chain.
    if actual = expected then return .ok () else return .error (.chainMismatch expected actual)

/-- Whether some server knows the latest block. -/
def isHealthy (client : Client) (network : Network) : Asking Bool := do
  -- The question is the one of a poll, and what matters is that there was an answer.
  let healthy := (← client.blockNumber network).isOk
  gauge (.health healthy)
  return healthy

/-- The client as a record. -/
def text (client : Client) : String :=
  Text.record "BlockchainClient" [
    ("rpc_url", Text.quoted client.config.rpcUrl),
    ("chain_id", toString client.config.chainId),
    ("providers", toString client.providers.length),
    ("timeout_secs", toString client.config.rpcTimeoutSecs)]

end Client

end Warden.Ethereum
