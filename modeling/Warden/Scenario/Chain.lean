import Warden.Ethereum.Client

/-! Scenarios of one client that is asked about its chain. -/

namespace Warden.Scenario

open Ethereum

/-- A question to a client. -/
inductive ChainOp
  | verify
  | chainId
  | blockNumber
  | healthy
  | text
  | config
deriving Repr, DecidableEq, Inhabited

/-- What a question to a client answers. -/
inductive ChainAnswer
  | done
  | number (number : Nat)
  | flag (value : Bool)
  | text (text : String)
  | config (config : Config.Chain)
  | failure (error : ChainError)
deriving Repr, Inhabited

/-- Answers one question; an error is an answer like any other. -/
def answerChain (client : Client) (network : Network) : ChainOp → Asking ChainAnswer
  | .verify => do
    match ← client.verify network with
    | .ok () => return .done
    | .error e => return .failure e
  | .chainId => do
    match ← client.chainId network with
    | .ok n => return .number n
    | .error e => return .failure e
  | .blockNumber => do
    match ← client.blockNumber network with
    | .ok n => return .number n
    | .error e => return .failure e
  | .healthy => return .flag (← client.isHealthy network)
  | .text => return .text client.text
  | .config => return .config client.config

/-- Asks the client that a configuration describes; if there is none, the reason is the one
answer. -/
def chainAnswers (network : Network) (config : Config.Chain) (ops : List ChainOp) :
    Asking (List ChainAnswer) := do
  match ← Client.open? config with
  | .error e => return [.failure e]
  | .ok client => ops.mapM (answerChain client network)

/-- The answers of a client that nobody has asked before, and what the questions left behind. -/
def chainScenario (network : Network) (config : Config.Chain) (ops : List ChainOp) :
    List ChainAnswer × Session :=
  (chainAnswers network config ops).run {}

end Warden.Scenario
