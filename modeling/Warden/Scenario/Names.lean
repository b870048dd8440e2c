import Warden.Ethereum.Resolver

/-! Scenarios of one resolver that is asked for names. -/

namespace Warden.Scenario

open Ethereum

/-- A question to a resolver. -/
inductive NameOp
  | resolve (name : String)
  | contracts
  | text
deriving Repr, Inhabited

/-- What a question to a resolver answers. -/
inductive NameAnswer
  | address (address : Address)
  | contracts (contracts : Contracts)
  | text (text : String)
  | failure (error : ChainError)
deriving Inhabited

/-- Answers one question; an error is an answer like any other. -/
def answerName (resolver : Resolver) (network : Network) : NameOp → Asking NameAnswer
  | .resolve name => do
    match ← resolver.resolve network name with
    | .ok address => return .address address
    | .error e => return .failure e
  | .contracts => do
    match ← resolver.contracts network with
    | .ok contracts => return .contracts contracts
    | .error e => return .failure e
  | .text => return .text resolver.text

/-- Asks the resolver that a configuration describes; if there is none, the reason is the one
answer. -/
def nameScenario (network : Network) (config : Config.Ens) (ops : List NameOp) :
    List NameAnswer × Session :=
  match Resolver.open? config with
  | .error e => ([.failure e], {})
  | .ok resolver => (ops.mapM (answerName resolver network)).run {}

end Warden.Scenario
