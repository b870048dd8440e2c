import Warden.Text.Record

/-! What can go wrong when the chain is asked. -/

namespace Warden.Ethereum

/-- Why a question to the chain has no usable answer. -/
inductive ChainError
  | rpc (message : String)
  | timeout (secs : Nat)
  | invalidConfig (message : String)
  | chainMismatch (expected actual : Nat)
  | nameNotFound (name : String)
deriving Repr, DecidableEq, Inhabited

/-- What a report says of an error. -/
def ChainError.message : ChainError → String
  | .rpc message => "RPC error: " ++ message
  | .timeout secs => "RPC timeout after " ++ toString secs ++ " seconds"
  | .invalidConfig message => "Invalid configuration: " ++ message
  | .chainMismatch expected actual =>
    "Chain ID mismatch: expected " ++ toString expected ++ ", got " ++ toString actual
  | .nameNotFound name => "ENS name '" ++ name ++ "' is not registered"

open Text in
/-- The error as a record. -/
def ChainError.text : ChainError → String
  | .rpc message => "Rpc(" ++ quoted message ++ ")"
  | .timeout secs => "Timeout(" ++ toString secs ++ ")"
  | .invalidConfig message => "InvalidConfig(" ++ quoted message ++ ")"
  | .chainMismatch expected actual =>
    record "ChainMismatch" [("expected", toString expected), ("actual", toString actual)]
  | .nameNotFound name => "NameNotFound(" ++ quoted name ++ ")"

end Warden.Ethereum
