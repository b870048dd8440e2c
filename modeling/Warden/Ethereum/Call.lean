import Warden.Document.Compact
import Warden.Ethereum.Address
import Warden.Ethereum.Name

/-! Questions to a server, the replies that it may give, and what can be read from them. -/

namespace Warden.Ethereum

open Document (Value)

/-- The functions of the contracts that are asked, each about the node of a name. -/
inductive Lookup
  | resolver
  | addr
deriving Repr, DecidableEq, Inhabited

/-- The name of a function. -/
def Lookup.name : Lookup → String
  | .resolver => "resolver"
  | .addr => "addr"

/-- The first bytes of a call, which select the function. -/
def Lookup.selector : Lookup → List UInt8
  | .resolver => [0x01, 0x78, 0xb8, 0xbf]
  | .addr => [0x3b, 0x3b, 0x57, 0xde]

/-- A question to a server. -/
inductive Request
  | chainId
  | blockNumber
  | call (contract : Address) (lookup : Lookup) (node : Word)
deriving Repr, DecidableEq, Inhabited

/-- The method by which a question is asked. -/
def Request.method : Request → String
  | .chainId => "eth_chainId"
  | .blockNumber => "eth_blockNumber"
  | .call _ _ _ => "eth_call"

/-- The bytes sent to a contract. -/
def callData (lookup : Lookup) (node : Word) : List UInt8 :=
  lookup.selector ++ node.toList

/-- Bytes as servers write them. -/
def hexData (bytes : List UInt8) : String :=
  "0x" ++ String.ofList (Text.hexBytes bytes)

/-- An error that a server reports. -/
structure ServerError where
  code : Int
  message : String
  data : Option Value := none
deriving Repr, Inhabited

/-- What a server sends back. -/
inductive Reply
  | answered (result : Option Value) (error : Option ServerError)
  | http (status : Nat) (body : String)
deriving Repr, Inhabited

/-- Why a call has no usable result. -/
inductive CallFailure
  | unsent (url : String)
  | unsupported (url : String)
  | refused (error : ServerError)
  | http (status : Nat) (body : String)
  | unreadable
  | noData (lookup : Lookup)
  | shortData
deriving Repr, Inhabited

/-- What a report says of a failure. -/
def CallFailure.message : CallFailure → String
  | .unsent url => "error sending request for url (" ++ url ++ ")"
  | .unsupported url => "builder error for url (" ++ url ++ ")"
  | .refused error =>
    "server returned an error response: error code " ++ toString error.code ++ ": " ++
      error.message ++
      match error.data with
      | none => ""
      | some data => ", data: " ++ data.compact
  | .http status body =>
    if body.isEmpty then "HTTP error " ++ toString status ++ " with empty body"
    else "HTTP error " ++ toString status ++ " with body: " ++ body
  | .unreadable => "deserialization error"
  | .noData lookup =>
    "contract call to `" ++ lookup.name ++
      "` returned no data (\"0x\"); the called address might not be a contract"
  | .shortData => "ABI decoding failed: buffer overrun while deserializing"

/-- The result in a reply; a reply with both a result and an error, or neither, cannot be read. -/
def Reply.result : Reply → Except CallFailure Value
  | .answered (some result) none => .ok result
  | .answered none (some error) => .error (.refused error)
  | .answered _ _ => .error .unreadable
  -- A reply that was accepted and is no answer cannot be read; of any other the status is the
  -- reason.
  | .http status body =>
    if 200 ≤ status ∧ status < 300 then .error .unreadable else .error (.http status body)

/-- The digits of a number and the base that its mark asks for. -/
def splitBase : List Char → Nat × List Char
  | '0' :: 'x' :: digits | '0' :: 'X' :: digits => (16, digits)
  | '0' :: 'o' :: digits | '0' :: 'O' :: digits => (8, digits)
  | '0' :: 'b' :: digits | '0' :: 'B' :: digits => (2, digits)
  | digits => (10, digits)

/-- A number of sixty-four bits as servers write it; underscores are skipped and no digits at all
mean zero. -/
def readQuantity? : Value → Option Nat
  | .integer n => if 0 ≤ n ∧ n < UInt64.size then some n.toNat else none
  | .string text =>
    let (base, digits) := splitBase text.toList
    (Text.foldDigits? base 0 (digits.filter (· != '_'))).filter (· < UInt64.size)
  | _ => none

/-- The number in a reply. -/
def Reply.number (reply : Reply) : Except CallFailure Nat :=
  match reply.result with
  | .error failure => .error failure
  | .ok value =>
    match readQuantity? value with
    | some n => .ok n
    | none => .error .unreadable

/-- The bytes that pairs of hexadecimal digits denote. -/
def readBytes? : List Char → Option (List UInt8)
  | [] => some []
  | [_] => none
  | high :: low :: rest =>
    -- One character that is no digit makes all of it unreadable.
    match Text.digit? 16 high, Text.digit? 16 low, readBytes? rest with
    | some h, some l, some bytes => some (UInt8.ofNat (16 * h + l) :: bytes)
    | _, _, _ => none

/-- The data in a result, with or without its mark. -/
def readData? : Value → Option (List UInt8)
  | .string text =>
    match text.toList with
    | '0' :: 'x' :: digits | '0' :: 'X' :: digits => readBytes? digits
    | digits => readBytes? digits
  | _ => none

/-- The first word of the data is a whole one. -/
theorem size_firstWord {data : List UInt8} (enough : 32 ≤ data.length) :
    (data.take 32).toArray.size = 32 := by
  simp
  omega

/-- The address in the first word of the data; what stands before and behind it does not matter. -/
def addressIn (lookup : Lookup) (data : List UInt8) : Except CallFailure Address :=
  if data.isEmpty then .error (.noData lookup)
  -- More than one word may come back; the first is what was asked for.
  else if enough : 32 ≤ data.length then
    .ok (.ofWord ⟨(data.take 32).toArray, size_firstWord enough⟩)
  else .error .shortData

/-- The address in a reply. -/
def Reply.address (lookup : Lookup) (reply : Reply) : Except CallFailure Address :=
  match reply.result with
  | .error failure => .error failure
  | .ok value =>
    match readData? value with
    | none => .error .unreadable
    | some data => addressIn lookup data

end Warden.Ethereum
