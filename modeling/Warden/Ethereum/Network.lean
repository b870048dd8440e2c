import Warden.Decimal.Binary64
import Warden.Ethereum.Call
import Warden.Log.Entry
import Warden.Net.Url

/-! The servers behind their locators, and a session in which they are asked. -/

namespace Warden.Ethereum

/-- A question that was put to a server, and whether it got there. -/
structure Attempt where
  url : Net.Url
  request : Request
  received : Bool
deriving Repr, DecidableEq

/-- What becomes of a question: a reply after some milliseconds, silence, or no connection. -/
inductive Delivery
  | reply (delay : Nat) (reply : Reply)
  | silence
  | unreachable
deriving Repr, Inhabited

/-- How each question is treated, which may depend on all the questions before it. -/
abbrev Network := List Attempt → Net.Url → Request → Delivery

/-- The network without any server. -/
def sealed : Network := fun _ _ _ => .unreachable

/-- A value that is shown to those who watch: whether the chain can be reached, or its latest
block. -/
inductive Reading
  | health (reachable : Bool)
  | head (block : Nat)
deriving Repr, DecidableEq, Inhabited

namespace Reading

/-- The name under which it is shown whether the chain can be reached. -/
def healthName : String := "chain_rpc_health"

/-- The name under which its latest block is shown. -/
def headName : String := "chain_head_block"

/-- The name under which a value is shown. -/
def name : Reading → String
  | .health _ => healthName
  | .head _ => headName

/-- The value as text; what shows it holds a double. -/
def value : Reading → String
  | .health reachable => if reachable then "1" else "0"
  | .head block => toString (Decimal.nearestWhole block)

end Reading

/-- What has happened while servers were asked. -/
structure Session where
  attempts : List Attempt := []
  entries : List Log.Entry := []
  readings : List Reading := []

/-- The values shown under a name, in order. -/
def Session.shown (session : Session) (name : String) : List String :=
  (session.readings.filter (·.name == name)).map (·.value)

/-- Questions asked one after another. -/
abbrev Asking := StateM Session

/-- Writes an entry to the log. -/
def note (entry : Log.Entry) : Asking Unit :=
  modify fun s => { s with entries := s.entries ++ [entry] }

/-- Shows a value. -/
def gauge (reading : Reading) : Asking Unit :=
  modify fun s => { s with readings := s.readings ++ [reading] }

/-- The outcome of a call: what was read, why nothing could be read, or that the time ran out. -/
inductive Outcome (α : Type)
  | value (value : α)
  | failure (failure : CallFailure)
  | late
deriving Repr, Inhabited

/-- The locator as failures show it, without the name of a user. -/
def shownUrl (url : Net.Url) : String :=
  { url with credentials := "" : Net.Url }.text

/-- Whether questions can be sent to a locator at all. -/
def isSupported (url : Net.Url) : Bool :=
  url.scheme == "http" || url.scheme == "https"

/-- Puts one question to a server and waits for its reply for less than the timeout, in seconds. -/
def ask {α : Type} (network : Network) (timeout : Nat) (url : Net.Url) (request : Request)
    (read : Reply → Except CallFailure α) : Asking (Outcome α) := do
  -- A locator of another scheme is refused before the network sees the question.
  if !isSupported url then return .failure (.unsupported (shownUrl url))
  let delivery := network (← get).attempts url request
  -- Silence is an attempt that was received; a server that cannot be reached receives nothing.
  let received := match delivery with
    | .unreachable => false
    | _ => true
  modify fun s => { s with attempts := s.attempts ++ [⟨url, request, received⟩] }
  match delivery with
  | .unreachable => return .failure (.unsent (shownUrl url))
  | .silence => return .late
  | .reply delay reply =>
    -- A reply that comes at the very end of the time is late.
    if timeout * 1000 ≤ delay then return .late
    else
      match read reply with
      | .ok a => return .value a
      | .error failure => return .failure failure

end Warden.Ethereum
