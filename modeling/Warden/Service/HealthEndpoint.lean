import Warden.Config.Basic
import Warden.Document.Compact
import Warden.Log.Entry
import Warden.Net.Listen

/-!
The health endpoint: it listens from its start to its stop, or until its run is cancelled, and
reports its container.
-/

namespace Warden.Service

/-- An endpoint of one container, with the address at which it listens. -/
structure HealthEndpoint where
  config : Config.Health
  container : String
  cancelled : Bool := false
  address : Option Net.SocketAddress := none
deriving Repr, DecidableEq

/-- What a request is answered. -/
structure Response where
  status : Nat
  contentType : Option String := none
  allow : Option String := none
  body : String := ""
deriving Repr, DecidableEq, Inhabited

namespace HealthEndpoint

/-- The name under which the endpoint is supervised. -/
def name : String := "health"

/-- The only path at which there is something to read. -/
def path : String := "/health"

/-- The entry of an endpoint that begins to listen. -/
def listening (address : Net.SocketAddress) : Log.Entry :=
  ⟨.health, .info, "Health endpoint listening", [("address", address.text)]⟩

/-- The entry of an endpoint that has stopped. -/
def stopped : Log.Entry :=
  ⟨.health, .info, "Health endpoint stopped", []⟩

/-- Listens at the address that is configured. -/
def start (endpoint : HealthEndpoint) (machine : Net.Machine) :
    Except Net.ListenError (Log.Entry × HealthEndpoint) :=
  match machine.listen endpoint.config.bindAddress with
  | .error e => .error e
  | .ok address => .ok (listening address, { endpoint with address := some address })

/-- Whether requests are served. -/
def isServing (endpoint : HealthEndpoint) : Bool :=
  endpoint.address.isSome && !endpoint.cancelled

/-- The report on the container and its run. -/
def report (endpoint : HealthEndpoint) (run : String) : Document.Value :=
  .table [("status", .string "ok"), ("exec_id", .string run),
    ("container", .string endpoint.container)]

/-- Answers a request: the report can be read, with or without its body, and not changed; a query
changes nothing. -/
def answer (endpoint : HealthEndpoint) (run method target : String) : Response :=
  if target.toList.takeWhile (· != '?') ≠ path.toList then { status := 404 }
  else if method = "GET" then
    { status := 200, contentType := some "application/json", body := (endpoint.report run).compact }
  else if method = "HEAD" then { status := 200, contentType := some "application/json" }
  else { status := 405, allow := some "GET,HEAD" }

/-- The run ends: nothing is served any more, but the address is kept until the stop. -/
def cancel (endpoint : HealthEndpoint) : HealthEndpoint :=
  { endpoint with cancelled := true }

/-- Stops; there is something to log only if the endpoint was listening. -/
def stop (endpoint : HealthEndpoint) : Option Log.Entry × HealthEndpoint :=
  (endpoint.address.map fun _ => stopped, { endpoint with cancelled := true, address := none })

end HealthEndpoint

end Warden.Service
