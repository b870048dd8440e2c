import Warden.Log.Entry
import Warden.Supervision.Cause

/-! Scripted behaviour: the steps that services and tasks take, one after another. -/

namespace Warden.Supervision

/-- What a panic carries. -/
inductive Payload
  | text (message : String)
  /-- A value that is no text, of which reports say nothing. -/
  | opaqueValue
deriving Repr, DecidableEq, Inhabited

/-- The message of a panic, as reports show it. -/
def Payload.message : Payload → String
  | .text message => message
  | .opaqueValue => "unknown panic"

/-- One step of a script. -/
inductive Step
  | sleep (millis : Nat)
  /-- Yields to the others once. -/
  | yield
  | note (text : String)
  | log (entry : Log.Entry)
  | cancel (cause : Cause)
  | awaitCancel
  /-- Waits for room in the channel. -/
  | signal (signal : Signal)
  /-- Does not wait for room in the channel. -/
  | trySignal (signal : Signal)
  /-- A signal of the system. -/
  | raise (signal : Signal)
  /-- Asks for the identifier of the run. -/
  | probe
  | fail (error : String)
  | failWith (error : RunError)
  | panic (payload : Payload)
  | hang
deriving Repr, DecidableEq, Inhabited

/-- Steps in order; a script that reaches its end has succeeded. -/
abbrev Script := List Step

/-- How a script ends. -/
inductive Outcome
  | done
  | failed (error : String)
  | failedWith (error : RunError)
  | panicked (payload : Payload)
deriving Repr, DecidableEq, Inhabited

/-- A component that is started and stopped by the supervisor. -/
structure Service where
  name : String
  start : Script := []
  stop : Script := []
deriving Repr, DecidableEq, Inhabited

/-- A service at its place in a list. -/
structure Placed where
  position : Nat
  service : Service
deriving Repr, DecidableEq, Inhabited

/-- A service is known by its name; two services may share one. -/
def Placed.name (p : Placed) : String := p.service.name

/-- The services of a list with their places. -/
def placed (services : List Service) : List Placed :=
  services.zipIdx.map fun (service, position) => ⟨position, service⟩

end Warden.Supervision
