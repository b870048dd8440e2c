import Warden.Supervision.Task
import Warden.Supervision.Trace

/-!
Scenarios of run contexts: their clones, the handles that cancel them and the tokens derived from
them.
-/

namespace Warden.Scenario

open Supervision

/-- A token that is cancelled with its run or on its own. -/
structure Child where
  run : RunId
  cancelled : Bool := false
deriving Repr, DecidableEq, Inhabited

/-- Runs, and the contexts, handles and tokens that refer to them. -/
structure Contexts where
  states : List CancelState := []
  contexts : List RunId := []
  handles : List RunId := []
  children : List Child := []
  trace : Trace := []
deriving Repr, DecidableEq, Inhabited

/-- An operation on contexts; contexts, handles and tokens are named by the order in which they came
to be. -/
inductive ContextOp
  | init
  | clone (context : Nat)
  | handle (context : Nat)
  | cancel (handle : Nat) (cause : Cause)
  | state (context : Nat)
  | handleState (handle : Nat)
  | child (context : Nat)
  | cancelChild (child : Nat)
  | childState (child : Nat)
  | sameId (first second : Nat)
  | idShape (context : Nat)
  | scope (contexts : List Nat)
  | idOutside
deriving Repr, DecidableEq, Inhabited

/-- What an operation on contexts answers. -/
inductive ContextAnswer
  | opened (context handle : Nat)
  | index (index : Nat)
  | flag (value : Bool)
  | state (cancelled : Bool) (cause : Option Cause)
  | visible (contexts : List (Option Nat))
  | shape
  | panicked (message : String)
  | nothing
deriving Repr, DecidableEq, Inhabited

namespace Contexts

/-- The cancellation of a run; a run that is not there has not been cancelled. -/
def stateOf (run : RunId) (s : Contexts) : CancelState :=
  s.states[run]?.getD {}

/-- The run of a context. -/
def runOf (context : Nat) (s : Contexts) : RunId :=
  s.contexts[context]?.getD 0

/-- Cancels a run through one of its handles. -/
def cancel (handle : Nat) (cause : Cause) (s : Contexts) : Bool × Contexts :=
  match s.handles[handle]? with
  | none => (false, s)
  | some run =>
    let (first, state) := (s.stateOf run).cancel cause
    let event : Event :=
      if first then .count (.cancellation run cause) else .notice .main (.cancelledAlready cause)
    (first, { s with states := s.states.set run state, trace := s.trace ++ [⟨0, event⟩] })

/-- A token is cancelled when its run is or it was cancelled itself. -/
def isChildCancelled (child : Nat) (s : Contexts) : Bool :=
  match s.children[child]? with
  | none => false
  | some c => c.cancelled || (s.stateOf c.run).tripped

/-- The first context of a run. -/
def firstOf (run : RunId) (s : Contexts) : Option Nat :=
  s.contexts.findIdx? (· == run)

/-- What nested scopes see: outside, inside each level, and back out again. -/
def visible (nested : List Nat) (s : Contexts) : List (Option Nat) :=
  let inside := none :: nested.map fun context => s.firstOf (s.runOf context)
  inside ++ inside.reverse.drop 1

/-- Takes one operation and answers it. -/
def step (op : ContextOp) (s : Contexts) : ContextAnswer × Contexts :=
  match op with
  | .init =>
    let run := s.states.length
    (.opened s.contexts.length s.handles.length,
      { s with
        states := s.states ++ [{}], contexts := s.contexts ++ [run],
        handles := s.handles ++ [run] })
  | .clone context =>
    (.index s.contexts.length, { s with contexts := s.contexts ++ [s.runOf context] })
  | .handle context =>
    (.index s.handles.length, { s with handles := s.handles ++ [s.runOf context] })
  | .cancel handle cause =>
    let (first, s) := s.cancel handle cause
    (.flag first, s)
  | .state context =>
    let state := s.stateOf (s.runOf context)
    (.state state.tripped state.cause, s)
  | .handleState handle => (.flag (s.stateOf (s.handles[handle]?.getD 0)).tripped, s)
  | .child context =>
    (.index s.children.length, { s with children := s.children ++ [⟨s.runOf context, false⟩] })
  | .cancelChild child =>
    (.nothing, { s with children := s.children.modify child fun c => { c with cancelled := true } })
  | .childState child => (.flag (s.isChildCancelled child), s)
  | .sameId first second => (.flag (s.runOf first == s.runOf second), s)
  | .idShape _ => (.shape, s)
  | .scope nested => (.visible (s.visible nested), s)
  | .idOutside => (.panicked noRunMessage, s)

/-- Answers operations in order. -/
def run : List ContextOp → Contexts → List ContextAnswer × Contexts
  | [], s => ([], s)
  | op :: rest, s =>
    let (answer, s) := s.step op
    let (answers, s) := run rest s
    (answer :: answers, s)

end Contexts

end Warden.Scenario
