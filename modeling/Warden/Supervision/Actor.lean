import Warden.Supervision.Cause

/-! Who acts in a process, and what an actor finds when it asks for the identifier of its run. -/

namespace Warden.Supervision

/-- The place of a task in the list of all tasks. -/
abbrev TaskId := Nat

/-- Who acts: the flow that supervises, or a task beside it. -/
inductive Party
  | main
  | task (id : TaskId)
deriving Repr, DecidableEq, Inhabited

/-- The name under which a script acts, the run that it cancels and watches, and the run whose
identifier it can read. -/
structure Actor where
  who : String
  run : RunId
  scope : Option RunId
deriving Repr, DecidableEq, Inhabited

/-- The answer of a probe outside every run. -/
def noRunMessage : String := "cannot get exec ID: not inside a supervised run"

/-- What a script finds when it asks for the identifier of its run. -/
def Actor.identifier (actor : Actor) : String :=
  match actor.scope with
  | none => noRunMessage
  | some run => if run = actor.run then "own" else "other"

end Warden.Supervision
