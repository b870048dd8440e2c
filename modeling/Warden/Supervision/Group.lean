import Warden.Supervision.Flow

/-!
Groups of tasks: the first awaited task that fails decides, and starts that never ended are
abandoned.
-/

namespace Warden.Supervision

namespace World

/-- Adds a task that its group waits for. -/
def spawnAwaited (group : GroupId) (task : Task) (w : World) : TaskId × World :=
  let (id, w) := w.spawn task
  (id, w.changeGroup group fun g => { g with awaited := g.awaited ++ [id] })

/-- Adds a task that its group only keeps track of, under a name. -/
def spawnDetached (group : GroupId) (name : String) (task : Task) (w : World) : TaskId × World :=
  let (id, w) := w.spawn task
  (id, w.changeGroup group fun g => { g with detached := g.detached ++ [(name, id)] })

/-- The tasks that a group waits for. -/
def awaited (group : GroupId) (w : World) : List TaskId :=
  (w.groups[group]?.map (·.awaited)).getD []

/-- The starts that a group keeps track of, with their names. -/
def detached (group : GroupId) (w : World) : List (String × TaskId) :=
  (w.groups[group]?.map (·.detached)).getD []

/-- The awaited task that ended first and has not been joined. -/
def nextEnded (group : GroupId) (w : World) : Option TaskId :=
  w.finished.find? (· ∈ w.awaited group)

/-- The error of a task that ended, if it ended with one. -/
def errorOf (id : TaskId) (w : World) : Option RunError :=
  match (w.task? id).bind (·.ending) with
  | some (.failed error) => some error
  -- A start that was refused or a task that was dropped is no error of the group.
  | some (.panicked payload) => some (.taskPanicked payload.message)
  | _ => none

/-- Takes a task that has been joined out of its group. -/
def release (group : GroupId) (id : TaskId) (w : World) : World :=
  w.changeGroup group fun g => { g with awaited := g.awaited.erase id }

/-- Warns of each tracked task that has not ended, and asks all of them to end. -/
def abandonDetached (group : GroupId) (w : World) : World :=
  -- The warnings come before the first request, so that they name what was unfinished at the wait's
  -- end.
  let starts := w.detached group
  let unfinished := starts.filter fun (_, id) => !w.isEnded id
  let w := unfinished.foldl (fun w (name, _) => w.notice .main (.abandoning name)) w
  (w.changeGroup group fun g => { g with detached := [] }).abortAll (starts.map (·.2))

end World

namespace Flow

/-- Takes in one task that ended: the first error cancels the run, later ones are only noticed. -/
def takeIn (group : GroupId) (run : RunId) (first : Option RunError) (id : TaskId) :
    Flow (Option RunError) := do
  change (·.release group id)
  match ← look (·.errorOf id), first with
  | none, first => return first
  | some error, none =>
    -- The group cancels on its own account; an earlier reason stays.
    let _ ← answer (·.cancel .group run (.taskFailed error.text))
    return some error
  | some error, some first =>
    notice (.furtherError error)
    return some first

/-- Joins as many awaited tasks as are given, in the order in which they end. -/
def join (group : GroupId) (run : RunId) : Nat → Option RunError → Flow (Option RunError)
  | 0, first => return first
  | count + 1, first => do
    await fun w => (w.nextEnded group).isSome
    match ← look (·.nextEnded group) with
    | none => return first
    | some id => join group run count (← takeIn group run first id)

/-- Waits for all awaited tasks of a group and gives the first error. -/
def waitGroup (group : GroupId) : Flow (Option RunError) := do
  let some g ← look (·.groups[group]?) | return none
  let first ← join group g.run g.awaited.length none
  change (·.abandonDetached group)
  return first

end Flow

end Warden.Supervision
