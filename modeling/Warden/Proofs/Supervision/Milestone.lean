import Warden.Proofs.Supervision.Turn

/-! The milestones of a supervised run, and what is written between them. -/

namespace Warden.Supervision

/-- What marks the course of a supervised run: a launch, the end of its race, and the two ends of a
stop. -/
inductive Milestone
  | launched (service : Placed)
  | resolved (service : Placed) (outcome : Launched)
  | stopping (service : Placed)
  | stopped (service : Placed) (ok : Bool)
deriving Repr, DecidableEq, Inhabited

/-- The milestone that an event is, if it is one. -/
def Event.milestone? : Event → Option Milestone
  | .launched service => some (.launched service)
  | .count (.start service outcome) => some (.resolved service outcome)
  | .deed (.stop service) => some (.stopping service)
  | .count (.stop service ok) => some (.stopped service ok)
  | _ => none

/-- Whether an event is neither a milestone, nor the end of a start that is up, nor a cancellation
by the group. -/
def Event.isQuiet (event : Event) : Bool :=
  event.milestone?.isNone && match event with
    | .deed (.up _) => false
    | .cancelCall caller _ _ => caller != .group
    | _ => true

/-- The service whose race a milestone ends with success. -/
def Milestone.started? : Milestone → Option Placed
  | .resolved service .started => some service
  | _ => none

/-- One end of a stop. -/
inductive StopAct
  | begins (service : Placed)
  | ends (service : Placed)
deriving Repr, DecidableEq, Inhabited

/-- The end of a stop that a milestone is, if it is one. -/
def Milestone.stopAct? : Milestone → Option StopAct
  | .stopping service => some (.begins service)
  | .stopped service _ => some (.ends service)
  | _ => none

namespace Trace

/-- The milestones in order, each with its time. -/
def milestones (trace : Trace) : List (Nat × Milestone) :=
  trace.filterMap fun stamped => stamped.event.milestone?.map (stamped.time, ·)

/-- The services that started in time, in the order of their races. -/
def started (trace : Trace) : List Placed :=
  trace.milestones.filterMap (·.2.started?)

/-- Where stops began and ended, in order. -/
def stopActs (trace : Trace) : List StopAct :=
  trace.milestones.filterMap (·.2.stopAct?)

@[simp] theorem milestones_append (before after : Trace) :
    milestones (before ++ after) = milestones before ++ milestones after :=
  List.filterMap_append

/-- Where nothing is a milestone there is none. -/
theorem milestones_of_silent {trace : Trace}
    (silent : ∀ stamped ∈ trace, stamped.event.milestone? = none) :
    trace.milestones = [] :=
  List.filterMap_eq_nil_iff.mpr fun stamped member => by simp [silent stamped member]

@[simp] theorem started_append (before after : Trace) :
    started (before ++ after) = started before ++ started after := by
  simp [started]

@[simp] theorem stopActs_append (before after : Trace) :
    stopActs (before ++ after) = stopActs before ++ stopActs after := by
  simp [stopActs]

/-- Where nothing is a milestone nobody has started. -/
theorem started_of_silent {trace : Trace}
    (silent : ∀ stamped ∈ trace, stamped.event.milestone? = none) :
    trace.started = [] := by
  rw [started, milestones_of_silent silent]
  rfl

/-- Nor has anybody been stopped. -/
theorem stopActs_of_silent {trace : Trace}
    (silent : ∀ stamped ∈ trace, stamped.event.milestone? = none) :
    trace.stopActs = [] := by
  rw [stopActs, milestones_of_silent silent]
  rfl

/-- Whether no other milestone is left than those of stops. -/
def Unlaunched (trace : Trace) : Prop :=
  ∀ stamped ∈ trace, ∀ milestone, stamped.event.milestone? = some milestone →
    milestone.stopAct?.isSome = true

/-- Where nothing is launched nothing starts. -/
theorem Unlaunched.started {trace : Trace} (unlaunched : trace.Unlaunched) :
    trace.started = [] := by
  -- Whatever marks a service as started is no end of a stop.
  refine List.filterMap_eq_nil_iff.mpr fun entry member => ?_
  obtain ⟨time, milestone⟩ := entry
  obtain ⟨stamped, listed, same⟩ := List.mem_filterMap.mp member
  obtain ⟨milestone', some_, same'⟩ := Option.map_eq_some_iff.mp same
  cases same'
  have stop := unlaunched stamped listed milestone some_
  cases milestone <;> simp_all [Milestone.started?, Milestone.stopAct?]

/-- A launch is no stop. -/
theorem Unlaunched.not_launched {trace : Trace} (unlaunched : trace.Unlaunched) (service : Placed)
    (time : Nat) :
    ⟨time, .launched service⟩ ∉ trace := fun member => by
  have stop := unlaunched _ member _ rfl
  simp [Milestone.stopAct?] at stop

/-- A stop that begins is one of the acts of stopping. -/
theorem begins_mem_stopActs {trace : Trace} {time : Nat} {service : Placed}
    (member : ⟨time, .deed (.stop service)⟩ ∈ trace) : .begins service ∈ trace.stopActs :=
  List.mem_filterMap.mpr ⟨(time, .stopping service), List.mem_filterMap.mpr ⟨_, member, rfl⟩, rfl⟩

end Trace

/-- A plain event is quiet. -/
theorem Event.isQuiet_of_isPlain {event : Event} (plain : event.isPlain = true) :
    event.isQuiet = true := by
  -- Only deeds, counts and calls are of both kinds, so that these are told apart further.
  cases event with
  | deed deed => cases deed <;> simp_all [isPlain, isQuiet, milestone?]
  | count count => cases count <;> simp_all [isPlain, isQuiet, milestone?]
  | cancelCall caller run cause => cases caller <;> simp_all [isPlain, isQuiet, milestone?]
  | _ => simp_all [isPlain, isQuiet, milestone?]

/-- What a start writes by itself is quiet, unless it says that it is up. -/
theorem Event.ByStart.quiet_or_up {service : Placed} {dropped : Bool} {event : Event}
    (own : event.ByStart service dropped) :
    event.isQuiet = true ∨ event = .deed (.up service) ∧ dropped = false := by
  -- That it is up is said only by a start that has not been dropped.
  cases own with
  | up => exact .inr ⟨rfl, rfl⟩
  | _ => exact .inl rfl

/-- A quiet event is no milestone. -/
theorem Event.milestone?_of_isQuiet {event : Event} (quiet : event.isQuiet = true) :
    event.milestone? = none := by
  simp only [isQuiet, Bool.and_eq_true, Option.isNone_iff_eq_none] at quiet
  exact quiet.1

namespace World

/-- The start of a service goes on and nobody has asked it to end. -/
def Starting (service : Placed) (w : World) : Prop :=
  ∃ (id : TaskId) (task : Task),
    w.task? id = some task ∧ task.ending = none ∧ task.duty = .start service ∧ task.aborted = false

/-- What may be written while the supervising flow waits: quiet events, and that a start which goes
on is up. -/
def MayWrite (w : World) (event : Event) : Prop :=
  event.isQuiet = true ∨ ∃ service, event = .deed (.up service) ∧ w.Starting service

/-- Nothing that may be written in between is a milestone. -/
theorem MayWrite.milestone? {w : World} {event : Event} (writes : w.MayWrite event) :
    event.milestone? = none := by
  rcases writes with quiet | ⟨service, rfl, _⟩
  · exact Event.milestone?_of_isQuiet quiet
  · rfl

/-- What a task may write in a turn that it has before it ends may be written. -/
theorem mayWrite_of_task {w : World} {id : TaskId} {task : Task} (found : w.task? id = some task)
    (live : task.ending = none) {event : Event} (writes : task.MayWrite event) :
    w.MayWrite event := by
  -- What is not plain is written by a start, which goes on if it says that it is up.
  rcases writes with plain | ⟨service, duty, own⟩
  · exact .inl (Event.isQuiet_of_isPlain plain)
  · rcases own.quiet_or_up with quiet | ⟨up, unaborted⟩
    · exact .inl quiet
    · exact .inr ⟨service, up, id, task, found, live, duty, unaborted⟩

end World

end Warden.Supervision
