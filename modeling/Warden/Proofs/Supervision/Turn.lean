import Warden.Proofs.Supervision.Frame
import Warden.Supervision.Trace

/-!
What one turn can do: everything that is not the acting party's own stays as it was, or is woken.
-/

namespace Warden.Supervision

/-- What scripts, watchers, listeners and forwarders write; the rest is written by starts and by the
supervising flow. -/
def Event.isPlain : Event → Bool
  | .deed (.noted _ _) | .deed (.cancelled _ _) | .deed (.sawCancel _) | .deed (.sent _)
  | .deed (.tried _ _) | .deed (.probed _ _) | .deed (.escalated _) => true
  | .notice _ (.cancelledAlready _) | .notice _ (.signalReceived _) | .notice _ (.forcingExit _)
  | .notice _ (.signalIgnored _) | .notice _ (.signalEscalated _) | .notice _ (.contextDone _)
  | .notice _ (.other _) => true
  | .count (.cancellation _ _) | .accepted _ | .handled _ _ => true
  | .cancelCall caller _ _ => caller != .group && caller != .launcher && caller != .start
  | _ => false

/-- Whether an event is the call of a cancellation, or counts the first one. -/
def Event.isCall : Event → Bool
  | .cancelCall _ _ _ | .count (.cancellation _ _) => true
  | _ => false

/-- Who reads an identifier in an event, and as which actor, if that is what the event tells. -/
def Event.reading? : Event → Option (Party × Actor)
  | .deed (.probed party actor) => some (party, actor)
  | _ => none

/-- The cause with which an event counts the cancellation of a run. -/
def Event.cancellation? (run : RunId) : Event → Option Cause
  | .count (.cancellation other cause) => if other = run then some cause else none
  | _ => none

/-- The causes with which cancellations of a run were counted, in order. -/
def Trace.cancellations (run : RunId) (trace : Trace) : List Cause :=
  trace.filterMap (·.event.cancellation? run)

/-- What the start of a service writes by itself; a start that is dropped only says so. -/
inductive Event.ByStart (service : Placed) : (dropped : Bool) → Event → Prop
  | begun : ByStart service false (.deed (.start service))
  | up : ByStart service false (.deed (.up service))
  | refused : ByStart service false (.deed (.startFailed service))
  | late : ByStart service false (.notice .task (.lateStart service))
  | failed (error : String) : ByStart service false (.notice .task (.startFailed service error))
  | called (run : RunId) (error : String) :
    ByStart service false (.cancelCall .start run (.startFailed service.name error))
  | abandoned : ByStart service true (.abandoned service)

/-- What a task may write in its turns. -/
def Task.MayWrite (task : Task) (event : Event) : Prop :=
  event.isPlain = true ∨ ∃ service, task.duty = .start service ∧ event.ByStart service task.aborted

/-- What a task may write in its turns if it stands at a place among all tasks: it reads an
identifier only as itself. -/
def Task.Writes (id : TaskId) (task : Task) (event : Event) : Prop :=
  task.MayWrite event ∧ ∀ reading, event.reading? = some reading → reading = (.task id, task.actor)

/-- A task goes on as what it was; once it has ended, its ending stays. -/
structure Task.Continues (task task' : Task) : Prop where
  duty : task'.duty = task.duty
  actor : task'.actor = task.actor
  aborted : task'.aborted = task.aborted
  ended : task.ending.isSome → task'.ending = task.ending

/-- A task goes on as what it is. -/
theorem Task.Continues.refl (task : Task) : task.Continues task := ⟨rfl, rfl, rfl, fun _ => rfl⟩

/-- What a task goes on as goes on in its turn. -/
theorem Task.Continues.trans {task task₁ task₂ : Task} (first : task.Continues task₁)
    (second : task₁.Continues task₂) : task.Continues task₂ where
  duty := second.duty.trans first.duty
  actor := second.actor.trans first.actor
  aborted := second.aborted.trans first.aborted
  ended := fun ended => (second.ended (first.ended ended ▸ ended)).trans (first.ended ended)

/-- The state of cancellation that follows from the first call. -/
def CancelState.after (call : Option Call) : CancelState :=
  ⟨call.map (·.cause), call.isSome⟩

namespace World

/-- The tasks that wait for the cancellation of a run. -/
def waiters (run : RunId) (w : World) : List TaskId :=
  (w.runs[run]?.map (·.waiters)).getD []

/-- A task will not miss the cancellation of a run: it waits for it, or it has come and the task's
turn is due. -/
def Heeds (run : RunId) (id : TaskId) (w : World) : Prop :=
  w.isCancelled run = true ∧ id ∈ w.ready ∨ w.isCancelled run = false ∧ id ∈ w.waiters run

/-- The books are kept: each run stands as the first call for it says, and the tasks that have ended
are listed once. -/
structure Sound (w : World) : Prop where
  recorded : ∀ (run : RunId) (r : Run), w.runs[run]? = some r →
    r.state = .after (w.trace.firstCall run)
  unopened : ∀ run : RunId, w.runs[run]? = none → w.trace.firstCall run = none
  finished : ∀ id, id ∈ w.finished ↔ w.isEnded id = true
  once : w.finished.Nodup

/-- Of each run exactly the first call is counted. -/
def Counted (w : World) : Prop :=
  ∀ run, w.trace.cancellations run = ((w.trace.firstCall run).map (·.cause)).toList

/-- The first call of all is the first one of the part that has one. -/
theorem firstCall_append (run : RunId) (before after : Trace) :
    Trace.firstCall run (before ++ after) = (before.firstCall run).or (after.firstCall run) :=
  List.findSome?_append

/-- What is not a call leaves the first call as it is. -/
theorem firstCall_append_quiet (run : RunId) (trace : Trace) {later : Trace}
    (quiet : ∀ stamped ∈ later, stamped.event.isCall = false) :
    Trace.firstCall run (trace ++ later) = trace.firstCall run := by
  -- Nothing is found in what was written later, so that the search ends where it did before.
  have none_ : Trace.firstCall run later = none := by
    refine List.findSome?_eq_none_iff.mpr fun stamped member => ?_
    obtain ⟨time, event⟩ := stamped
    have uncalled := quiet _ member
    cases event <;> simp_all [Stamped.call?, Event.isCall]
  rw [firstCall_append, none_, Option.or_none]

/-- What is no call leaves the first call as it is. -/
theorem firstCall_quiet (run : RunId) (trace : Trace) (time : Nat) {event : Event}
    (quiet : event.isCall = false) :
    Trace.firstCall run (trace ++ [⟨time, event⟩]) = trace.firstCall run :=
  firstCall_append_quiet run trace fun _ member => List.mem_singleton.mp member ▸ quiet

/-- What is not a call is not counted as one. -/
theorem cancellations_append_quiet (run : RunId) (trace : Trace) {later : Trace}
    (quiet : ∀ stamped ∈ later, stamped.event.isCall = false) :
    Trace.cancellations run (trace ++ later) = trace.cancellations run := by
  -- Only counts of cancellations matter here, and those are not quiet.
  have none_ : Trace.cancellations run later = [] := by
    refine List.filterMap_eq_nil_iff.mpr fun stamped member => ?_
    have uncalled := quiet stamped member
    generalize stamped.event = event at uncalled
    cases event with
    | count count => cases count <;> simp_all [Event.isCall, Event.cancellation?]
    | _ => rfl
  exact List.filterMap_append.trans ((congrArg _ none_).trans (List.append_nil _))

/-- Where neither a first call nor a count changes, exactly the first calls are counted as
before. -/
theorem Counted.congr {w w' : World} (calls : ∀ run, w'.trace.firstCall run = w.trace.firstCall run)
    (counts : ∀ run, w'.trace.cancellations run = w.trace.cancellations run) (counted : w.Counted) :
    w'.Counted := by
  intro run
  rw [calls, counts, counted]

/-- The count depends on the trace alone. -/
theorem Counted.same {w w' : World} (counted : w.Counted) (trace : w'.trace = w.trace) :
    w'.Counted :=
  counted.congr (fun _ => by rw [trace]) fun _ => by rw [trace]

/-- The books stay kept where neither a run's state, nor a first call, nor an ending changes. -/
theorem Sound.congr {w w' : World}
    (states : ∀ run : RunId, w'.runs[run]?.map Run.state = w.runs[run]?.map Run.state)
    (calls : ∀ run, w'.trace.firstCall run = w.trace.firstCall run)
    (finished : w'.finished = w.finished) (ended : ∀ id, w'.isEnded id = w.isEnded id)
    (sound : w.Sound) : w'.Sound where
  recorded := by
    -- Both worlds keep the same states of runs, and the first calls say the same of them.
    intro run r' found'
    have state := states run
    rw [found'] at state
    obtain ⟨r, found, same⟩ := Option.map_eq_some_iff.mp state.symm
    rw [← same, calls, sound.recorded run r found]
  unopened := by
    intro run missing
    have state := states run
    rw [missing] at state
    rw [calls, sound.unopened run (Option.map_eq_none_iff.mp state.symm)]
  finished := by
    intro id
    rw [finished, ended, sound.finished]
  once := finished ▸ sound.once

/-- The books stay kept where none of what they are about changes. -/
theorem Sound.same {w w' : World} (sound : w.Sound) (runs : w'.runs = w.runs)
    (trace : w'.trace = w.trace) (finished : w'.finished = w.finished)
    (tasks : w'.tasks = w.tasks) : w'.Sound :=
  sound.congr (fun _ => by rw [runs]) (fun _ => by rw [trace]) finished
    fun _ => by simp only [isEnded, task?, tasks]

/-- What a party can do to a world while it acts, if it may write no other events than these. -/
structure Acts (may : Event → Prop) (party : Party) (w w' : World) : Prop where
  now : w'.now = w.now
  horizon : w'.horizon = w.horizon
  groups : w'.groups = w.groups
  started : w'.started = w.started
  forwarder : w'.forwarder = w.forwarder
  awaiting : party ≠ .main → w'.awaiting = w.awaiting
  runs : w'.runs.length = w.runs.length
  count : w'.tasks.length = w.tasks.length
  others : ∀ id, party ≠ .task id → w'.task? id = w.task? id
  own : ∀ id task, w.task? id = some task → ∃ task', w'.task? id = some task' ∧ task.Continues task'
  ready : w.ready ⊆ w'.ready
  timers : ∀ timer ∈ w.timers, party ≠ .task timer.task → timer ∈ w'.timers
  yielded : w.yielded ⊆ w'.yielded
  heeds : ∀ run id, party ≠ .task id → w.isLive id = true → w.Heeds run id → w'.Heeds run id
  finished : ∃ more, w'.finished = w.finished ++ more ∧ ∀ id ∈ more, party = .task id
  exited : w.exited.isSome → w'.exited.isSome
  trace : ∃ events : List Event,
    w'.trace = w.trace ++ events.map (Stamped.mk w.now) ∧ ∀ event ∈ events, may event
  sound : w.Sound → w'.Sound
  counted : w.Sound → w.Counted → w'.Counted

namespace Acts

variable {may : Event → Prop} {party : Party} {w w₁ w₂ : World}

/-- To do nothing is an act of anybody. -/
theorem refl (may : Event → Prop) (party : Party) (w : World) : Acts may party w w where
  now := rfl
  horizon := rfl
  groups := rfl
  started := rfl
  forwarder := rfl
  awaiting := fun _ => rfl
  runs := rfl
  count := rfl
  others := fun _ _ => rfl
  own := fun _ task found => ⟨task, found, .refl task⟩
  ready := fun _ member => member
  timers := fun _ member _ => member
  yielded := fun _ member => member
  heeds := fun _ _ _ _ heeds => heeds
  finished := ⟨[], (List.append_nil _).symm, by simp⟩
  exited := id
  trace := ⟨[], (List.append_nil _).symm, by simp⟩
  sound := id
  counted := fun _ counted => counted

/-- A task of another party is live after the act exactly if it was before. -/
theorem isLive (acts : Acts may party w w₁) {id : TaskId} (other : party ≠ .task id) :
    w₁.isLive id = w.isLive id := by
  simp only [World.isLive, acts.others id other]

/-- What may write less may write more. -/
theorem mono {more : Event → Prop} (acts : Acts may party w w₁)
    (allowed : ∀ event, may event → more event) :
    Acts more party w w₁ :=
  { acts with trace := acts.trace.imp fun _ written =>
      ⟨written.1, fun event member => allowed event (written.2 event member)⟩ }

/-- Acts follow one another. -/
theorem trans (first : Acts may party w w₁) (second : Acts may party w₁ w₂) :
    Acts may party w w₂ where
  now := second.now.trans first.now
  horizon := second.horizon.trans first.horizon
  groups := second.groups.trans first.groups
  started := second.started.trans first.started
  forwarder := second.forwarder.trans first.forwarder
  awaiting := fun outsider => (second.awaiting outsider).trans (first.awaiting outsider)
  runs := second.runs.trans first.runs
  count := second.count.trans first.count
  others := fun id other => (second.others id other).trans (first.others id other)
  own := fun id task found => by
    obtain ⟨task₁, found₁, continues₁⟩ := first.own id task found
    obtain ⟨task₂, found₂, continues₂⟩ := second.own id task₁ found₁
    exact ⟨task₂, found₂, continues₁.trans continues₂⟩
  ready := fun _ member => second.ready (first.ready member)
  timers := fun timer member other => second.timers timer (first.timers timer member other) other
  yielded := fun _ member => second.yielded (first.yielded member)
  heeds := fun run id other live heeds =>
    second.heeds run id other (first.isLive other ▸ live) (first.heeds run id other live heeds)
  finished := by
    -- What has ended in the two acts is listed one after the other, and so is what they wrote.
    obtain ⟨more₁, same₁, own₁⟩ := first.finished
    obtain ⟨more₂, same₂, own₂⟩ := second.finished
    refine ⟨more₁ ++ more₂, by rw [same₂, same₁, List.append_assoc], ?_⟩
    intro id member
    exact (List.mem_append.mp member).elim (own₁ id) (own₂ id)
  exited := fun gone => second.exited (first.exited gone)
  trace := by
    obtain ⟨events₁, same₁, written₁⟩ := first.trace
    obtain ⟨events₂, same₂, written₂⟩ := second.trace
    refine ⟨events₁ ++ events₂,
      by rw [same₂, same₁, first.now, List.map_append, List.append_assoc], ?_⟩
    intro event member
    exact (List.mem_append.mp member).elim (written₁ event) (written₂ event)
  sound := fun sound => second.sound (first.sound sound)
  counted := fun sound counted => second.counted (first.sound sound) (first.counted sound counted)

end Acts

section Operations

variable {may : Event → Prop} {party : Party} {w : World}

/-- Writing something that is not a call is all that it does. -/
theorem emit_acts {event : Event} (written : may event) (quiet : event.isCall = false) :
    Acts may party w (w.emit event) :=
  have calls : ∀ run, (w.emit event).trace.firstCall run = w.trace.firstCall run :=
    fun run => firstCall_quiet run _ _ quiet
  { Acts.refl may party w with
    trace := ⟨[event], rfl, by simpa using written⟩
    sound := Sound.congr (fun _ => rfl) calls rfl fun _ => rfl
    counted := fun _ => Counted.congr calls fun run =>
      cancellations_append_quiet run _ fun _ member => List.mem_singleton.mp member ▸ quiet }

/-- A task that is woken keeps everything that it had. -/
theorem wake_acts (id : TaskId) : Acts may party w (w.wake id) := by
  -- Either the turn was due before, or it is the only one that is added.
  unfold wake
  split
  · exact .refl may party w
  · exact { Acts.refl may party w with
      ready := fun _ member => List.mem_append_left _ member
      heeds :=
        fun _ _ _ _ heeds => heeds.imp (And.imp_right (List.mem_append_left _)) fun waits => waits
      sound := fun sound => sound.same rfl rfl rfl rfl }

/-- Many are woken one by one. -/
theorem wakeAll_acts (ids : List TaskId) : Acts may party w (w.wakeAll ids) := by
  -- The tasks are woken one after another.
  induction ids generalizing w with
  | nil => exact .refl may party w
  | cons id ids ih => exact (wake_acts id).trans ih

/-- The supervising flow is no task, so that it is woken by a note of its own. -/
theorem wakeParty_acts (woken : Party) : Acts may party w (w.wakeParty woken) := by
  cases woken with
  | main => exact .refl may party w
  | task id => exact wake_acts id

/-- The channel is nothing that an act is bound to leave alone. -/
theorem changeChannel_acts (change : Channel → Channel) :
    Acts may party w (w.changeChannel change) :=
  { Acts.refl may party w with sound := fun sound => sound.same rfl rfl rfl rfl }

/-- A live task that is woken has its turn due. -/
theorem mem_ready_wake {id : TaskId} (live : w.isLive id = true) : id ∈ (w.wake id).ready := by
  -- A turn that was due stays due, and otherwise it is added at the end.
  unfold wake
  split
  · rename_i due
    simpa [live] using due
  · simp

/-- Waking changes the list of due turns and nothing else. -/
theorem wakeAll_eq (ids : List TaskId) : ∃ ready, w.wakeAll ids = { w with ready } := by
  -- Each time only the list of due turns can change.
  induction ids generalizing w with
  | nil => exact ⟨w.ready, rfl⟩
  | cons id ids ih =>
    obtain ⟨ready, same⟩ := ih (w := w.wake id)
    refine ⟨ready,
      (show w.wakeAll (id :: ids) = (w.wake id).wakeAll ids from rfl).trans (same.trans ?_)⟩
    unfold wake
    split <;> rfl

@[simp] theorem trace_wakeAll (ids : List TaskId) (w : World) :
    (w.wakeAll ids).trace = w.trace := by
  obtain ⟨ready, same⟩ := wakeAll_eq (w := w) ids
  rw [same]

/-- A live task that is among those that are woken has its turn due. -/
theorem mem_ready_wakeAll {ids : List TaskId} {id : TaskId} (member : id ∈ ids)
    (live : w.isLive id = true) :
    id ∈ (w.wakeAll ids).ready := by
  -- Once a task has been woken, those that come after it in the list do not undo that.
  induction ids generalizing w with
  | nil => simp at member
  | cons first ids ih =>
    rcases List.mem_cons.mp member with rfl | member
    · have later : Acts (fun _ => True) .main (w.wake id) ((w.wake id).wakeAll ids) :=
        wakeAll_acts ids
      exact later.ready (mem_ready_wake live)
    · exact ih member (by simpa [isLive, task?] using live)

/-- Calling off a run changes that run, the list of due turns and the trace, and nothing else. -/
theorem trip_eq (caller : Caller) (run : RunId) (cause : Cause) (r : Run) (w : World) :
    ∃ ready, w.trip caller run cause r = { w with
      runs := w.runs.modify run fun _ => ⟨(r.state.cancel cause).2, []⟩
      ready
      trace := w.trace ++ [⟨w.now, .cancelCall caller run cause⟩] } :=
  wakeAll_eq r.waiters

@[simp] theorem runs_trip (caller : Caller) (run : RunId) (cause : Cause) (r : Run) (w : World) :
    (w.trip caller run cause r).runs = w.runs.modify run fun _ =>
      ⟨(r.state.cancel cause).2, []⟩ := by
  obtain ⟨ready, same⟩ := trip_eq caller run cause r w
  rw [same]

@[simp] theorem finished_trip (caller : Caller) (run : RunId) (cause : Cause) (r : Run)
    (w : World) :
    (w.trip caller run cause r).finished = w.finished := by
  obtain ⟨ready, same⟩ := trip_eq caller run cause r w
  rw [same]

@[simp] theorem trace_trip (caller : Caller) (run : RunId) (cause : Cause) (r : Run) (w : World) :
    (w.trip caller run cause r).trace = w.trace ++ [⟨w.now, .cancelCall caller run cause⟩] := by
  obtain ⟨ready, same⟩ := trip_eq caller run cause r w
  rw [same]

/-- The first call of a run that has one stays; a run without one gets it now. -/
theorem firstCall_call (run called : RunId) (caller : Caller) (cause : Cause) (time : Nat)
    (trace : Trace) :
    Trace.firstCall run (trace ++ [⟨time, .cancelCall caller called cause⟩]) =
      (trace.firstCall run).or (if called = run then some ⟨time, caller, cause⟩ else none) := by
  -- The search goes on to the new call only if it has found nothing before.
  rw [firstCall_append]
  congr 1
  simp only [Trace.firstCall, List.findSome?_cons, List.findSome?_nil, Stamped.call?]
  split <;> simp_all

/-- Whoever heeds a run does so after any run has been called off. -/
theorem Heeds.trip {caller : Caller} {run called : RunId} {cause : Cause} {r : Run} {id : TaskId}
    (found : w.runs[called]? = some r) (live : w.isLive id = true) (heeds : w.Heeds run id) :
    (w.trip caller called cause r).Heeds run id := by
  have woke : Acts (fun _ => True) .main
      ((w.emit (.cancelCall caller called cause)).changeRun called fun _ =>
        ⟨(r.state.cancel cause).2, []⟩)
      (w.trip caller called cause r) := wakeAll_acts _
  by_cases same : called = run
  · -- Whoever heeds this run was woken now, unless the cancellation had come before.
    subst same
    refine .inl ⟨by simp [isCancelled, List.getElem?_modify_eq, found], ?_⟩
    rcases heeds with ⟨_, due⟩ | ⟨_, waits⟩
    · exact woke.ready due
    · exact mem_ready_wakeAll (by simpa [waiters, found] using waits) live
  · -- Another run keeps its state and its waiters.
    simp only [Heeds, isCancelled, waiters, runs_trip, List.getElem?_modify_ne _ _ same] at heeds ⊢
    rcases heeds with ⟨cancelled, due⟩ | waits
    · exact .inl ⟨cancelled, woke.ready due⟩
    · exact .inr waits

/-- The books stay kept when a run is called off: the call is written, and the run stands as the
first call says. -/
theorem Sound.trip {caller : Caller} {run : RunId} {cause : Cause} {r : Run}
    (found : w.runs[run]? = some r) (sound : w.Sound) : (w.trip caller run cause r).Sound where
  recorded := by
    intro other r' found'
    rw [trace_trip, firstCall_call]
    rw [runs_trip] at found'
    -- A call for the run itself may be its first; a call for another one is none of its own.
    by_cases same : run = other
    · subst same
      simp only [List.getElem?_modify_eq, found, Option.map_eq_map, Option.map_some,
        Option.some.injEq] at found'
      subst found'
      have state := sound.recorded run r found
      -- Only a run that has not been called off yet takes the cause of this call.
      cases first : w.trace.firstCall run with
      | none =>
        simp only [first, CancelState.after] at state
        simp [CancelState.after, CancelState.cancel, state]
      | some call =>
        simp only [first, CancelState.after] at state
        simp [CancelState.after, CancelState.cancel, state]
    · rw [List.getElem?_modify_ne _ _ same] at found'
      simpa [same] using sound.recorded other r' found'
  unopened := by
    intro other missing
    have absent : w.runs[other]? = none := by simpa using missing
    have different : run ≠ other := fun same => by simp [← same, found] at absent
    rw [trace_trip, firstCall_call, sound.unopened other absent]
    simp [different]
  finished := by
    intro id
    have ended : (w.trip caller run cause r).isEnded id = w.isEnded id := by
      simp [isEnded, task?, World.trip]
    rw [ended, finished_trip, sound.finished]
  once := by
    rw [finished_trip]
    exact sound.once

/-- A call and what is written with it are one act, if a call that is the first one is counted with
it. -/
theorem trip_acts {caller : Caller} {run : RunId} {cause : Cause} {r : Run} {event : Event}
    (found : w.runs[run]? = some r) (call : may (.cancelCall caller run cause))
    (written : may event) (uncalled : ∀ other time, Stamped.call? other ⟨time, event⟩ = none)
    (counts : ∀ other, event.cancellation? other = if run = other ∧
      (r.state.cancel cause).1 = true then some cause else none) :
    Acts may party w ((w.trip caller run cause r).emit event) := by
  have woke : Acts may party
      ((w.emit (.cancelCall caller run cause)).changeRun run fun _ =>
        ⟨(r.state.cancel cause).2, []⟩)
      (w.trip caller run cause r) := wakeAll_acts _
  have trace : ((w.trip caller run cause r).emit event).trace =
      w.trace ++ [.cancelCall caller run cause, event].map (Stamped.mk w.now) := by
    obtain ⟨ready, same⟩ := trip_eq caller run cause r w
    rw [same]
    simp [emit]
  have calls : ∀ other, ((w.trip caller run cause r).emit event).trace.firstCall other =
      (w.trip caller run cause r).trace.firstCall other := by
    intro other
    refine (firstCall_append other _ _).trans ?_
    simp [Trace.firstCall, uncalled]
  -- Neither the call nor the change of the run touches anything that waking leaves alone.
  refine {
    now := woke.now, horizon := woke.horizon, groups := woke.groups, started := woke.started
    forwarder := woke.forwarder, runs := by simp [emit], count := woke.count
    others := woke.others, own := woke.own
    awaiting := woke.awaiting, ready := woke.ready, timers := woke.timers, yielded := woke.yielded
    finished := woke.finished, exited := woke.exited
    heeds := fun other id _ live heeds => heeds.trip found live
    trace := ⟨_, trace, by simp [call, written]⟩
    sound := fun sound =>
      Sound.congr (w := w.trip caller run cause r) (fun _ => rfl) calls rfl (fun _ => rfl)
        (sound.trip found)
    counted := fun sound counted other => ?_ }
  -- The call is the first one of its run exactly if its cause is counted with it.
  rw [calls, trace_trip, firstCall_call, trace, List.map_cons, Trace.cancellations,
    List.filterMap_append]
  have before : w.trace.filterMap (·.event.cancellation? other) = _ := counted other
  rw [before]
  by_cases same : run = other
  · subst same
    have state := sound.recorded run r found
    rw [state, CancelState.first_cancel] at counts
    -- The run was called off before, or this is the first call for it, and then it is the one that
    -- counts.
    cases first : w.trace.firstCall run <;> simp_all [CancelState.after, Event.cancellation?]
  · cases first : w.trace.firstCall other <;> simp_all [Event.cancellation?]

/-- A cancellation notes its call and, if it is the first, its cause; whoever waits for it is
woken. -/
theorem cancel_acts {caller : Caller} {run : RunId} {cause : Cause}
    (call : may (.cancelCall caller run cause)) (count : may (.count (.cancellation run cause)))
    (again : may (.notice caller.origin (.cancelledAlready cause))) :
    Acts may party w (w.cancel caller run cause).2 := by
  -- First or not, the call trips the switch; only what is written afterwards differs.
  unfold cancel
  split
  · exact .refl may party w
  · rename_i r found
    split
    · rename_i first
      exact trip_acts found call count (fun _ _ => rfl)
        fun other => by simp [Event.cancellation?, first]
    · rename_i later
      exact trip_acts found call again (fun _ _ => rfl)
        fun other => by simp [Event.cancellation?, later]

variable (plain : ∀ event : Event, event.isPlain = true → event.reading? = none → may event)
include plain

/-- A signal that has room is taken in. -/
theorem deliver_acts (signal : Signal) : Acts may party w (w.deliver signal) := by
  -- The place of the channel is filled, and the listener that holds the receiving end is woken.
  have filled :
    Acts may party w
      ((w.changeChannel fun c => { c with slot := .full signal }).emit (.accepted signal)) :=
    (changeChannel_acts _).trans (emit_acts (plain _ rfl rfl) rfl)
  dsimp only [deliver]
  split
  · exact filled
  · exact filled.trans (wake_acts _)

omit plain in
/-- A place that becomes free is promised to the next sender in line. -/
theorem vacate_acts : Acts may party w w.vacate := by
  -- The place is free, unless a sender has waited for it and is woken.
  unfold vacate
  split
  · exact changeChannel_acts _
  · exact (changeChannel_acts _).trans (wakeParty_acts _)

omit plain in
/-- The receiving end is passed on to the next listener in line. -/
theorem passReceiver_acts : Acts may party w w.passReceiver := by
  unfold passReceiver
  split
  · exact changeChannel_acts _
  · exact (changeChannel_acts _).trans (wake_acts _)

omit plain in
/-- A change of the waiters of a run that keeps those of other parties keeps what they heed. -/
theorem changeWaiters_acts {run : RunId} {change : Run → Run}
    (state : ∀ r, (change r).state = r.state)
    (keeps : ∀ r id, party ≠ .task id → id ∈ r.waiters → id ∈ (change r).waiters) :
    Acts may party w (w.changeRun run change) := by
  -- A run that keeps its state is as cancelled as before, so that only who waits for it has to be
  -- compared.
  have states : ∀ other : RunId, (w.runs.modify run change)[other]?.map Run.state =
    w.runs[other]?.map Run.state := by
    intro other
    rw [List.getElem?_modify]
    split <;> cases w.runs[other]? <;> simp [state]
  refine { Acts.refl may party w with
    runs := List.length_modify ..
    heeds := ?_
    sound := Sound.congr states (fun _ => rfl) rfl fun _ => rfl }
  -- It is left to show that no other party is missing where it has waited.
  intro other id acting _ heeds
  have cancelled : (w.changeRun run change).isCancelled other = w.isCancelled other := by
    have same := congrArg (·.any CancelState.tripped) (states other)
    simpa [isCancelled, changeRun, Option.any_map, Function.comp_def] using same
  rw [Heeds, cancelled]
  refine heeds.imp (fun due => due) (And.imp_right fun waits => ?_)
  simp only [waiters, changeRun, List.getElem?_modify] at waits ⊢
  split
  · cases found : w.runs[other]? <;> simp_all
  · simpa using waits

omit plain in
/-- A party gets in line for what it waits for. -/
theorem enlist_acts (actor : Actor) (wait : Wait) :
    Acts may party w (w.enlist party actor wait) := by
  -- Each kind of wait has a list of its own, to which the party is added.
  unfold enlist
  split
  · exact { Acts.refl may _ w with
      timers := fun _ member _ => List.mem_append_left _ member
      sound := fun sound => sound.same rfl rfl rfl rfl }
  · exact { Acts.refl may _ w with
      yielded := fun _ member => List.mem_cons_of_mem _ member
      sound := fun sound => sound.same rfl rfl rfl rfl }
  · exact { Acts.refl may _ w with sound := fun sound => sound.same rfl rfl rfl rfl }
  · exact changeWaiters_acts (fun _ => rfl) fun _ _ _ waits => List.mem_append_left _ waits
  · exact changeChannel_acts _
  · exact .refl may _ w

/-- A wait that is over is settled. -/
theorem settleWait_acts (actor : Actor) (wait : Wait) :
    Acts may party w (w.settleWait actor wait) := by
  -- A wait that is over leaves a note, and a sender that got room puts its signal there.
  unfold settleWait
  split
  · exact emit_acts (plain _ rfl rfl) rfl
  · exact (deliver_acts plain _).trans (emit_acts (plain _ rfl rfl) rfl)
  · exact .refl may party w

omit plain in
/-- A party takes itself off the line. -/
theorem forsake_acts (actor : Actor) (wait : Wait) :
    Acts may party w (w.forsake party actor wait) := by
  -- The party takes back what it entered, and nobody else has an entry under its name.
  unfold forsake
  split
  · rename_i id
    refine { Acts.refl may _ w with
      timers := fun timer member other => ?_
      sound := fun sound => sound.same rfl rfl rfl rfl }
    refine List.mem_filter.mpr ⟨member, ?_⟩
    simpa using fun same : timer.task = id => other (by rw [same])
  · exact { Acts.refl may _ w with sound := fun sound => sound.same rfl rfl rfl rfl }
  · rename_i id
    refine changeWaiters_acts (fun _ => rfl) fun r waiter other waits => ?_
    refine List.mem_filter.mpr ⟨waits, ?_⟩
    simpa using fun same : waiter = id => other (by rw [same])
  · split
    · -- The room was promised to it already, so that the next sender gets it.
      exact vacate_acts
    · exact changeChannel_acts _
  · exact .refl may _ w

omit plain in
/-- A task may change where it stands and what it waits for. -/
theorem changeTask_acts {id : TaskId} {change : Task → Task}
    (keeps : ∀ task, (change task).ending = task.ending ∧ task.Continues (change task)) :
    Acts may (.task id) w (w.changeTask id change) := by
  -- Only the task itself looks different afterwards, and it still is what it was.
  have tasks : ∀ other, (w.changeTask id change).task? other =
      if id = other then (w.task? other).map change else w.task? other := by
    intro other
    simp only [task?, changeTask, List.getElem?_modify]
    split <;> simp
  refine { Acts.refl may (.task id) w with
    count := List.length_modify ..
    others := fun other acting => ?_
    own := fun other task found => ?_
    sound := Sound.congr (fun _ => rfl) (fun _ => rfl) rfl fun other => ?_ }
  -- Another task is not changed.
  · rw [tasks, if_neg fun same => acting (by rw [same])]
  -- The task goes on as what the change makes of it.
  · rw [tasks, found]
    split
    · exact ⟨change task, rfl, (keeps task).2⟩
    · exact ⟨task, rfl, .refl task⟩
  -- Whether a task has ended is not changed.
  · simp only [isEnded, tasks]
    split
    · cases w.task? other <;> simp [keeps]
    · rfl

omit plain in
/-- What a task waits for does not change what it is. -/
theorem changeWait_acts {id : TaskId} (wait : Wait) :
    Acts may (.task id) w (w.changeTask id fun t => { t with wait }) :=
  changeTask_acts fun _ => ⟨rfl, rfl, rfl, rfl, fun _ => rfl⟩

omit plain in
/-- A task that ends is listed as the last one to end. -/
theorem finish_acts {id : TaskId} {task : Task} {ending : Ending} (found : w.task? id = some task)
    (live : task.ending = none) : Acts may (.task id) w (w.finish id ending) := by
  have tasks : ∀ other, (w.finish id ending).task? other =
      if id = other then some { task with ending := some ending } else w.task? other := by
    intro other
    simp only [task?, finish, changeTask, List.getElem?_modify]
    split
    · rename_i same
      subst same
      simp only [task?] at found
      simp [found]
    · simp
  -- The one task that has ended now is the one that is listed.
  have ended : ∀ other, (w.finish id ending).isEnded other =
    (decide (id = other) || w.isEnded other) := by
    intro other
    simp only [isEnded, tasks]
    split <;> simp_all
  refine { Acts.refl may (.task id) w with
    count := List.length_modify ..
    others := fun other acting => ?_
    own := fun other task' found' => ?_
    finished := ⟨[id], rfl, by simp⟩
    sound := fun sound => ⟨sound.recorded, sound.unopened, fun other => ?_, ?_⟩ }
  -- Another task has not ended by this.
  · rw [tasks, if_neg fun same => acting (by rw [same])]
  · rw [tasks]
    split
    · rename_i same
      subst same
      obtain rfl : task = task' := Option.some.inj (found.symm.trans found')
      exact ⟨_, rfl, rfl, rfl, rfl, fun ended => by simp [live] at ended⟩
    · exact ⟨task', found', .refl task'⟩
  -- Those that have ended are those that had ended before, and this one.
  · rw [ended]
    simp only [finish, List.mem_append, List.mem_singleton, Bool.or_eq_true, decide_eq_true_eq]
    rw [← sound.finished other]
    exact ⟨fun either => either.symm.imp Eq.symm fun listed => listed,
      fun either => either.symm.imp (fun listed => listed) Eq.symm⟩
  · -- It was live before, so that it has not been listed yet.
    refine List.nodup_append.mpr ⟨sound.once, by simp, ?_⟩
    intro other listed last member same
    rw [List.mem_singleton.mp member] at same
    subst same
    have already := (sound.finished other).mp listed
    simp [isEnded, found, live] at already

/-- The cancellations of scripts and listeners are plain. -/
theorem cancel_plain_acts {caller : Caller} (run : RunId) (cause : Cause)
    (own : (Event.cancelCall caller run cause).isPlain = true) :
    Acts may party w (w.cancel caller run cause).2 :=
  cancel_acts (plain _ own rfl) (plain _ rfl rfl) (plain _ rfl rfl)

/-- One step of a script does what its party may do. -/
theorem act_acts {actor : Actor} (reads : may (.deed (.probed party actor))) (step : Step) :
    Acts may party w (w.act party actor step).2 := by
  -- One case for each step, which either is done at once or begins a wait.
  cases step with
  | sleep millis =>
    simp only [act, block]
    split
    · exact .refl may party w
    · exact enlist_acts _ _
  | yield => exact enlist_acts _ _
  | note text => exact emit_acts (plain _ rfl rfl) rfl
  | log entry => exact emit_acts (plain _ rfl rfl) rfl
  | cancel cause =>
    have own : (Event.cancelCall party.caller actor.run cause).isPlain =
      true := by cases party <;> rfl
    exact (cancel_plain_acts plain actor.run cause own).trans (emit_acts (plain _ rfl rfl) rfl)
  | awaitCancel =>
    -- A run that is cancelled already is seen at once.
    simp only [act, block]
    split
    · exact emit_acts (plain _ rfl rfl) rfl
    · exact enlist_acts _ _
  | signal signal =>
    -- There is room for the signal at once, or the party gets in line for it.
    simp only [act]
    split
    · exact (deliver_acts plain _).trans (emit_acts (plain _ rfl rfl) rfl)
    · exact enlist_acts actor (.room signal)
  | trySignal signal =>
    simp only [act]
    split
    · exact (deliver_acts plain _).trans (emit_acts (plain _ rfl rfl) rfl)
    · exact emit_acts (plain _ rfl rfl) rfl
  | raise signal =>
    simp only [act]
    split
    · exact .refl may party w
    · exact { Acts.refl may party w with sound := fun sound => sound.same rfl rfl rfl rfl }
  | probe => exact emit_acts reads rfl
  | fail error => exact .refl may party w
  | failWith error => exact .refl may party w
  | panic payload => exact .refl may party w
  | hang => exact .refl may party w

/-- A script does what its party may do, however far it comes. -/
theorem runSteps_acts {actor : Actor} (reads : may (.deed (.probed party actor)))
    (script : Script) :
    Acts may party w (w.runSteps party actor script).2 := by
  -- By induction on the script: it goes on after a step that proceeds, and stops after any other.
  induction script generalizing w with
  | nil => exact .refl may party w
  | cons step rest ih =>
    have acted : Acts may party w (w.act party actor step).2 := act_acts plain reads step
    unfold runSteps
    split
    · -- The step was done, and the rest of the script follows.
      rename_i w₁ same
      rw [same] at acted
      exact acted.trans ih
    · rename_i wait w₁ same
      rw [same] at acted
      exact acted
    · rename_i outcome w₁ same
      rw [same] at acted
      exact acted

end Operations

section Turns

variable {id : TaskId} {task : Task} {w w₁ : World}

/-- A plain event that tells no reading may be written by any task. -/
theorem plain_writes (id : TaskId) (task : Task) (event : Event) (plain : event.isPlain = true)
    (unread : event.reading? = none) : task.Writes id event :=
  ⟨.inl plain, fun reading same => by simp [unread] at same⟩

/-- A task reads an identifier as itself. -/
theorem reads_writes (id : TaskId) (task : Task) :
    task.Writes id (.deed (.probed (.task id) task.actor)) :=
  ⟨.inl rfl, fun _ same => (Option.some.inj same).symm⟩

/-- A start writes what starts write. -/
theorem byStart_writes {service : Placed} {event : Event} (duty : task.duty = .start service)
    (own : event.ByStart service task.aborted) : task.Writes id event := by
  refine ⟨.inr ⟨service, duty, own⟩, fun reading same => ?_⟩
  -- None of it is a reading.
  generalize task.aborted = dropped at own
  cases own <;> cases same

/-- A task that goes on settles its wait; at its first turn a start says that it has begun. -/
theorem resume_acts {may : Event → Prop}
    (plain : ∀ event : Event, event.isPlain = true → event.reading? = none → may event)
    (begun : ∀ service, task.duty = .start service → may (.deed (.start service))) :
    Acts may (.task id) w (w.resume task) := by
  -- A start that has its first turn says that it begins; otherwise the wait that is over is
  -- settled.
  unfold resume
  split
  · rename_i service duty _
    exact emit_acts (begun service duty) rfl
  · exact settleWait_acts plain _ _

/-- A start that returns an error says so twice and cancels its run before it ends. -/
theorem failStart_acts {may : Event → Prop} {service : Placed} {error : String}
    (plain : ∀ event : Event, event.isPlain = true → event.reading? = none → may event)
    (refused : may (.deed (.startFailed service)))
    (failed : may (.notice .task (.startFailed service error))) {run : RunId}
    (called : may (.cancelCall .start run (.startFailed service.name error)))
    (found : w.task? id = some task) (live : task.ending = none) :
    Acts may (.task id) w (endStart.fail id run service w error) := by
  -- The error is written and told, the run is cancelled, and then the task ends.
  have told : Acts may (.task id) w (((w.emit (.deed (.startFailed service))).notice .task
      (.startFailed service error)).cancel .start run (.startFailed service.name error)).2 :=
    ((emit_acts refused rfl).trans (emit_acts failed rfl)).trans
      (cancel_acts called (plain _ rfl rfl) (plain _ rfl rfl))
  exact told.trans (finish_acts (by simpa [task?] using found) live)

/-- A script that ends writes what its task may write, and ends the task. -/
theorem endScript_acts {outcome : Outcome} (found : w.task? id = some task)
    (live : task.ending = none) (unaborted : task.aborted = false) :
    Acts (task.Writes id) (.task id) w (w.endScript id task outcome) := by
  unfold endScript
  split
  · rename_i service duty
    -- A start reports that it is up or why it failed; one that panicked says nothing.
    have may : ∀ event, event.ByStart service false → task.Writes id event :=
      fun event own => byStart_writes duty (unaborted ▸ own)
    have refused :
      -- An error is reported with the same words, whether it was a text or not.
      ∀ error,
        Acts (task.Writes id) (.task id) w (endStart.fail id task.actor.run service w error) :=
      fun error => failStart_acts (plain_writes id task) (may _ .refused) (may _ (.failed error))
        (may _ (.called _ error)) found live
    cases outcome with
    | done =>
      have up : Acts (task.Writes id) (.task id) w (w.emit (.deed (.up service))) :=
        emit_acts (may _ .up) rfl
      simp only [endStart]
      -- Only a start that is still waited for is up in time.
      split
      · exact up.trans (finish_acts found live)
      · exact (up.trans (emit_acts (may _ .late) rfl)).trans (finish_acts found live)
    | panicked payload => exact finish_acts found live
    | failed error => exact refused error
    | failedWith error => exact refused error.text
  · exact finish_acts found live
  · exact finish_acts found live

/-- The turn of a script is the act of its task. -/
theorem pollScript_acts (found : w.task? id = some task) (live : task.ending = none)
    (unaborted : task.aborted = false) :
    Acts (task.Writes id) (.task id) w (w.pollScript id task) := by
  -- The wait is over and the script runs, or the task goes on waiting.
  unfold pollScript
  split
  · have ran :
      Acts (task.Writes id) (.task id) w
        ((w.resume task).runSteps (.task id) task.actor task.steps).2 :=
      (resume_acts (plain_writes id task) fun service duty =>
        byStart_writes duty (unaborted ▸ .begun)).trans
        (runSteps_acts (plain_writes id task) (reads_writes id task) _)
    have tasks : ((w.resume task).runSteps (.task id) task.actor task.steps).2.tasks = w.tasks := by
      simp
    split
    · -- The script has stopped at a wait of its own.
      rename_i wait left w₁ same
      rw [same] at ran
      exact ran.trans (changeTask_acts fun task => ⟨rfl, rfl, rfl, rfl, fun _ => rfl⟩)
    · -- The script has come to its end.
      rename_i outcome w₁ same
      rw [same] at ran tasks
      have tasks : w₁.tasks = w.tasks := tasks
      exact ran.trans (endScript_acts (by simpa [task?, tasks] using found) live unaborted)
  · exact .refl _ _ w

/-- So is that of a watcher. -/
theorem pollWatcher_acts (found : w.task? id = some task) (live : task.ending = none) :
    Acts (task.Writes id) (.task id) w (w.pollWatcher id task) := by
  -- The watcher ends once the run is cancelled, and enters the list of its waiters before.
  unfold pollWatcher
  split
  · exact (emit_acts (plain_writes id task _ rfl rfl) rfl).trans (finish_acts found live)
  · split
    · exact (enlist_acts _ _).trans (changeWait_acts _)
    · exact .refl _ _ w

/-- A signal that is escalated is dealt with as the policy says. -/
theorem escalate_acts (policy : Escalation) (signal : Signal) :
    Acts (task.Writes id) (.task id) w (w.escalate policy signal) := by
  -- Forcing the exit is the one thing that changes more than the trace.
  have told : ∀ n, (Event.notice .task n).isPlain = true →
    Acts (task.Writes id) (.task id) w (w.notice .task n) :=
    fun n plain => emit_acts (plain_writes id task _ plain rfl) rfl
  cases policy with
  | forceExit =>
    exact (told (.forcingExit signal) rfl).trans
      { Acts.refl _ _ _ with
        exited := fun _ => rfl
        sound := fun sound => sound.same rfl rfl rfl rfl
        counted := fun _ counted => counted.same rfl }
  | ignore => exact told (.signalIgnored signal) rfl
  | hook =>
    exact (told (.signalEscalated signal) rfl).trans
      (emit_acts (plain_writes id task _ rfl rfl) rfl)

/-- A listener takes a signal if there is one, and waits for the next. -/
theorem listen_acts (run : RunId) (policy : Escalation) (heard : Bool) :
    Acts (task.Writes id) (.task id) w (w.listen id run policy heard) := by
  -- A signal is taken and handled, as a first one or as one too many, and then the listener waits
  -- again.
  unfold listen
  split
  · rename_i signal _
    have taken : Acts (task.Writes id) (.task id) w (w.vacate.emit (.handled id signal)) :=
      vacate_acts.trans (emit_acts (plain_writes id task _ rfl rfl) rfl)
    refine Acts.trans ?_ (changeWait_acts _)
    split
    · exact taken.trans (escalate_acts policy signal)
    · exact (taken.trans (emit_acts (plain_writes id task _ rfl rfl) rfl)).trans
        (cancel_plain_acts (plain_writes id task) _ _ rfl)
  · exact changeWait_acts _

/-- The turn of a listener is the act of its task. -/
theorem pollListener_acts (policy : Escalation) :
    Acts (task.Writes id) (.task id) w (w.pollListener id task policy) := by
  -- The listener holds the receiving end, is given it now, or gets in line for it.
  unfold pollListener
  split
  · exact listen_acts _ _ _
  · split
    · exact listen_acts _ _ _
    · split
      · exact (changeChannel_acts _).trans (listen_acts _ _ _)
      · split
        · exact (changeChannel_acts _).trans (changeWait_acts _)
        · exact .refl _ _ w

/-- The signals that have come in are nothing that an act is bound to leave alone. -/
theorem setArrived_acts {may : Event → Prop} {party : Party} (arrived : List Signal) :
    Acts may party w { w with arrived } :=
  { Acts.refl may party w with sound := fun sound => sound.same rfl rfl rfl rfl }

/-- The forwarder passes on what it can. -/
theorem forward_acts (actor : Actor) (signals : List Signal) :
    Acts (task.Writes id) (.task id) w (w.forward id actor signals) := by
  -- Signals go into the channel until one finds it full.
  induction signals generalizing w with
  | nil => exact (setArrived_acts []).trans (changeWait_acts _)
  | cons signal rest ih =>
    unfold forward
    split
    · exact (deliver_acts (plain_writes id task) signal).trans ih
    · exact ((setArrived_acts rest).trans (enlist_acts _ _)).trans (changeWait_acts _)

/-- Its turn is the act of its task. -/
theorem pollForwarder_acts : Acts (task.Writes id) (.task id) w (w.pollForwarder id task) := by
  -- A forwarder that has waited for room delivers that signal first.
  unfold pollForwarder
  split
  · split
    · exact (deliver_acts (plain_writes id task) _).trans (forward_acts _ _)
    · exact .refl _ _ w
  · exact forward_acts _ _

/-- Whoever leaves the receiving end passes it on, or gives up its place in line. -/
theorem leaveReceiver_acts {may : Event → Prop} {party : Party} (id : TaskId) :
    Acts may party w (w.leaveReceiver id) := by
  -- Whoever holds the receiving end passes it on, and everybody else leaves the line for it.
  unfold leaveReceiver
  split
  · exact passReceiver_acts
  · exact changeChannel_acts _

/-- A start that is dropped says that it was abandoned, and only a start does. -/
theorem noteAbandoned_acts (aborted : task.aborted = true) :
    Acts (task.Writes id) (.task id) w (w.noteAbandoned task) := by
  unfold noteAbandoned
  split
  · rename_i service duty
    split
    · exact .refl _ _ w
    · exact emit_acts (byStart_writes duty (aborted ▸ .abandoned)) rfl
  · exact .refl _ _ w

/-- A task that is dropped takes itself off all lines, and ends. -/
theorem dropTask_acts (found : w.task? id = some task) (live : task.ending = none)
    (aborted : task.aborted = true) :
    Acts (task.Writes id) (.task id) w (w.dropTask id task) :=
  -- What the task held is let go, that it was abandoned is noted, and then it ends.
  (((forsake_acts _ _).trans (leaveReceiver_acts id)).trans (noteAbandoned_acts aborted)).trans
    (finish_acts (by simpa [task?] using found) live)

/-- A turn of a task that is unknown or has ended, or after the exit, is empty. -/
theorem poll_idle (idle : ∀ task, w.task? id = some task → task.ending.isSome ∨ w.exited.isSome) :
    w.poll id = w := by
  unfold poll
  split
  · rfl
  · rename_i task found
    exact if_pos (idle task found)

/-- A task that is asked to end drops what it holds instead of going on. -/
theorem poll_aborted (found : w.task? id = some task) (live : task.ending = none)
    (going : w.exited = none) (aborted : task.aborted = true) : w.poll id = w.dropTask id task := by
  simp [poll, found, live, going, aborted]

/-- What a turn does for a live listener. -/
theorem poll_listener {policy : Escalation} (found : w.task? id = some task)
    (live : task.ending = none) (going : w.exited = none) (unaborted : task.aborted = false)
    (duty : task.duty = .listener policy) :
    w.poll id = w.pollListener id task policy := by
  simp [poll, found, live, going, unaborted, duty]

/-- What it does for a live start. -/
theorem poll_script {service : Placed} (found : w.task? id = some task) (live : task.ending = none)
    (going : w.exited = none) (unaborted : task.aborted = false)
    (duty : task.duty = .start service) :
    w.poll id = w.pollScript id task := by
  simp [poll, found, live, going, unaborted, duty]

/-- A turn does nothing, or it is the act of a task that has not ended and reads an identifier only
as itself. -/
theorem poll_writes (id : TaskId) (w : World) : w.poll id = w ∨
    w.exited = none ∧ ∃ task, w.task? id = some task ∧ task.ending = none ∧
      Acts (task.Writes id) (.task id) w (w.poll id) := by
  cases found : w.task? id with
  | none => exact .inl (poll_idle (by simp [found]))
  | some task =>
    by_cases ceased : task.ending.isSome ∨ w.exited.isSome
    -- A task that has ended, and any task of a process that is gone, has nothing to do.
    · exact .inl (poll_idle (by simpa [found] using ceased))
    · simp only [not_or, Option.not_isSome_iff_eq_none] at ceased
      obtain ⟨live, going⟩ := ceased
      refine .inr ⟨going, task, rfl, live, ?_⟩
      simp only [poll, found, live, going, Option.isSome_none, Bool.false_eq_true,
        or_self, if_false]
      cases aborted : task.aborted with
      | true => exact dropTask_acts found live aborted
      | false =>
        simp only [Bool.false_eq_true, if_false]
        -- What a live task does in its turn is a matter of its duty.
        split
        · exact pollScript_acts found live aborted
        · exact pollScript_acts found live aborted
        · exact pollScript_acts found live aborted
        · exact pollWatcher_acts found live
        · exact pollListener_acts _
        · exact pollForwarder_acts

/-- A turn does nothing, or it is the act of a task that has not ended. -/
theorem poll_acts (id : TaskId) (w : World) : w.poll id = w ∨
    w.exited = none ∧ ∃ task, w.task? id = some task ∧ task.ending = none ∧
      Acts task.MayWrite (.task id) w (w.poll id) := by
  rcases poll_writes id w with same | ⟨going, task, found, live, acts⟩
  · exact .inl same
  · exact .inr ⟨going, task, found, live, acts.mono fun _ writes => writes.1⟩

end Turns

end World

end Warden.Supervision
