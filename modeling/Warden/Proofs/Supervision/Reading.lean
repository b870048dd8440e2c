import Warden.Proofs.Supervision.History
import Warden.Proofs.Supervision.Proceeding

/-!
Which identifier services read: every start that of its own run, for good, and every stop none at
all.
-/

namespace Warden.Supervision

/-- A start may be set going by a run only for a service of its own, and then it can read the
identifier of that run. -/
def Task.StartsIn (run : RunId) (services : List Placed) (task : Task) : Prop :=
  ∀ service, task.duty = .start service → service ∈ services ∧
    task.actor = ⟨service.name, run, some run⟩

/-- A task that starts a service can read the identifier of the run that it is part of. -/
def Task.Scoped (task : Task) : Prop :=
  ∀ service, task.duty = .start service → task.actor.scope = some task.actor.run

/-- Whoever can read the identifier of the run that it is part of finds its own. -/
theorem Actor.identifier_eq_own {actor : Actor} (reaches : actor.scope = some actor.run) :
    actor.identifier = "own" := by
  simp [identifier, reaches]

namespace World

/-- Who may read an identifier: a task only as itself, and the supervising flow as the actors that
speak there. -/
def MayRead (speaks : Actor → Prop) (w : World) : Party × Actor → Prop
  | (.main, actor) => speaks actor
  | (.task id, actor) => ∃ task, w.task? id = some task ∧ task.actor = actor

/-- A later state of the same process, if only such actors speak on the supervising flow and only
such tasks are set going: every task remains what it was, and an identifier is read only by those
who may. -/
structure Reads (speaks : Actor → Prop) (sets : Task → Prop) (w w' : World) : Prop where
  remains : ∀ {id task}, w.task? id = some task → ∃ task', w'.task? id = some task' ∧
    task.Remains task'
  fresh : ∀ {id task'}, w.task? id = none → w'.task? id = some task' → ∃ task, sets task ∧
    task.Remains task'
  trace : ∃ later : Trace, w'.trace = w.trace ++ later ∧
    ∀ stamped ∈ later, ∀ reading, stamped.event.reading? = some reading → w'.MayRead speaks reading

variable {speaks : Actor → Prop} {sets : Task → Prop} {w w₁ w₂ : World}

/-- What may be read stays so for more speakers and in a world in which the tasks remain. -/
theorem MayRead.mono {speaks' : Actor → Prop} {reading : Party × Actor}
    (may : w.MayRead speaks reading) (more : ∀ actor, speaks actor → speaks' actor)
    (remains : ∀ {id task}, w.task? id = some task → ∃ task', w₁.task? id = some task' ∧
      task.Remains task') :
    w₁.MayRead speaks' reading := by
  obtain ⟨party, actor⟩ := reading
  cases party with
  | main => exact more actor may
  | task id =>
    -- A task that remains is still the actor that it was.
    obtain ⟨task, found, same⟩ := may
    obtain ⟨task', found', remains⟩ := remains found
    exact ⟨task', found', remains.actor.trans same⟩

namespace Reads

/-- Where nothing happens nothing is read. -/
theorem refl (speaks : Actor → Prop) (sets : Task → Prop) (w : World) : Reads speaks sets w w where
  remains := fun {_ task} found => ⟨task, found, .refl task⟩
  fresh := fun missing found => by simp [missing] at found
  trace := ⟨[], (List.append_nil _).symm, by simp⟩

/-- What is read step by step is read as a whole. -/
theorem trans (first : Reads speaks sets w w₁) (second : Reads speaks sets w₁ w₂) :
    Reads speaks sets w w₂ where
  remains := by
    intro id task found
    obtain ⟨task₁, found₁, remains₁⟩ := first.remains found
    obtain ⟨task₂, found₂, remains₂⟩ := second.remains found₁
    exact ⟨task₂, found₂, remains₁.trans remains₂⟩
  fresh := by
    intro id task₂ missing found₂
    -- A task that is new in the end was set going in the first part or in the second.
    cases between : w₁.task? id with
    | none => exact second.fresh between found₂
    | some task₁ =>
      obtain ⟨task, may, remains₁⟩ := first.fresh missing between
      obtain ⟨task', found', remains₂⟩ := second.remains between
      obtain rfl : task' = task₂ := Option.some.inj (found'.symm.trans found₂)
      exact ⟨task, may, remains₁.trans remains₂⟩
  trace := by
    obtain ⟨later₁, same₁, may₁⟩ := first.trace
    obtain ⟨later₂, same₂, may₂⟩ := second.trace
    refine ⟨later₁ ++ later₂, by rw [same₂, same₁, List.append_assoc],
      fun stamped member reading reads => ?_⟩
    -- What was read early may be read of the task as it is later.
    rcases List.mem_append.mp member with early | late
    · exact (may₁ stamped early reading reads).mono (fun _ speaks => speaks) second.remains
    · exact may₂ stamped late reading reads

/-- More speakers and more tasks may be allowed. -/
theorem mono {speaks' : Actor → Prop} {sets' : Task → Prop} (reads : Reads speaks sets w w₁)
    (more : ∀ actor, speaks actor → speaks' actor) (further : ∀ task, sets task → sets' task) :
    Reads speaks' sets' w w₁ where
  remains := reads.remains
  fresh :=
    fun missing found => (reads.fresh missing found).imp fun task own => ⟨further task own.1, own.2⟩
  trace := reads.trace.imp fun _ written => ⟨written.1, fun stamped member reading same =>
    (written.2 stamped member reading same).mono more fun {_ task} found =>
      ⟨task, found, .refl task⟩⟩

/-- Where neither the tasks nor the trace change, nothing is read. -/
theorem of_same (tasks : w₁.tasks = w.tasks) (trace : w₁.trace = w.trace) :
    Reads speaks sets w w₁ where
  remains := fun {_ task} found => ⟨task, by rw [task?, tasks]; exact found, .refl task⟩
  fresh := by
    intro id task' missing found
    rw [task?, tasks, ← task?, missing] at found
    contradiction
  trace := ⟨[], by rw [trace, List.append_nil], by simp⟩

end Reads

section Operations

/-- What a party does at once reads as the party may, if all that it may write does. -/
theorem Acts.reads {may : Event → Prop} {party : Party} (acts : Acts may party w w₁)
    (own : ∀ event, may event → ∀ reading, event.reading? = some reading →
      w.MayRead speaks reading) :
    Reads speaks sets w w₁ := by
  have remains : ∀ {id task}, w.task? id = some task → ∃ task', w₁.task? id = some task' ∧
    task.Remains task' :=
    fun found => (acts.own _ _ found).imp fun _ own => ⟨own.1, own.2.remains⟩
  refine ⟨remains, fun {id task'} missing found => ?_, ?_⟩
  · -- No task is set going in an act.
    have beyond : w₁.tasks.length ≤ id := acts.count ▸ List.getElem?_eq_none_iff.mp missing
    exact absurd (List.getElem?_eq_some_iff.mp found).1 (Nat.not_lt.mpr beyond)
  · obtain ⟨events, same, written⟩ := acts.trace
    refine ⟨_, same, fun stamped member reading reads => ?_⟩
    obtain ⟨event, listed, rfl⟩ := List.mem_map.mp member
    exact (own event (written event listed) reading reads).mono (fun _ speaks => speaks) remains

/-- To cancel a run is to read nothing. -/
theorem cancel_reads (caller : Caller) (run : RunId) (cause : Cause) :
    Reads speaks sets w (w.cancel caller run cause).2 := by
  have acts : Acts (fun event => event.reading? = none) .main w (w.cancel caller run cause).2 :=
    cancel_acts rfl rfl rfl
  exact acts.reads fun event unread reading reads => by simp [unread] at reads

/-- An event that tells no reading may be written by anybody. -/
theorem emit_reads {event : Event} (unread : event.reading? = none) :
    Reads speaks sets w (w.emit event) where
  remains := fun {_ task} found => ⟨task, found, .refl task⟩
  fresh := fun missing found => absurd (missing.symm.trans found) nofun
  trace := by
    refine ⟨_, rfl, fun stamped member reading reads => ?_⟩
    obtain rfl := List.mem_singleton.mp member
    simp [unread] at reads

/-- A task is set going. -/
theorem spawn_reads {task : Task} (may : sets task) : Reads speaks sets w (w.spawn task).2 where
  remains := by
    intro id task' found
    have within : id < w.tasks.length := (List.getElem?_eq_some_iff.mp found).1
    rw [task?_spawn, if_neg (Nat.ne_of_lt within)]
    exact ⟨task', found, .refl task'⟩
  fresh := by
    intro id task' missing found
    -- The one task that is new is the one that is spawned.
    rw [task?_spawn] at found
    split at found
    · obtain rfl := Option.some.inj found
      exact ⟨task, may, .refl task⟩
    · exact absurd (missing.symm.trans found) nofun
  trace := ⟨[], (List.append_nil _).symm, by simp⟩

/-- Tasks that are asked to end remain what they are. -/
theorem abortAll_reads (ids : List TaskId) : Reads speaks sets w (w.abortAll ids) where
  remains := by
    intro id task found
    -- Only marks are added, and they are never taken back.
    refine ⟨_, (task?_abortAll ids w id).trans (congrArg _ found), rfl, rfl, fun aborted => ?_,
      fun _ => rfl⟩
    simp [aborted]
  -- Where nobody was, nobody is after marks have been set.
  fresh := by
    intro id task' missing found
    rw [task?_abortAll, missing] at found
    contradiction
  trace := by
    obtain ⟨tasks, ready, same⟩ := abortAll_eq ids w
    exact ⟨[], by rw [same, List.append_nil], by simp⟩

/-- A group that is dropped asks its tasks to end. -/
theorem dropGroup_reads (group : GroupId) : Reads speaks sets w (w.dropGroup group) := by
  unfold dropGroup
  split
  · exact .refl _ _ w
  · have forgotten : ∀ change, Reads speaks sets w (w.changeGroup group change) :=
      fun _ => .of_same rfl rfl
    exact (forgotten _).trans (abortAll_reads _)

/-- The stale listener, if there is one, is asked to end. -/
theorem relieve_reads (listener : Option TaskId) :
    Reads speaks sets w (listener.elim w fun stale => w.abort stale) := by
  cases listener with
  | none => exact .refl _ _ w
  | some stale => exact abortAll_reads [stale]

/-- The unused group, if there is one, is dropped. -/
theorem drop_reads (group : Option GroupId) :
    Reads speaks sets w (group.elim w fun unused => w.dropGroup unused) := by
  cases group with
  | none => exact .refl _ _ w
  | some unused => exact dropGroup_reads unused

/-- So does a group that gives up its starts, which says so before. -/
theorem abandonDetached_reads (group : GroupId) :
    Reads speaks sets w (w.abandonDetached group) := by
  -- Those that are given up are told of one after another, and only then they are asked to end.
  have told : ∀ (starts : List (String × TaskId)) (w : World), Reads speaks sets w
      (starts.foldl (fun w start => w.notice .main (.abandoning start.1)) w) := by
    intro starts
    induction starts with
    | nil => exact .refl _ _
    | cons start rest ih => exact fun w => (emit_reads rfl).trans (ih _)
  have forgotten : ∀ (w : World) change, Reads speaks sets w (w.changeGroup group change) :=
    fun _ _ => .of_same rfl rfl
  exact ((told _ w).trans (forgotten _ _)).trans (abortAll_reads _)

/-- In a turn a task reads as itself, and nobody else reads. -/
theorem poll_reads (id : TaskId) : Reads speaks sets w (w.poll id) := by
  rcases poll_writes id w with same | ⟨_, task, found, _, acts⟩
  · rw [same]
    exact .refl _ _ w
  · -- Whatever it reads is read by the task that stands at this place.
    refine acts.reads fun event writes reading reads => ?_
    obtain rfl := writes.2 reading reads
    exact ⟨task, found, rfl⟩

/-- However long the supervising flow waits, tasks read only as themselves. -/
theorem Beats.reads {goal : World → Bool} {alarm : Nat} (beats : Beats goal alarm w w₁) :
    Reads speaks sets w w₁ := by
  -- Only turns do anything but to wake those that wait.
  refine Beats.invariant (I := Reads speaks sets w) ?_
    (fun id _ before => before.trans (poll_reads id)) beats (.refl _ _ w)
  intro w₁ w₂ _ tasks trace _ before
  exact before.trans (.of_same tasks trace)

end Operations

/-- The actors that speak on the supervising flow while services are supervised in a run: stops,
which can read of none. -/
def Stopper (run : RunId) (actor : Actor) : Prop :=
  ∃ service : Placed, actor = ⟨service.name, run, none⟩

/-- While services are supervised in a run, starts are launched that can read of it, and on the flow
only stops speak. -/
theorem Tends.reads {group : GroupId} {run : RunId} {services : List Placed}
    (tends : Tends group run services w w₁) :
    Reads (Stopper run) (Task.StartsIn run services) w w₁ := by
  cases tends with
  | @launches service listed =>
    -- The start is set going for a service of the run, then its group tracks it and the launch is
    -- noted.
    have spawned :
      Reads (Stopper run) (Task.StartsIn run services) w (w.spawn (startTask run service)).2 := by
      refine spawn_reads fun service' duty => ?_
      obtain rfl : service = service' := by simpa [startTask] using duty
      exact ⟨listed, rfl⟩
    have tracked : ∀ (w : World) change,
      Reads (Stopper run) (Task.StartsIn run services) w (w.changeGroup group change) :=
      fun _ _ => .of_same rfl rfl
    exact (spawned.trans (tracked _ _)).trans (emit_reads rfl)
  | attends attends =>
    cases attends with
    | awaits awaiting own => exact .of_same rfl rfl
    | blames cause => exact cancel_reads .launcher run cause
    | tells n own => exact emit_reads rfl
  | @records event own =>
    -- Of all that the flow writes by itself nothing is a reading.
    refine emit_reads ?_
    cases event with
    | deed deed => cases deed <;> first | rfl | cases own
    | _ => rfl
  | keeps started => exact .of_same rfl rfl
  | releases id => exact .of_same rfl rfl
  | calls called error => exact cancel_reads .group called _
  | abandons => exact abandonDetached_reads group
  | drops => exact dropGroup_reads group
  | stops stops =>
    -- A stop is played on the flow by an actor that is part of no run.
    obtain ⟨service, plays⟩ := stops
    refine plays.acts.reads fun event writes reading reads => ?_
    obtain rfl := writes.2 reading reads
    exact ⟨service, rfl⟩

end World

namespace Flow

open World

/-- However services are supervised in a run, their starts can read of it, and on the supervising
flow only stops read. -/
theorem startServices_reads (supervisor : Supervisor) (run : RunId) (services : List Placed) :
    (startServices supervisor run services).Within
      (Reads (Stopper run) (Task.StartsIn run services)) := by
  refine startServices_within (fun _ => ⟨.refl _ _, .trans, Beats.reads, Tends.reads⟩)
    (fun group w => ?_) supervisor
  -- The watcher of the run starts nothing.
  have spawned : Reads (Stopper run) (Task.StartsIn run services) w (w.spawn (watcherTask run)).2 :=
    spawn_reads fun service duty => by simp [watcherTask] at duty
  exact spawned.trans (.of_same rfl rfl)

/-- To prepare a run, or to be refused, is to read nothing and to start nothing. -/
theorem tryPrepare_reads (refusal : Option String) (supervisor : Supervisor)
    (speaks : Actor → Prop) :
    (tryPrepare refusal supervisor).Within (Reads speaks Task.Scoped) := by
  intro w
  have set : ∀ (task : Task), (∀ service, task.duty ≠ .start service) → ∀ w : World,
      Reads speaks Task.Scoped w (w.spawn task).2 :=
    fun task beside w => spawn_reads fun service duty => absurd duty (beside service)
  have opened : Reads speaks Task.Scoped w w.openRun.2 := .of_same rfl rfl
  have forwarded : ∀ (wanted : Bool) (w : World),
    (forwardSignals wanted).Yields w (fun _ => Reads speaks Task.Scoped w)
      fun _ => Reads speaks Task.Scoped w := by
    intro wanted w
    -- A forwarder is set going where the signals are wanted and nobody forwards them yet.
    simp only [forwardSignals, yields_bind, yields_look]
    split
    · exact (set ⟨.forwarder, ⟨"", 0, none⟩, [], .fresh, none, false⟩ (by simp) w).trans
        (.of_same rfl rfl)
    · exact .refl _ _ w
  simp only [tryPrepare, yields_bind, yields_look]
  split
  · exact opened
  · simp only [prepare, arm, yields_bind, yields_answer, yields_change, yields_notice, yields_pure]
    refine (forwarded _ _).mono (fun _ w₁ before => ?_) fun _ _ before => opened.trans before
    -- The new listener is armed, then the stale one is asked to end, the unused group is dropped
    -- and a new one opened.
    have armed :
      Reads speaks Task.Scoped w₁
        (w₁.spawn (listenerTask w.runs.length supervisor.settings.escalation)).2 :=
      set _ (by simp [listenerTask]) w₁
    have grouped : ∀ run (w : World), Reads speaks Task.Scoped w (w.openGroup run).2 :=
      fun _ _ => .of_same rfl rfl
    exact ((((opened.trans before).trans armed).trans (relieve_reads _)).trans (drop_reads _)).trans
      ((grouped _ _).trans (emit_reads rfl))

end Flow

open World

namespace World

/-- One thing that happens in the life of a process: a run is prepared or refused, services are
supervised in a run, however that ends, or beside the runs time passes with turns of tasks, the flow
is allowed more time, code on it does something at once, or it sets a task going that starts no
service, or asks tasks to end. -/
inductive Happens : World → World → Prop
  | prepares (refusal : Option String) (supervisor : Supervisor) (w : World) :
    Happens w ((Flow.tryPrepare refusal supervisor).run w).2
  | supervises (supervisor : Supervisor) (run : RunId) (services : List Placed) (w : World) :
    Happens w ((Flow.startServices supervisor run services).run w).2
  | passes {goal : World → Bool} {alarm : Nat} {w w' : World} (beats : Beats goal alarm w w') :
    Happens w w'
  | allows (horizon : Nat) (w : World) : Happens w { w with horizon }
  | acts {w w' : World}
    (acts : Acts (fun event => ∀ id actor, event.reading? ≠ some (.task id, actor)) .main w w') :
    Happens w w'
  | sets (task : Task) (beside : ∀ service, task.duty ≠ .start service) (w : World) :
    Happens w (w.spawn task).2
  | aborts (ids : List TaskId) (w : World) : Happens w (w.abortAll ids)

/-- One world becomes another in the life of a process. -/
abbrev Lives : World → World → Prop := Relation.ReflTransGen Happens

variable {w w₁ w₂ : World}

/-- Whatever happens, a start can read the identifier of its run, and every task reads as itself. -/
theorem Happens.reads (happens : Happens w w₁) : Reads (fun _ => True) Task.Scoped w w₁ := by
  cases happens with
  | prepares refusal supervisor => exact (Flow.tryPrepare_reads refusal supervisor _).of_run rfl
  | supervises supervisor run services =>
    have reads : Reads (Stopper run) (Task.StartsIn run services) w _ :=
      (Flow.startServices_reads supervisor run services).of_run rfl
    refine reads.mono (fun _ _ => trivial) fun task own service duty => ?_
    rw [(own service duty).2]
  | passes beats => exact beats.reads
  | allows horizon => exact .of_same rfl rfl
  | acts acts =>
    -- Code on the supervising flow reads only there.
    refine acts.reads fun event beside reading reads => ?_
    obtain ⟨party, actor⟩ := reading
    cases party with
    | main => trivial
    | task id => exact absurd reads (beside id actor)
  | sets task beside => exact spawn_reads fun service duty => absurd duty (beside service)
  | aborts ids => exact abortAll_reads ids

/-- A life is read step by step. -/
theorem Lives.reads (lives : Lives w w₁) : Reads (fun _ => True) Task.Scoped w w₁ := by
  -- By induction on what happens, one thing after another.
  induction lives with
  | refl => exact .refl _ _ w
  | tail _ last ih => exact ih.trans last.reads

/-- What a task has ever read it has read as the actor that it is. -/
theorem Lives.reading (lives : Lives {} w) {id : TaskId} {task : Task}
    (found : w.task? id = some task) {stamped : Stamped} (member : stamped ∈ w.trace)
    {actor : Actor} (reads : stamped.event.reading? = some (.task id, actor)) :
    actor = task.actor := by
  -- The trace is empty at first, so that all of it was written in the life of the process.
  obtain ⟨later, same, may⟩ := lives.reads.trace
  have same : w.trace = later := same
  obtain ⟨task', found', own⟩ := may stamped (same ▸ member) _ reads
  obtain rfl : task = task' := Option.some.inj (found.symm.trans found')
  exact own.symm

end World

/-- What is read of the identifier of a run: services are supervised in it from one world to a
second one, and a third one is any later time of the process. -/
structure ReadsOwn (run : RunId) (services : List Placed) (w w₁ w₂ : World) : Prop where
  /-- Whatever a start that is launched in the run ever reads, at any point of it, is the identifier
  of that run. -/
  starts : ∀ id task service, w.task? id = none → w₁.task? id = some task →
    task.duty = .start service →
    service ∈ services ∧ ∀ stamped ∈ w₂.trace, ∀ actor,
      stamped.event.reading? = some (.task id, actor) →
      actor.run = run ∧ actor.identifier = "own"
  /-- Nor does a start of any other run ever read anything but the identifier of the run that it is
  part of. -/
  others : ∀ id task service, w₂.task? id = some task → task.duty = .start service →
    ∀ stamped ∈ w₂.trace, ∀ actor, stamped.event.reading? = some (.task id, actor) →
      actor.run = task.actor.run ∧ actor.identifier = "own"
  /-- Stops are called by the run on the flow that supervises, and whatever is read there is read as
  outside of every run. -/
  stops : ∃ later : Trace, w₁.trace = w.trace ++ later ∧
    ∀ stamped ∈ later, ∀ actor, stamped.event.reading? = some (.main, actor) →
      actor.run = run ∧ actor.identifier = noRunMessage

/-- After whatever has happened in a process, and whatever happens later, starts read the identifier
of the run that they are part of, and stops are told that they are part of none. -/
theorem starts_read_own_run {supervisor : Supervisor} {run : RunId} {services : List Placed}
    {result : Except Halt (Option RunError)} {w w₁ w₂ : World} (lived : Lives {} w)
    (ran : (Flow.startServices supervisor run services).run w = (result, w₁))
    (later : Lives w₁ w₂) :
    ReadsOwn run services w w₁ w₂ := by
  have reads : Reads (Stopper run) (Task.StartsIn run services) w w₁ :=
    (Flow.startServices_reads supervisor run services).of_run ran
  have supervised : Happens w w₁ := by
    have happens : Happens w ((Flow.startServices supervisor run services).run w).2 :=
      .supervises supervisor run services w
    rwa [ran] at happens
  have whole : Lives {} w₂ := (lived.tail supervised).trans later
  refine ⟨fun id task service missing found duty => ?_,
    fun id task service found duty stamped member actor read => ?_, ?_⟩
  · -- What is new after the run was set going by it, and remains what it was set going as.
    obtain ⟨launched, own, remains⟩ := reads.fresh missing found
    obtain ⟨listed, isStart⟩ := own service (remains.duty ▸ duty)
    refine ⟨listed, fun stamped member actor read => ?_⟩
    -- Its actor is the one that it was launched with, whose identifier is that of the run itself.
    obtain ⟨task₂, found₂, remains₂⟩ := later.reads.remains found
    have same : actor = ⟨service.name, run, some run⟩ := by
      rw [whole.reading found₂ member read, remains₂.actor, remains.actor, isStart]
    rw [same]
    exact ⟨rfl, Actor.identifier_eq_own rfl⟩
  · -- In the beginning there was no task, so that every start was set going in the life of the
    -- process.
    obtain ⟨launched, own, remains⟩ := whole.reads.fresh rfl found
    rw [whole.reading found member read]
    exact ⟨rfl, Actor.identifier_eq_own (remains.actor ▸ own service (remains.duty ▸ duty))⟩
  · obtain ⟨written, same, may⟩ := reads.trace
    refine ⟨written, same, fun stamped member actor read => ?_⟩
    obtain ⟨service, rfl⟩ := may stamped member _ read
    exact ⟨rfl, rfl⟩

/-- A service that asks for the identifier of its run when it starts, a little later, and when it
stops. -/
def curious : List Placed := placed [⟨"a", [.probe, .sleep 1, .probe], [.probe]⟩]

/-- The supervisor of that service, once it has prepared a run. -/
def host : Supervisor := { settings := { osSignals := false }, group := some 0, listener := some 0 }

/-- A world in which that run is prepared and has been called off already. -/
def foredoomed : World :=
  { (((Flow.tryPrepare none { settings := host.settings }).run {}).2.cancel .owner 0
    .requested).2 with
    horizon := Flow.patience }

/-- Where it comes when the service has been supervised. -/
def satisfied : World := ((Flow.startServices host 0 curious).run foredoomed).2

/-- The run of the curious service, as it ends. -/
theorem curious_ends : (Flow.startServices host 0 curious).run foredoomed =
    (((Flow.startServices host 0 curious).run foredoomed).1, satisfied) := rfl

/-- That run begins in a world that has lived. -/
theorem foredoomed_lives : Lives {} foredoomed := by
  have prepared : Lives {} ((Flow.tryPrepare none { settings := host.settings }).run {}).2 :=
    .single (.prepares none _ {})
  exact (prepared.tail (.acts (cancel_acts nofun nofun nofun))).tail (.allows _ _)

/-- The start of the curious service is told its own run twice, and its stop none. -/
theorem curious_start_reads_own_run :
    satisfied.trace.filterMap (·.event.reading?) =
      [(.task 2, ⟨"a", 0, some 0⟩), (.task 2, ⟨"a", 0, some 0⟩), (.main, ⟨"a", 0, none⟩)] ∧
      ReadsOwn 0 curious foredoomed satisfied satisfied :=
  ⟨by decide +kernel, starts_read_own_run foredoomed_lives curious_ends .refl⟩

/-- That whatever services read in a run, in their starts or on the flow that stops them, is the
identifier of that run. -/
def ServicesReadOwn : Prop :=
  ∀ supervisor run services result w w₁, Lives {} w →
    (Flow.startServices supervisor run services).run w = (result, w₁) →
      ∀ later : Trace, w₁.trace = w.trace ++ later →
      ∀ stamped ∈ later, ∀ party actor, stamped.event.reading? = some (party, actor) →
        (∀ id, party = .task id → ∃ task service, w₁.task? id = some task ∧
          task.duty = .start service) →
          actor.identifier = "own"

/-- It does not hold: the stop of the curious service is told that it is part of no run. -/
theorem curious_stop_reads_no_run : ¬ ServicesReadOwn := by
  intro claimed
  have written : satisfied.trace = foredoomed.trace ++
    satisfied.trace.drop foredoomed.trace.length := by decide +kernel
  have read : ⟨1, .deed (.probed .main ⟨"a", 0, none⟩)⟩ ∈
    satisfied.trace.drop foredoomed.trace.length := by decide +kernel
  have own :=
    claimed host 0 curious _ foredoomed satisfied foredoomed_lives curious_ends _ written _ read
      .main _ rfl nofun
  exact absurd own (by decide)

end Warden.Supervision
