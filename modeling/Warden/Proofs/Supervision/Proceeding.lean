import Warden.Proofs.Supervision.Supervise

/-!
The single steps of which everything is made that a process does, in whatever order its flows are
run.
-/

namespace Warden.Supervision

/-- Whether an event tells of a signal, of the call of a cancellation, or of what a listener does
with a signal. -/
def Event.ofChannel : Event → Bool
  | .accepted _ | .handled _ _ | .cancelCall _ _ _ | .deed (.escalated _) => true
  | .notice .task (.signalReceived _) | .notice .task (.forcingExit _) => true
  | .notice .task (.signalIgnored _) | .notice .task (.signalEscalated _) => true
  | _ => false

/-- What is no matter of the channel is not the call of a cancellation. -/
theorem firstCall_apart (run : RunId) (trace : Trace) (time : Nat) {event : Event}
    (apart : event.ofChannel = false) :
    Trace.firstCall run (trace ++ [⟨time, event⟩]) = trace.firstCall run := by
  have uncalled : Stamped.call? run ⟨time, event⟩ = none := by
    cases event with
    | cancelCall caller run cause => simp [Event.ofChannel] at apart
    | _ => rfl
  rw [World.firstCall_append]
  simp [Trace.firstCall, uncalled]

/-- The task on which a listener of a run waits for signals. -/
def listenerTask (run : RunId) (policy : Escalation) : Task :=
  ⟨.listener policy, ⟨"", run, none⟩, [], .fresh, none, false⟩

/-- A task remains what it was: an abort is not taken back, and neither is an ending. -/
structure Task.Remains (task task' : Task) : Prop where
  duty : task'.duty = task.duty
  actor : task'.actor = task.actor
  aborted : task.aborted = true → task'.aborted = true
  ended : task.ending.isSome = true → task'.ending = task.ending

/-- A task remains what it is. -/
theorem Task.Remains.refl (task : Task) : task.Remains task := ⟨rfl, rfl, id, fun _ => rfl⟩

/-- What remains of what remains is what remained. -/
theorem Task.Remains.trans {task task₁ task₂ : Task} (first : task.Remains task₁)
    (second : task₁.Remains task₂) :
    task.Remains task₂ where
  duty := second.duty.trans first.duty
  actor := second.actor.trans first.actor
  aborted := fun aborted => second.aborted (first.aborted aborted)
  ended := fun ended => (second.ended (first.ended ended ▸ ended)).trans (first.ended ended)

/-- Nobody may arm a listener. -/
def nobody (_ : RunId) (_ : Escalation) : Prop := False

/-- Everybody may arm a listener. -/
def everybody (_ : RunId) (_ : Escalation) : Prop := True

/-- A task that goes on remains. -/
theorem Task.Continues.remains {task task' : Task} (continues : task.Continues task') :
    task.Remains task' :=
  ⟨continues.duty, continues.actor, fun aborted => continues.aborted.trans aborted, continues.ended⟩

namespace World

/-- One step that a process takes; listeners are armed, at runs that exist, only if that is
allowed. -/
inductive Proceeds (allowed : RunId → Escalation → Prop) : World → World → Prop
  | beats {goal : World → Bool} {alarm : Nat} {w w' : World} (beat : Beat goal alarm w w') :
    Proceeds allowed w w'
  | does {w w' : World} (does : Does w w') : Proceeds allowed w w'
  | delivers (signal : Signal) {w : World} (free : w.channel.slot = .free) :
    Proceeds allowed w (w.deliver signal)
  | calls (caller : Caller) (run : RunId) (cause : Cause) {w : World}
    (here : caller.origin = .main) :
    Proceeds allowed w (w.cancel caller run cause).2
  | tells (event : Event) {w : World} (apart : event.ofChannel = false) :
    Proceeds allowed w (w.emit event)
  | opens (w : World) : Proceeds allowed w w.openRun.2
  | arms (run : RunId) (policy : Escalation) {w : World} (opened : run < w.runs.length)
    (may : allowed run policy) :
    Proceeds allowed w (w.spawn (listenerTask run policy)).2
  | spawns (task : Task) {w : World} (live : task.ending = none)
    (other : ∀ policy, task.duty ≠ .listener policy) : Proceeds allowed w (w.spawn task).2
  | aborts (id : TaskId) (w : World) : Proceeds allowed w (w.abort id)
  | books (horizon : Nat) (groups : List Group) (started : List Placed)
    (awaiting forwarder : Option TaskId) (w : World) :
    Proceeds allowed w { w with horizon, groups, started, awaiting, forwarder }

/-- One world leads to another if steps do. -/
abbrev Leads (allowed : RunId → Escalation → Prop) : World → World → Prop :=
  Relation.ReflTransGen (Proceeds allowed)

variable {allowed : RunId → Escalation → Prop} {w w' : World}

section Invariants

/-- A step keeps the books. -/
theorem Proceeds.sound (proceeds : Proceeds allowed w w') (sound : w.Sound) : w'.Sound := by
  -- Beats, acts and the operations on runs and tasks have laws of their own; the rest touches no
  -- book.
  cases proceeds with
  | beats beat => exact beat.passes.sound sound
  | does does => exact does.acts.sound sound
  | delivers signal free =>
    have acts : Acts (fun _ => True) .main w (w.deliver signal) :=
      deliver_acts (fun _ _ _ => trivial) signal
    exact acts.sound sound
  | calls caller run cause here => exact (cancel_follows caller run cause w).sound sound
  -- What is apart from the channel is no call either, so that the first call is the one that it
  -- was.
  | tells event apart =>
    exact Sound.congr (w := w) (fun _ => rfl) (fun run => firstCall_apart run w.trace w.now apart)
      rfl (fun _ => rfl) sound
  | opens => exact (openRun_follows w).sound sound
  | arms run policy opened may => exact Sound.spawn rfl sound
  | spawns task live other => exact Sound.spawn live sound
  | aborts id => exact (abort_follows id w).sound sound
  | books horizon groups started awaiting forwarder => exact sound.same rfl rfl rfl rfl

/-- Sound books stay so, whatever the process does. -/
theorem Leads.sound (leads : Leads allowed w w') (sound : w.Sound) : w'.Sound := by
  induction leads with
  | refl => exact sound
  | tail _ step ih => exact step.sound ih

/-- A step only adds to what has happened. -/
theorem Proceeds.trace (proceeds : Proceeds allowed w w') :
    ∃ later : Trace, w'.trace = w.trace ++ later := by
  -- What a party does at once is written at one time.
  have acted : ∀ {may : Event → Prop} {party : Party}, Acts may party w w' →
    ∃ later : Trace, w'.trace = w.trace ++ later :=
    fun acts => acts.trace.elim fun _ written => ⟨_, written.1⟩
  have followed : Follows w w' → ∃ later : Trace, w'.trace = w.trace ++ later :=
    fun follows => follows.trace.imp fun _ written => written.1
  cases proceeds with
  | beats beat => exact beat.passes.trace.imp fun _ written => written.1
  | does does => exact acted does.acts
  | delivers signal free =>
    have acts : Acts (fun _ => True) .main w (w.deliver signal) :=
      deliver_acts (fun _ _ _ => trivial) signal
    exact acted acts
  | calls caller run cause here => exact followed (cancel_follows caller run cause w)
  | tells event apart => exact ⟨_, rfl⟩
  | opens => exact followed (openRun_follows w)
  | aborts id => exact followed (abort_follows id w)
  | _ => exact ⟨[], (List.append_nil _).symm⟩

/-- The trace only grows, whatever the process does. -/
theorem Leads.trace (leads : Leads allowed w w') :
    ∃ later : Trace, w'.trace = w.trace ++ later := by
  -- By induction on the steps: what the last one writes comes behind what the others wrote.
  induction leads with
  | refl => exact ⟨[], (List.append_nil _).symm⟩
  | tail _ step ih =>
    obtain ⟨before, written⟩ := ih
    obtain ⟨after, written'⟩ := step.trace
    exact ⟨before ++ after, by rw [written', written, List.append_assoc]⟩

/-- No run is closed in a step. -/
theorem Proceeds.runs (proceeds : Proceeds allowed w w') : w.runs.length ≤ w'.runs.length := by
  -- Only a step that opens a run changes how many there are.
  cases proceeds with
  | beats beat => exact Nat.le_of_eq beat.passes.runs.symm
  | does does => exact Nat.le_of_eq does.acts.runs.symm
  | delivers signal free =>
    have acts : Acts (fun _ => True) .main w (w.deliver signal) :=
      deliver_acts (fun _ _ _ => trivial) signal
    exact Nat.le_of_eq acts.runs.symm
  -- A step that cancels leaves the runs in their places.
  | calls caller run cause here => exact (cancel_follows caller run cause w).runs
  | opens => exact (openRun_follows w).runs
  | aborts id => exact (abort_follows id w).runs
  | _ => exact Nat.le_refl _

/-- Every task remains through a step. -/
theorem Proceeds.remains (proceeds : Proceeds allowed w w') {id : TaskId} {task : Task}
    (found : w.task? id = some task) :
    ∃ task', w'.task? id = some task' ∧ task.Remains task' := by
  have within : id < w.tasks.length := (List.getElem?_eq_some_iff.mp found).1
  have same : w'.tasks = w.tasks → ∃ task', w'.task? id = some task' ∧ task.Remains task' :=
    fun same => ⟨task, by rw [task?, same]; exact found, .refl task⟩
  -- A task that is spawned comes after all that there are.
  have spawned : ∀ task' : Task, ∃ task₁, (w.spawn task').2.task? id = some task₁ ∧
    task.Remains task₁ := by
    intro task'
    rw [task?_spawn, if_neg (Nat.ne_of_lt within)]
    exact ⟨task, found, .refl task⟩
  cases proceeds with
  | beats beat => exact (beat.passes.own id task found).imp fun _ own => ⟨own.1, own.2.remains⟩
  | does does => exact (does.acts.own id task found).imp fun _ own => ⟨own.1, own.2.remains⟩
  | delivers signal free => exact same (tasks_deliver signal w)
  | calls caller run cause here => exact same (tasks_cancel caller run cause w)
  | arms run policy opened may => exact spawned _
  | spawns task' live other => exact spawned task'
  -- The mark stays once it is made, and everything else is as it was.
  | aborts other =>
    refine ⟨_, (task?_abort other w id).trans (congrArg _ found), rfl, rfl, fun aborted => ?_,
      fun _ => rfl⟩
    simp [aborted]
  | _ => exact same rfl

/-- A task remains what it was, whatever the process does. -/
theorem Leads.remains (leads : Leads allowed w w') {id : TaskId} {task : Task}
    (found : w.task? id = some task) :
    ∃ task', w'.task? id = some task' ∧ task.Remains task' := by
  -- By induction on the steps, following the task from each world to the next.
  induction leads with
  | refl => exact ⟨task, found, .refl task⟩
  | tail _ step ih =>
    obtain ⟨task₁, found₁, remains₁⟩ := ih
    obtain ⟨task₂, found₂, remains₂⟩ := step.remains found₁
    exact ⟨task₂, found₂, remains₁.trans remains₂⟩

/-- Tasks that end in a step come after those that ended before. -/
theorem Proceeds.finished (proceeds : Proceeds allowed w w') :
    ∃ more, w'.finished = w.finished ++ more := by
  -- Only beats let tasks end: a task that is asked to end does so in its turn.
  cases proceeds with
  | beats beat => exact beat.passes.finished
  | does does => exact does.acts.finished.imp fun _ ended => ended.1
  | delivers signal free =>
    have acts : Acts (fun _ => True) .main w (w.deliver signal) :=
      deliver_acts (fun _ _ _ => trivial) signal
    exact acts.finished.imp fun _ ended => ended.1
  | calls caller run cause here =>
    have acts : Acts (fun _ => True) .main w (w.cancel caller run cause).2 :=
      cancel_acts trivial trivial trivial
    exact acts.finished.imp fun _ ended => ended.1
  | aborts id =>
    obtain ⟨tasks, ready, whole⟩ := abortAll_eq [id] w
    have whole : w.abort id = { w with tasks, ready } := whole
    exact ⟨[], by rw [whole, List.append_nil]⟩
  | _ => exact ⟨[], (List.append_nil _).symm⟩

/-- Tasks that have ended stay so, in their order. -/
theorem Leads.finished (leads : Leads allowed w w') : ∃ more, w'.finished = w.finished ++ more := by
  induction leads with
  | refl => exact ⟨[], (List.append_nil _).symm⟩
  | tail _ step ih =>
    obtain ⟨before, written⟩ := ih
    obtain ⟨after, written'⟩ := step.finished
    exact ⟨before ++ after, by rw [written', written, List.append_assoc]⟩

/-- Runs are never lost. -/
theorem Leads.runs (leads : Leads allowed w w') : w.runs.length ≤ w'.runs.length := by
  induction leads with
  | refl => exact Nat.le_refl _
  | tail _ step ih => exact Nat.le_trans ih step.runs

/-- A task that is new after a step is a listener only if it may be armed. -/
theorem Proceeds.before (proceeds : Proceeds allowed w w') {id : TaskId} {task' : Task}
    (found : w'.task? id = some task') :
    (∃ task, w.task? id = some task ∧ task.Remains task') ∨
      ∀ policy, task'.duty = .listener policy → allowed task'.actor.run policy := by
  cases known : w.task? id with
  -- A task of that number was there before, and remains.
  | some task =>
    obtain ⟨task₁, found₁, remains⟩ := proceeds.remains known
    cases found.symm.trans found₁
    exact .inl ⟨task, rfl, remains⟩
  | none =>
    -- There was none, so that this step has spawned it.
    have beyond : w.tasks.length ≤ id := List.getElem?_eq_none_iff.mp known
    have within : id < w'.tasks.length := (List.getElem?_eq_some_iff.mp found).1
    have same : w'.tasks.length = w.tasks.length → False := fun same =>
      Nat.not_le.mpr within (Nat.le_trans (Nat.le_of_eq same) beyond)
    -- Only a step that spawns a task leaves more of them.
    have spawned : ∀ task : Task, (w.spawn task).2.task? id = some task' → task' = task := by
      intro task found
      rw [task?_spawn] at found
      split at found
      · exact (Option.some.inj found).symm
      · rw [known] at found
        contradiction
    right
    cases proceeds with
    | arms run policy opened may =>
      intro policy' duty
      cases spawned _ found
      cases duty
      exact may
    | spawns task live other =>
      intro policy duty
      cases spawned _ found
      exact absurd duty (other policy)
    | beats beat => exact (same beat.passes.count).elim
    | does does => exact (same does.acts.count).elim
    | delivers signal free => exact (same (congrArg List.length (tasks_deliver signal w))).elim
    | calls caller run cause here =>
      exact (same (congrArg List.length (tasks_cancel caller run cause w))).elim
    | aborts other =>
      rw [task?_abort, known] at found
      contradiction
    | _ => exact (same rfl).elim

/-- Steps remain possible where more may be armed. -/
theorem Proceeds.mono {allowed' : RunId → Escalation → Prop}
    (more : ∀ run policy, allowed run policy → allowed' run policy)
    (proceeds : Proceeds allowed w w') : Proceeds allowed' w w' := by
  -- Of all steps only the arming of a listener needs leave.
  cases proceeds with
  | beats beat => exact .beats beat
  | does does => exact .does does
  | delivers signal free => exact .delivers signal free
  | calls caller run cause here => exact .calls caller run cause here
  | tells event apart => exact .tells event apart
  | opens => exact .opens _
  | arms run policy opened may => exact .arms run policy opened (more run policy may)
  | spawns task live other => exact .spawns task live other
  | aborts id => exact .aborts id _
  | books horizon groups started awaiting forwarder =>
    exact .books horizon groups started awaiting forwarder _

/-- More may be armed where more is allowed. -/
theorem Leads.mono {allowed' : RunId → Escalation → Prop}
    (more : ∀ run policy, allowed run policy → allowed' run policy) (leads : Leads allowed w w') :
    Leads allowed' w w' := by
  induction leads with
  | refl => exact .refl
  | tail _ step ih => exact ih.tail (step.mono more)

end Invariants

section Operations

/-- Changes of what only the supervising flow keeps are a step. -/
theorem changeGroup_leads (group : GroupId) (change : Group → Group) (w : World) :
    Leads allowed w (w.changeGroup group change) :=
  .single (.books w.horizon (w.groups.modify group change) w.started w.awaiting w.forwarder w)

/-- To note which services are kept is a step of the process. -/
theorem setStarted_leads (started : List Placed) (w : World) : Leads allowed w { w with started } :=
  .single (.books w.horizon w.groups started w.awaiting w.forwarder w)

/-- So is to open a group, -/
theorem openGroup_leads (run : RunId) (w : World) : Leads allowed w (w.openGroup run).2 :=
  .single (.books w.horizon (w.groups ++ [⟨run, [], []⟩]) w.started w.awaiting w.forwarder w)

/-- to note where the forwarder runs, -/
theorem setForwarder_leads (forwarder : Option TaskId) (w : World) :
    Leads allowed w { w with forwarder } :=
  .single (.books w.horizon w.groups w.started w.awaiting forwarder w)

/-- to move the horizon, -/
theorem prolong_leads (horizon : Nat) (w : World) : Leads allowed w { w with horizon } :=
  .single (.books horizon w.groups w.started w.awaiting w.forwarder w)

/-- Things that are done one after another lead where each of them leads. -/
theorem foldl_leads {α : Type} {f : World → α → World} (each : ∀ w a, Leads allowed w (f w a))
    (as : List α) (w : World) :
    Leads allowed w (as.foldl f w) := by
  induction as generalizing w with
  | nil => exact .refl
  | cons a as ih => exact (each w a).trans (ih (f w a))

/-- to ask tasks to end, -/
theorem abortAll_leads (ids : List TaskId) (w : World) : Leads allowed w (w.abortAll ids) :=
  foldl_leads (fun w id => .single (.aborts id w)) ids w

/-- and to drop a group. -/
theorem dropGroup_leads (group : GroupId) (w : World) : Leads allowed w (w.dropGroup group) := by
  unfold dropGroup
  split
  · exact .refl
  · exact (changeGroup_leads _ _ w).trans (abortAll_leads _ _)

/-- The stale listener, if there is one, is asked to end. -/
theorem relieve_leads (listener : Option TaskId) (w : World) :
    Leads allowed w (listener.elim w fun stale => w.abort stale) := by
  cases listener with
  | none => exact .refl
  | some stale => exact .single (.aborts stale w)

/-- The unused group, if there is one, is dropped. -/
theorem drop_leads (group : Option GroupId) (w : World) :
    Leads allowed w (group.elim w fun unused => w.dropGroup unused) := by
  cases group with
  | none => exact .refl
  | some unused => exact dropGroup_leads unused w

/-- Abandoning starts tells of those that have not ended, forgets them all and asks them to end. -/
theorem abandonDetached_leads (group : GroupId) (w : World) :
    Leads allowed w (w.abandonDetached group) := by
  dsimp only [abandonDetached]
  refine (foldl_leads (fun w start => ?_) _ w).trans
    ((changeGroup_leads _ _ _).trans (abortAll_leads _ _))
  exact .single (.does (.tells _ w))

/-- A task that is no listener may be spawned for a group. -/
theorem spawnAwaited_leads (group : GroupId) {task : Task} (live : task.ending = none)
    (other : ∀ policy, task.duty ≠ .listener policy) (w : World) :
    Leads allowed w (w.spawnAwaited group task).2 :=
  (Relation.ReflTransGen.single (.spawns task live other)).trans (changeGroup_leads _ _ _)

/-- To launch a service spawns its start, and says so. -/
theorem launching_leads (group : GroupId) (run : RunId) (service : Placed) (w : World) :
    Leads allowed w (w.launching group run service) := by
  -- The start is spawned, the group tracks it, and the launch is noted.
  have spawned : Leads allowed w (w.spawn (startTask run service)).2 :=
    .single (.spawns _ rfl (by simp [startTask]))
  exact (spawned.trans (changeGroup_leads _ _ _)).tail (.tells _ rfl)

/-- Whatever the supervising flow does at once while it supervises services is made of steps. -/
theorem Tends.leads {group : GroupId} {run : RunId} {services : List Placed}
    (tends : Tends group run services w w') :
    Leads allowed w w' := by
  cases tends with
  | launches listed => exact launching_leads group run _ w
  | attends attends => exact .single (.does attends.does)
  | records own =>
    refine .single (.tells _ ?_)
    -- Whatever the flow writes by itself is no matter of the channel.
    unfold Event.ofFlow Event.ofStop at own
    split at own
    · rfl
    · rfl
    · rfl
    · split at own <;> first | rfl | cases own
  | keeps started => exact setStarted_leads started w
  | releases id => exact changeGroup_leads group _ w
  | calls called error => exact .single (.calls .group called _ rfl)
  | abandons => exact abandonDetached_leads group w
  | drops => exact dropGroup_leads group w
  | stops stops => exact stops.elim fun _ plays => .single (.does plays.does)

end Operations

end World

namespace Flow

open World

variable {allowed : RunId → Escalation → Prop} {group : GroupId} {run : RunId}

/-- Steps are steady, so that whatever the supervising flow does while a run is under way is made of
them. -/
theorem steady_leads : Steady (Leads allowed) where
  refl := fun _ => .refl
  trans := .trans
  beats := fun beats => by
    induction beats with
    | refl => exact .refl
    | tail _ beat ih => exact ih.tail (.beats beat)
  does := fun does => .single (.does does)

/-- What the supervising flow does while it supervises services is made of steps, and of waits. -/
theorem tending_leads (group : GroupId) (run : RunId) (services : List Placed) :
    Lasting (Tends group run services) (Leads allowed) :=
  { steady_leads with does := Tends.leads }

/-- To wait for a group is a matter of steps. -/
theorem waitGroup_leads : (waitGroup group).Within (Leads allowed) :=
  waiting_within (tending_leads group 0 [])

/-- So is to stop services, -/
theorem stopAll_leads (timeout : Duration) : (stopAll run timeout).Within (Leads allowed) :=
  stopping_within (tending_leads 0 run []) timeout

/-- With a group, services are supervised however it goes. -/
theorem startServices_watches {supervisor : Supervisor} (own : supervisor.group = some group)
    (services : List Placed) (w : World) : (startServices supervisor run services).Yields w
      (fun _ => Leads allowed (w.spawnAwaited group (watcherTask run)).2)
      fun _ => Leads allowed (w.spawnAwaited group (watcherTask run)).2 :=
  startServices_watched (tending_leads group run services) own w

/-- No listener is armed while services are supervised, whatever group and run they are given. -/
theorem startServices_leads (supervisor : Supervisor) (run : RunId) (services : List Placed) :
    (startServices supervisor run services).Within (Leads allowed) :=
  startServices_within (fun group => tending_leads group run services)
    (fun group w => spawnAwaited_leads group rfl (by simp [watcherTask]) w) supervisor

variable (allowed) in
/-- and to begin to forward signals, which leaves the runs as they are. -/
theorem forwardSignals_leads (wanted : Bool) {w : World} {halts : Halt → World → Prop} :
    (forwardSignals wanted).Yields w (fun _ w' => Leads allowed w w' ∧ w'.runs = w.runs) halts := by
  simp only [forwardSignals, yields_bind, yields_look]
  split
  · have spawned :
      Leads allowed w (w.spawn ⟨.forwarder, ⟨"", 0, none⟩, [], .fresh, none, false⟩).2 :=
      .single (.spawns _ rfl (by simp))
    exact ⟨spawned.trans (setForwarder_leads _ _), rfl⟩
  · exact ⟨.refl, rfl⟩

/-- To give a flow its time is a step of its own. -/
theorem bounded_leads {α : Type} {flow : Flow α} (leads : flow.Within (Leads allowed)) :
    (bounded flow).Within (Leads allowed) :=
  bind_within steady_leads (fun w => prolong_leads (w.now + patience) w) fun _ => leads

end Flow

end Warden.Supervision
