import Warden.Proofs.Supervision.Concluding

/-!
The life of a process with one supervisor: it prepares and supervises runs, and does other things in
between.
-/

namespace Warden.Supervision

open World

/-- What else a process can do while nothing is supervised: it plays a script, as far as it comes,
sets one going beside it or calls it off, opens runs of its own, or is given more time. -/
inductive Idles : World → World → Prop
  | plays (actor : Actor) (deadline : Option Nat) (script : Script)
    (result : Except Halt (Option Outcome)) {w w' : World}
    (ran : (Flow.play actor deadline script).run w = (result, w')) (going : w'.exited = none) :
    Idles w w'
  | acts (run : RunId) (script : Script) {w w' : World} {id : TaskId}
    (ran : (Flow.spawnAction run script).run w = (.ok id, w')) : Idles w w'
  | aborts (id : TaskId) (task : Task) {w : World} (found : w.task? id = some task)
    (action : task.duty = .action) : Idles w (w.abort id)
  | opens (w : World) : Idles w w.openRun.2
  | prolongs (horizon : Nat) (w : World) : Idles w { w with horizon }

/-- What a process with a supervisor can do next, if it still goes on afterwards. -/
inductive Moves : Supervisor × World → Supervisor × World → Prop
  | prepares {supervisor supervisor' : Supervisor} {run : RunId} {w w' : World}
    (ran : (Flow.prepare supervisor).run w = (.ok (supervisor', run), w')) :
    Moves (supervisor, w) (supervisor', w')
  | supervises {supervisor : Supervisor} {run : RunId} {services : List Service}
    {result : Except Halt (Option RunError)} {w w' : World}
    (ran : (Flow.startServices supervisor run (placed services)).run w = (result, w'))
    (going : w'.exited = none) : Moves (supervisor, w) (supervisor.spent, w')
  | idles {supervisor : Supervisor} {w w' : World} (idles : Idles w w') :
    Moves (supervisor, w) (supervisor, w')

/-- A supervisor and a world to which a fresh process can come. -/
def Reachable (supervisor : Supervisor) (w : World) : Prop :=
  ∃ settings, Relation.ReflTransGen Moves ({ settings }, {}) (supervisor, w)

/-- The supervisor has prepared the run, and since then the process has done nothing but other
things. -/
def Prepared (supervisor : Supervisor) (run : RunId) (w : World) : Prop :=
  ∃ (before : Supervisor) (w₀ w₁ : World), Reachable before w₀ ∧
    (Flow.prepare before).run w₀ = (.ok (supervisor, run), w₁) ∧ Relation.ReflTransGen Idles w₁ w

/-- What holds whenever nothing is supervised. -/
structure Tidy (supervisor : Supervisor) (w : World) : Prop where
  going : w.exited = none
  sound : w.Sound
  counted : w.Counted
  timed : w.Timed
  settled : w.Settled
  listed : ∀ group, supervisor.group = some group → ∃ g, w.groups[group]? = some g

namespace World

variable {w w₁ w₂ : World}

/-- A change that touches neither the clock, nor a run, nor the trace. -/
structure Keeps (w w' : World) : Prop where
  follows : Follows w w'
  runs : w'.runs = w.runs
  exited : w'.exited = w.exited
  trace : w'.trace = w.trace

/-- Nothing at all keeps all of it. -/
theorem Keeps.refl (w : World) : Keeps w w :=
  ⟨.refl w, rfl, rfl, rfl⟩

/-- What is kept twice is kept. -/
theorem Keeps.trans (first : Keeps w w₁) (second : Keeps w₁ w₂) : Keeps w w₂ where
  follows := first.follows.trans second.follows
  runs := second.runs.trans first.runs
  exited := second.exited.trans first.exited
  trace := second.trace.trans first.trace

/-- To ask a task to end keeps all of it. -/
theorem abort_keeps (id : TaskId) (w : World) : Keeps w (w.abort id) := by
  obtain ⟨tasks, ready, same⟩ := abortAll_eq [id] w
  have same : w.abort id = { w with tasks, ready } := same
  have follows := abort_follows id w
  rw [same] at follows ⊢
  exact ⟨follows, rfl, rfl, rfl⟩

/-- So does to drop a group, -/
theorem dropGroup_keeps (group : GroupId) (w : World) : Keeps w (w.dropGroup group) := by
  obtain ⟨tasks, ready, groups, same⟩ := Flow.dropGroup_eq group w
  have follows := dropGroup_follows group w
  rw [same] at follows ⊢
  exact ⟨follows, rfl, rfl, rfl⟩

/-- to relieve the listener of the last run, -/
theorem relieve_keeps (listener : Option TaskId) (w : World) :
    Keeps w (listener.elim w fun stale => w.abort stale) := by
  cases listener with
  | none => exact .refl w
  | some stale => exact abort_keeps stale w

/-- to drop the group of one that was not used, -/
theorem drop_keeps (group : Option GroupId) (w : World) :
    Keeps w (group.elim w fun unused => w.dropGroup unused) := by
  cases group with
  | none => exact .refl w
  | some unused => exact dropGroup_keeps unused w

/-- and to spawn a task that is no start. -/
theorem spawn_keeps {task : Task} (live : task.ending = none)
    (other : ∀ service, task.duty ≠ .start service) :
    Keeps w (w.spawn task).2 :=
  ⟨spawn_follows live other, rfl, rfl, rfl⟩

end World

namespace Flow

/-- A relation that a flow keeps holds for any run of it. -/
theorem Within.of_run {α : Type} {R : World → World → Prop} {flow : Flow α} {w w' : World}
    {result : Except Halt α} (within : flow.Within R) (ran : flow.run w = (result, w')) :
    R w w' := by
  cases result with
  | ok a => exact ((within w).of_run ran).1 a rfl
  | error halt => exact ((within w).of_run ran).2 halt rfl

/-- So does to begin to forward signals. -/
theorem forwardSignals_keeps (wanted : Bool) {w : World} {halts : Halt → World → Prop} :
    (forwardSignals wanted).Yields w (fun _ => Keeps w) halts := by
  simp only [forwardSignals, yields_bind, yields_look]
  split
  · simp only [yields_bind, yields_answer, yields_change]
    have noted : ∀ (w : World) (forwarder : Option TaskId), Keeps w { w with forwarder } :=
      fun w _ =>
        ⟨{ Follows.refl w with sound := fun sound => sound.same rfl rfl rfl rfl }, rfl, rfl, rfl⟩
    exact (spawn_keeps rfl (by simp)).trans (noted _ _)
  · exact .refl w

/-- A group that is opened for a fresh run is ready for its services. -/
theorem ready_openGroup {supervisor : Supervisor} {w w₁ : World} (tidy : Tidy supervisor w)
    (keeps : Keeps w.openRun.2 w₁) :
    ((w₁.openGroup w.runs.length).2.notice .main .runPrepared).Ready w₁.groups.length
      w.runs.length := by
  -- From before the preparation until after it everything follows.
  have follows : Follows w ((w₁.openGroup w.runs.length).2.notice .main .runPrepared) :=
    (((openRun_follows w).trans keeps.follows).trans (openGroup_follows _)).trans
      (notice_follows _ _)
  refine {
    going := keeps.exited.trans tidy.going
    sound := follows.sound tidy.sound
    counted := follows.counted tidy.sound tidy.counted
    timed := follows.grows.timed tidy.timed
    settled := fun service starting => tidy.settled service (follows.starting service starting)
    opened := ?_
    listed := by simp [World.notice, World.emit, openGroup]
    caller := fun call first => ?_ }
  · show w.runs.length < w₁.runs.length
    simp [keeps.runs, openRun]
  · -- Nobody can have called for a run that did not exist.
    have fresh : w.trace.firstCall w.runs.length = none :=
      tidy.sound.unopened _ (List.getElem?_eq_none (Nat.le_refl _))
    have trace : w₁.trace = w.trace := keeps.trace
    have same : ((w₁.openGroup w.runs.length).2.notice .main .runPrepared).trace =
        w.trace ++ [⟨w₁.now, .notice .main .runPrepared⟩] := congrArg (· ++ [_]) trace
    rw [same, firstCall_quiet _ _ _ rfl, fresh] at first
    cases first

/-- A run that has been prepared is ready for its services. -/
theorem prepare_yields {supervisor : Supervisor} {w : World} (tidy : Tidy supervisor w)
    {halts : Halt → World → Prop} :
    (prepare supervisor).Yields w
      (fun prepared w' => prepared.1.settings = supervisor.settings ∧
        ∃ group, prepared.1.group = some group ∧ w'.Ready group prepared.2) halts := by
  simp only [prepare, arm, yields_bind, yields_answer, yields_change, yields_notice, yields_pure]
  refine (forwardSignals_keeps _).mono (fun _ w₁ keeps => ⟨trivial, _, rfl, ?_⟩) fun _ _ halts =>
    halts
  -- The listener is armed, the stale one relieved and the unused group dropped before the new group
  -- is opened.
  refine ready_openGroup tidy (keeps.trans ?_)
  have armed : Keeps w₁ (w₁.spawn
      ⟨.listener supervisor.settings.escalation, ⟨"", w.openRun.1, none⟩, [], .fresh, none,
        false⟩).2 :=
    spawn_keeps rfl (by simp)
  exact (armed.trans (relieve_keeps supervisor.listener _)).trans (drop_keeps supervisor.group _)

end Flow

variable {supervisor supervisor' : Supervisor} {run : RunId} {w w' : World}

section Idle

/-- With the time that it has then, a process that does other things follows from where it was. -/
theorem Idles.follows (idles : Idles w w') : ∃ horizon, Follows { w with horizon } w' := by
  -- One case for each other thing that a process does; only time may be added to what it had.
  cases idles with
  | plays actor deadline script result ran going =>
    exact ⟨w.horizon,
      (Flow.play_within (Flow.steady_follows.plays actor) deadline script).of_run ran⟩
  | acts run script ran =>
    cases ran
    exact ⟨w.horizon, spawn_follows rfl (by simp)⟩
  | aborts id task found action => exact ⟨w.horizon, abort_follows id w⟩
  | opens => exact ⟨w.horizon, openRun_follows w⟩
  | prolongs horizon => exact ⟨horizon, .refl _⟩

/-- No group changes while nothing is prepared or supervised. -/
theorem Idles.groups (idles : Idles w w') : w'.groups = w.groups := by
  -- A script that is played only passes, and the other things have to do with tasks, runs and time.
  cases idles with
  | plays actor deadline script result ran going =>
    exact ((Flow.play_within (Flow.steady_passes.plays actor) deadline script).of_run ran).groups
  | acts run script ran =>
    cases ran
    rfl
  | aborts id task found action =>
    obtain ⟨tasks, ready, same⟩ := abortAll_eq [id] w
    exact (congrArg World.groups same :)
  | opens => rfl
  | prolongs horizon => rfl

/-- The process goes on, whatever idles. -/
theorem Idles.going (idles : Idles w w') (going : w.exited = none) : w'.exited = none := by
  cases idles with
  | plays actor deadline script result ran alive => exact alive
  | acts run script ran =>
    cases ran
    exact going
  | aborts id task found action => exact (abort_keeps id w).exited.trans going
  | opens => exact going
  | prolongs horizon => exact going

/-- Nothing of that is a call by a group. -/
theorem Idles.caller (idles : Idles w w')
    (caller : ∀ call, w.trace.firstCall run = some call → call.caller ≠ .group) :
    ∀ call, w'.trace.firstCall run = some call → call.caller ≠ .group := by
  -- Only a script could call, and it calls as the owner.
  cases idles with
  | plays actor deadline script result ran going =>
    exact ((Flow.play_within (Flow.steady_passes.plays actor) deadline script).of_run ran).caller
      caller
  | acts run script ran =>
    cases ran
    exact caller
  | aborts id task found action =>
    rw [(abort_keeps id w).trace]
    exact caller
  | opens => exact caller
  | prolongs horizon => exact caller

/-- The books stay sound. -/
theorem Idles.sound (idles : Idles w w') (sound : w.Sound) : w'.Sound := by
  obtain ⟨horizon, follows⟩ := idles.follows
  exact follows.sound (sound.same rfl rfl rfl rfl)

/-- Cancellations stay counted. -/
theorem Idles.counted (idles : Idles w w') (sound : w.Sound) (counted : w.Counted) :
    w'.Counted := by
  obtain ⟨horizon, follows⟩ := idles.follows
  exact follows.counted (sound.same rfl rfl rfl rfl) (counted.same rfl)

/-- Nothing has a time that is yet to come. -/
theorem Idles.timed (idles : Idles w w') (timed : w.Timed) : w'.Timed := by
  obtain ⟨horizon, follows⟩ := idles.follows
  exact follows.grows.timed timed

/-- No start goes on that did not before. -/
theorem Idles.settled (idles : Idles w w') (settled : w.Settled) : w'.Settled := by
  obtain ⟨horizon, follows⟩ := idles.follows
  exact fun service starting => settled service (follows.starting service starting)

end Idle

/-- A run that is ready stays so while the process does other things. -/
theorem World.Ready.idles {group : GroupId} (ready : w.Ready group run) (idles : Idles w w') :
    w'.Ready group run where
  going := idles.going ready.going
  sound := idles.sound ready.sound
  counted := idles.counted ready.sound ready.counted
  timed := idles.timed ready.timed
  settled := idles.settled ready.settled
  opened := by
    obtain ⟨horizon, follows⟩ := idles.follows
    exact Nat.lt_of_lt_of_le ready.opened follows.runs
  listed := by rw [idles.groups, ready.listed]
  caller := idles.caller ready.caller

/-- Every move leaves a process tidy. -/
theorem Tidy.moves (tidy : Tidy supervisor w) (moves : Moves (supervisor, w) (supervisor', w')) :
    Tidy supervisor' w' := by
  -- A prepared run comes with its group, a supervised one leaves no start behind, and other things
  -- start nothing.
  cases moves with
  -- A run is prepared: it is ready, and its group is the one that the supervisor has.
  | prepares ran =>
    have prepared : (Flow.prepare supervisor).Yields w _ fun _ _ => True := Flow.prepare_yields tidy
    obtain ⟨_, group, own, ready⟩ := (prepared.of_run ran).1 _ rfl
    refine ⟨ready.going, ready.sound, ready.counted, ready.timed, ready.settled,
      fun group' own' => ?_⟩
    cases own.symm.trans own'
    exact ⟨_, ready.listed⟩
  | @supervises _ run services _ _ _ ran going =>
    have grows := (Flow.startServices_grows run (placed services)).of_run ran
    have settled : w'.Settled := by
      have settles :=
        (Flow.startServices_settles tidy.settled tidy.listed run (placed services)).of_run ran
      cases ‹Except Halt (Option RunError)› with
      | ok result => exact settles.1 result rfl
      | error halt => exact settles.2 halt rfl
    -- The group of the run is used up, and no other has taken its place.
    refine ⟨going, grows.sound tidy.sound, grows.counted tidy.sound tidy.counted,
      grows.timed tidy.timed, settled,
      fun group own => ?_⟩
    cases own
  | idles idles =>
    refine ⟨idles.going tidy.going, idles.sound tidy.sound, idles.counted tidy.sound tidy.counted,
      idles.timed tidy.timed, idles.settled tidy.settled, ?_⟩
    rw [idles.groups]
    exact tidy.listed

/-- No move takes anything back: the books stay kept, and the first call for a run stays the
first. -/
theorem Moves.keeps (moves : Moves (supervisor, w) (supervisor', w')) (sound : w.Sound) :
    w'.Sound ∧ ∀ call, w.trace.firstCall run = some call → w'.trace.firstCall run = some call := by
  -- A run that is prepared or supervised only lets the world grow, and so does everything else.
  have kept : ∀ {w w' : World}, Grows w w' → w.Sound →
      w'.Sound ∧ ∀ call, w.trace.firstCall run = some call → w'.trace.firstCall run = some call :=
    fun grows sound => ⟨grows.sound sound, fun _ first => grows.firstCall first⟩
  cases moves with
  | prepares ran => exact kept ((Flow.prepare_follows supervisor).of_run ran).grows sound
  | supervises ran going => exact kept ((Flow.startServices_grows _ _).of_run ran) sound
  | idles idles =>
    obtain ⟨horizon, follows⟩ := idles.follows
    exact ⟨follows.sound (sound.same rfl rfl rfl rfl), fun _ first => follows.grows.firstCall first⟩

/-- The cause of a run that is cancelled is the same ever after. -/
theorem cause?_of_moves {cause : Cause} (sound : w.Sound) (known : w.cause? run = some cause)
    (moves : Relation.ReflTransGen Moves (supervisor, w) (supervisor', w')) :
    w'.cause? run = some cause := by
  -- By induction on the moves, of the first call instead of the cause, since that is what each move
  -- keeps.
  generalize last : (supervisor', w') = state at moves
  suffices kept : state.2.Sound ∧ ∀ call, w.trace.firstCall run = some call →
    state.2.trace.firstCall run = some call by
    cases last
    rw [sound.cause?_eq] at known
    obtain ⟨call, first, rfl⟩ := Option.map_eq_some_iff.mp known
    rw [kept.1.cause?_eq, kept.2 call first, Option.map_some]
  clear last
  induction moves with
  | refl => exact ⟨sound, fun _ first => first⟩
  | tail _ move ih =>
    obtain ⟨sound', kept⟩ := move.keeps ih.1
    exact ⟨sound', fun call first => kept call (ih.2 call first)⟩

/-- The books of a fresh process are kept. -/
theorem World.sound_fresh : ({} : World).Sound :=
  ⟨by simp, fun _ _ => rfl, fun _ => by simp [isEnded, task?], .nil⟩

/-- A fresh process is tidy. -/
theorem tidy_fresh (settings : Settings) : Tidy { settings } {} where
  going := rfl
  sound := sound_fresh
  counted := fun _ => rfl
  timed := fun stamped member => absurd member List.not_mem_nil
  settled := by
    rintro service ⟨id, task, found, _⟩
    simp [task?] at found
  listed := by simp

/-- Wherever a process comes, it is tidy. -/
theorem Reachable.tidy (reachable : Reachable supervisor w) : Tidy supervisor w := by
  -- By induction on the moves, from a fresh process on.
  obtain ⟨settings, moves⟩ := reachable
  generalize last : (supervisor, w) = state at moves
  induction moves generalizing supervisor w with
  | refl =>
    cases last
    exact tidy_fresh settings
  | @tail before _ _ move ih =>
    cases last
    exact (ih rfl).moves move

/-- A run that was prepared is ready for its services. -/
theorem Prepared.ready (prepared : Prepared supervisor run w) :
    ∃ group, supervisor.group = some group ∧ w.Ready group run := by
  -- By induction on the other things that were done since the run was prepared.
  obtain ⟨before, w₀, w₁, reachable, ran, idles⟩ := prepared
  have prepared : (Flow.prepare before).Yields w₀ _ fun _ _ => True :=
    Flow.prepare_yields reachable.tidy
  obtain ⟨_, group, own, ready⟩ := (prepared.of_run ran).1 _ rfl
  refine ⟨group, own, ?_⟩
  induction idles with
  | refl => exact ready
  | tail _ idle ih => exact ih.idles idle

end Warden.Supervision
