import Warden.Proofs.Supervision.Closing

/-!
Stragglers: the starts whose deadline has passed before they ended, what becomes of them, and that
they rest when their group has been waited for.
-/

namespace Warden.Supervision

/-- A task that rests: it stands where it stood, and has ended or can only be dropped. -/
structure Task.Rests (task task' : Task) : Prop where
  duty : task'.duty = task.duty
  steps : task'.steps = task.steps
  ending : task'.ending = task.ending ∨ task'.ending = some .dropped
  closed : task'.ending.isSome ∨ task'.aborted = true

namespace World

variable {allowed : RunId → Escalation → Prop} {id : TaskId} {task : Task} {w w' : World}

/-- In this world a task rests that was once like this. -/
def Resting (id : TaskId) (task : Task) (w : World) : Prop :=
  ∃ task', w.task? id = some task' ∧ task.Rests task'

/-- Rest depends on the task alone. -/
theorem Resting.of_task (same : w'.task? id = w.task? id) :
    w.Resting id task → w'.Resting id task :=
  fun ⟨task', found, rests⟩ => ⟨task', same.trans found, rests⟩

/-- An act that writes nothing leaves the trace as it is. -/
theorem Acts.trace_eq {party : Party} (acts : Acts (fun _ => False) party w w') :
    w'.trace = w.trace := by
  obtain ⟨events, written, never⟩ := acts.trace
  obtain rfl : events = [] := List.eq_nil_iff_forall_not_mem.mpr never
  rw [written, List.map_nil, List.append_nil]

/-- A task that is dropped keeps the steps that were before it, and of a start it is noted that it
is given up. -/
theorem task?_dropTask (found : w.task? id = some task) :
    (w.dropTask id task).task? id = some { task with ending := some .dropped } := by
  simp only [dropTask, finish, task?, changeTask, tasks_noteAbandoned, tasks_leaveReceiver,
    tasks_forsake,
    List.getElem?_modify_eq]
  rw [show w.tasks[id]? = some task from found]
  rfl

/-- A start that is dropped leaves at most one word. -/
theorem trace_dropTask {service : Placed} (duty : task.duty = .start service) :
    (w.dropTask id task).trace = w.trace ∨ (w.dropTask id task).trace =
      w.trace ++ [⟨w.now, .abandoned service⟩] := by
  -- What it held is let go without a word.
  have left :
    Acts (fun _ => False) (.task id) w
      ((w.forsake (.task id) task.actor task.wait).leaveReceiver id) :=
    (forsake_acts _ _).trans (leaveReceiver_acts id)
  show (noteAbandoned task _).trace = _ ∨ (noteAbandoned task _).trace = _
  simp only [noteAbandoned, duty]
  split
  · exact .inl left.trace_eq
  · right
    show _ ++ [Stamped.mk _ _] = _
    rw [left.trace_eq, left.now]

/-- In its turn a task that rests does nothing, or it is dropped. -/
theorem poll_rests {task' : Task} (rests : task.Rests task') (found : w.task? id = some task') :
    w.poll id = w ∨ task'.ending = none ∧ w.poll id = w.dropTask id task' := by
  by_cases ceased : task'.ending.isSome ∨ w.exited.isSome
  · exact .inl (poll_idle (by simpa [found] using ceased))
  · simp only [not_or, Option.not_isSome_iff_eq_none] at ceased
    obtain ⟨live, going⟩ := ceased
    have aborted : task'.aborted = true := rests.closed.resolve_left (by simp [live])
    exact .inr ⟨live, poll_aborted found live going aborted⟩

/-- A task rests whoever has a turn. -/
theorem Resting.poll (resting : w.Resting id task) (other : TaskId) :
    (w.poll other).Resting id task := by
  -- In its own turn a task that rests is dropped at most, and no other turn touches it.
  by_cases same : other = id
  · subst same
    obtain ⟨task', found, rests⟩ := resting
    -- Asked to end or ended, it does not go on in its turn.
    rcases poll_rests rests found with still | ⟨live, dropped⟩
    · exact still.symm ▸ ⟨task', found, rests⟩
    · rw [dropped]
      exact ⟨_, task?_dropTask found, rests.duty, rests.steps, .inr rfl, .inl rfl⟩
  · rcases poll_acts other w with still | ⟨_, _, _, _, acts⟩
    · exact still.symm ▸ resting
    · exact resting.of_task (acts.others id (by simpa using same))

/-- A task that rests does so after every step. -/
theorem Resting.proceeds (proceeds : Proceeds allowed w w') (resting : w.Resting id task) :
    w'.Resting id task := by
  have same : w'.tasks = w.tasks → w'.Resting id task :=
    fun same => resting.of_task (by rw [task?, same, task?])
  have spawned : ∀ new : Task, (w.spawn new).2.Resting id task := by
    intro new
    obtain ⟨task', found, rests⟩ := resting
    refine ⟨task', ?_, rests⟩
    rw [task?_spawn, if_neg (Nat.ne_of_lt (List.getElem?_eq_some_iff.mp found).1), found]
  -- Only turns and aborts concern a task that is there, and neither sets going one that rests.
  cases proceeds with
  | beats beat =>
    refine Beats.invariant (I := Resting id task) (fun _ same _ _ => ?_)
      (fun other _ kept => kept.poll other)
      (.single beat) resting
    exact Resting.of_task (by rw [task?, same, task?])
  | does does => exact resting.of_task (does.acts.others id (by simp))
  | delivers signal free => exact same (tasks_deliver signal w)
  | calls caller run cause here => exact same (tasks_cancel caller run cause w)
  | arms run policy opened may => exact spawned _
  | spawns task' live other => exact spawned task'
  | aborts other =>
    obtain ⟨task', found, rests⟩ := resting
    refine ⟨_, (task?_abort other w id).trans (congrArg _ found), rests.duty, rests.steps,
      rests.ending, ?_⟩
    exact rests.closed.imp_right fun aborted => by simp [aborted]
  | _ => exact same rfl

/-- A task that rests stays at rest, whatever happens. -/
theorem Resting.leads (leads : Leads allowed w w') (resting : w.Resting id task) :
    w'.Resting id task := by
  induction leads with
  | refl => exact resting
  | tail _ step ih => exact ih.proceeds step

/-- In its turn a start that rests writes nothing, or that it is given up. -/
theorem Resting.turn {service : Placed} (duty : task.duty = .start service)
    (resting : w.Resting id task) :
    (w.poll id).trace = w.trace ∨ (w.poll id).trace = w.trace ++ [⟨w.now, .abandoned service⟩] := by
  obtain ⟨task', found, rests⟩ := resting
  rcases poll_rests rests found with still | ⟨-, dropped⟩
  · exact .inl (by rw [still])
  · rw [dropped]
    exact trace_dropTask (rests.duty.trans duty)

/-- From here on a start takes no further step, whatever the process does: in its turn nothing is
logged, called off or done, and all that may be noted is that it is given up. -/
def LaidToRest (service : Placed) (id : TaskId) (task : Task) (w : World) : Prop :=
  ∀ w', Leads everybody w w' → w'.Resting id task ∧
    ((w'.poll id).trace = w'.trace ∨ (w'.poll id).trace =
      w'.trace ++ [⟨w'.now, .abandoned service⟩])

/-- A start that is closed is laid to rest. -/
theorem laidToRest {service : Placed} (found : w.task? id = some task)
    (duty : task.duty = .start service) (closed : task.ending.isSome ∨ task.aborted = true) :
    w.LaidToRest service id task := by
  intro w' leads
  have resting : w.Resting id task := ⟨task, found, rfl, rfl, .inl rfl, closed⟩
  have resting' := resting.leads leads
  exact ⟨resting', resting'.turn duty⟩

/-- Whether a task was asked to end before it had ended. -/
def isAborted (id : TaskId) (w : World) : Bool :=
  (w.task? id).any (·.aborted)

/-- What becomes of a start by the time its group has been waited for: it has ended or is asked to
end, the log has said of it what it should, and it is laid to rest. -/
def Fares (deadline : Duration) (trace : Trace) (launch : (Placed × Launched) × TaskId)
    (w : World) : Prop :=
  ∃ task, w.task? launch.2 = some task ∧ task.duty = .start launch.1.1 ∧
    task.aborted = task.ending.isNone ∧
    Told deadline launch.1.2 task.ending (trace.view (sayingOf launch.1.1)) ∧
      w.LaidToRest launch.1.1 launch.2 task

variable {group : GroupId} {run : RunId} {deadline : Duration} {base : TaskId}
  {before trace : Trace} {done : List (Placed × Launched)}

/-- A group that keeps the ledger tracks the starts of all launches. -/
theorem Ledger.detached (ledger : w.Ledger group run deadline base before done) :
    w.detached group = (enrolled base done).map fun launch => (launch.1.1.name, launch.2) := by
  obtain ⟨g, listed, detached⟩ := ledger.tracked
  simp [World.detached, listed, detached]

/-- When the starts of a ledger are abandoned, those that have not ended are asked to end. -/
theorem Ledger.asked (ledger : w.Ledger group run deadline base before done)
    {launch : (Placed × Launched) × TaskId} (member : launch ∈ enrolled base done)
    (found : w.task? launch.2 = some task) (unaborted : task.aborted = false) :
    (w.abandonDetached group).task? launch.2 =
      some { task with aborted := task.ending.isNone } := by
  -- The group tracks the starts of all launches, and asks those to end that have not.
  have tracked : launch.2 ∈ (w.detached group).map (·.2) := by
    rw [ledger.detached, List.map_map]
    exact List.mem_map.mpr ⟨launch, member, rfl⟩
  rw [Flow.task?_abandonDetached, found]
  simp [unaborted, tracked]

/-- When the starts of a ledger are abandoned, each of them fares in one of the ways that there
are. -/
theorem Ledger.fares (ledger : w.Ledger group run deadline base before done)
    (written : (w.abandonDetached group).trace = before ++ trace)
    {launch : (Placed × Launched) × TaskId} (member : launch ∈ enrolled base done) :
    (w.abandonDetached group).Fares deadline trace launch := by
  obtain ⟨task, sayings, found, duty, unaborted, told, saw⟩ := (ledger.accounts launch member).told
  have found' := ledger.asked member found unaborted
  -- That starts are abandoned is told under their names only, which says nothing of how they went.
  have same : trace.view (sayingOf launch.1.1) = sayings :=
    (saw.unseen (Flow.abandonDetached_unseen (fun _ => rfl) group w)).unique ⟨trace, written, rfl⟩
  refine ⟨_, found', duty, rfl, same ▸ told, laidToRest found' duty ?_⟩
  -- A start that has ended stays as it is, and one that has not is asked to end.
  cases task.ending <;> simp

/-- The starts that are abandoned are those that are asked to end. -/
theorem Ledger.abandonings (ledger : w.Ledger group run deadline base before done)
    (booked : w.Booked before done) (written : (w.abandonDetached group).trace = before ++ trace) :
    trace.abandonings =
      ((enrolled base done).filter fun launch => (w.abandonDetached group).isAborted launch.2).map
        (·.1.1.name) := by
  -- None was asked to end before, so that those which are asked now are those that go on.
  have unended : ∀ launch ∈ enrolled base done,
      (w.abandonDetached group).isAborted launch.2 = !w.isEnded launch.2 := by
    intro launch member
    obtain ⟨task, _, found, -, unaborted, -⟩ := (ledger.accounts launch member).told
    rw [isAborted, isEnded, ledger.asked member found unaborted, found]
    cases ended : task.ending <;> simp [ended]
  -- The words of the wait are those of all starts that had not ended by then.
  have told := booked.unabandoned.append (Flow.trace_abandonDetached group w)
  refine (told.unique ⟨trace, written, rfl⟩).trans ?_
  rw [List.filter_congr unended, Trace.view_stamped, List.nil_append, Flow.unfinished,
    ledger.detached, List.filter_map]
  simp only [List.filterMap_map, List.map_map, Function.comp_def, Flow.abandoning,
    Event.abandoning?, List.filterMap_eq_map']

/-- When the group of a run has been waited for, all of its services have been launched, each start
has fared in one of the ways that there are, and the starts that were abandoned are those that were
asked to end. -/
structure Cleared (deadline : Duration) (base : TaskId) (services : List Placed) (trace : Trace)
    (w : World) : Prop where
  launched : trace.resolutions.map (·.1) = services
  fares : ∀ launch ∈ enrolled base trace.resolutions, w.Fares deadline trace launch
  abandoned : trace.abandonings =
    ((enrolled base trace.resolutions).filter fun launch => w.isAborted launch.2).map (·.1.1.name)

/-- A group whose starts are abandoned clears all of them. -/
theorem Ledger.cleared (ledger : w.Ledger group run deadline base before done)
    (booked : w.Booked before done) :
    ∃ trace : Trace, (w.abandonDetached group).trace = before ++ trace ∧
      (w.abandonDetached group).Cleared deadline base (done.map (·.1)) trace := by
  obtain ⟨trace, written, launches⟩ :=
    booked.launches.unseen (Flow.abandonDetached_unseen (fun _ => rfl) group w)
  -- Abandoning starts resolves no launch, so that those in the ledger are all.
  have launches : trace.resolutions = done := launches
  refine ⟨trace, written, by rw [launches], ?_, ?_⟩
  · rw [launches]
    exact fun launch member => ledger.fares written member
  · rw [launches]
    exact ledger.abandonings booked written

end World

open World

/-- The fates of starts: when the group of a run has been waited for, each start whose deadline had
passed has met one fate, and is said once to have ended late, to have failed or to be abandoned
unless it has panicked; of no other start is it said that it was late or abandoned. From then on no
start of the run takes a further step, and nothing more is said of any. -/
theorem startServices_clears_stragglers {supervisor : Supervisor} {run : RunId} {w w' : World}
    {group : GroupId} (prepared : Prepared supervisor run w) (own : supervisor.group = some group)
    (services : List Service) {result : Except Halt (Option RunError)}
    (ran : (Flow.startServices supervisor run (placed services)).run w = (result, w')) :
    ∃ trace : Trace, w'.trace = w.trace ++ trace ∧
      (∀ launch ∈ trace.resolutions, ∃ ending,
        Told supervisor.settings.startupTimeout launch.2 ending (trace.view (sayingOf launch.1))) ∧
      (∀ halt w₁, (Flow.startAndWait supervisor.settings group run (placed services)).run w =
        (.error halt, w₁) →
        trace.abandonings = []) ∧
      ∀ ended w₁, (Flow.startAndWait supervisor.settings group run (placed services)).run w =
        (.ok ended, w₁) →
        Over w₁ w' ∧ ∃ waited : Trace, w₁.trace = w.trace ++ waited ∧
          w₁.Cleared supervisor.settings.startupTimeout (w.tasks.length + 1) (placed services)
            waited := by
  obtain ⟨_, own', ready⟩ := prepared.ready
  cases own.symm.trans own'
  obtain ⟨trace, written, -, -, filed⟩ := prepared.filed services ran
  have waits : (Flow.startAndWait supervisor.settings group run (placed services)).Yields w _ _ :=
    (Flow.startAndWait_ledger ready (nodup_placed services)).and
      (Flow.startAndWait_settles ready.settled ⟨_, ready.listed⟩ (placed services))
  refine ⟨trace, written, fun launch member => ?_, fun halt w₁ halted => ?_,
    fun ended w₁ waited => ?_⟩
  · obtain ⟨ending, sayings, told, saw⟩ := filed.told launch member
    -- What was told is unique, so that it is what this trace tells.
    exact ⟨ending, saw.unique ⟨trace, written, rfl⟩ ▸ told⟩
  · -- A run that is cut before the end of its group abandons nothing in so many words.
    obtain ⟨⟨_, _, _, unabandoned⟩, -⟩ := (Flow.yields_of_error halted).mp waits
    have dropped : w' = w₁.dropGroup group := by
      have halts := (Flow.startServices_halts own halted).of_run ran
      cases result with
      | ok result => exact (halts.1 result rfl).elim
      | error halt => exact halts.2 halt rfl
    subst dropped
    exact (unabandoned.unseen (dropGroup_over group w₁).abandons).unique ⟨trace, written, rfl⟩
  -- The wait was over, and what it cleared is read off the ledger.
  · obtain ⟨⟨done, w₀, names, ledger, booked, rfl⟩, settled⟩ := (Flow.yields_of_ok waited).mp waits
    have quiet := Flow.yields_end.mp (Flow.startServices_over own waited settled)
    rw [ran] at quiet
    exact ⟨quiet, names ▸ ledger.cleared booked⟩

/-- Seven services of which one starts in time, one is refused and one panics; the other four go on
when their deadline has passed: one of them ends well, one is refused, one panics, and one never
ends. -/
def outliving : List Service :=
  [⟨"store", [], []⟩, ⟨"slow", [.sleep 15], []⟩, ⟨"feed", [.sleep 15, .fail "refused"], []⟩,
    ⟨"cache", [.sleep 15, .panic (.text "out of memory")], []⟩, ⟨"api", [.hang], []⟩,
      ⟨"mail", [.fail "no host"], []⟩,
    ⟨"log", [.panic (.text "no disk")], []⟩]

/-- Where the wait for the run with these services ends. -/
def outlivingWait : World :=
  ((Flow.startAndWait prompt.settings 0 0 (placed outliving)).run promptWorld).2

/-- Where the call with these services ends. -/
def outlivingEnd : World :=
  ((Flow.startServices prompt 0 (placed outliving)).run promptWorld).2

/-- The run of those that outlive it ends with the timeout of the slow one. -/
theorem outliving_ends : (Flow.startServices prompt 0 (placed outliving)).run promptWorld =
    (.ok (some (.cancelled (.startTimeout "slow" (.ofMillis 10)))), outlivingEnd) :=
  Flow.run_of_result (by decide +kernel)

/-- Each fate is met in this run: of the four services that had not started in time only one is
abandoned. -/
theorem outliving_cleared : outlivingEnd.trace.abandonings = ["api"] ∧
    outlivingEnd.trace.resolutions.map (·.2) =
      [.started, .timedOut, .timedOut, .timedOut, .timedOut, .failed, .failed] ∧
    Over outlivingWait outlivingEnd ∧ ∃ waited : Trace, outlivingWait.trace =
      promptWorld.trace ++ waited ∧
      outlivingWait.Cleared prompt.settings.startupTimeout (promptWorld.tasks.length + 1)
        (placed outliving) waited := by
  have waited : (Flow.startAndWait prompt.settings 0 0 (placed outliving)).run promptWorld =
      (.ok (some (.cancelled (.startTimeout "slow" (.ofMillis 10)))), outlivingWait) :=
    Flow.run_of_result (by decide +kernel)
  obtain ⟨_, _, _, _, clears⟩ :=
    startServices_clears_stragglers prompt_prepared rfl outliving outliving_ends
  exact ⟨by decide +kernel, by decide +kernel, clears _ _ waited⟩

end Warden.Supervision
