import Warden.Proofs.Supervision.Wait

/-!
The watcher of a run: it ends once the run is cancelled, with the cause of the first call, and
before time passes.
-/

namespace Warden.Supervision.World

/-- A run is cancelled exactly if somebody has called for it. -/
theorem Sound.isCancelled_iff {w : World} (sound : w.Sound) (run : RunId) :
    w.isCancelled run = (w.trace.firstCall run).isSome := by
  unfold isCancelled
  cases found : w.runs[run]? with
  | none => simp [sound.unopened run found]
  | some r => simp [sound.recorded run r found, CancelState.after]

/-- The cause of a run is the cause of the first call. -/
theorem Sound.cause?_eq {w : World} (sound : w.Sound) (run : RunId) :
    w.cause? run = (w.trace.firstCall run).map (·.cause) := by
  unfold cause?
  cases found : w.runs[run]? with
  | none => simp [sound.unopened run found]
  | some r => simp [sound.recorded run r found, CancelState.after]

/-- A first call stays the first. -/
theorem firstCall_of_prefix {run : RunId} {trace later : Trace} {call : Call}
    (first : trace.firstCall run = some call) :
    Trace.firstCall run (trace ++ later) = some call := by
  rw [firstCall_append, first, Option.some_or]

/-- The first call of a run is one of the events. -/
theorem mem_of_firstCall {run : RunId} {trace : Trace} {call : Call}
    (first : trace.firstCall run = some call) :
    ⟨call.time, .cancelCall call.caller run call.cause⟩ ∈ trace := by
  obtain ⟨⟨time, event⟩, member, called⟩ := List.exists_of_findSome?_eq_some first
  -- Only a call for the run is read as one.
  cases event with
  | cancelCall caller other cause =>
    simp only [Stamped.call?] at called
    split at called
    · rename_i same
      cases called
      exact same ▸ member
    · cases called
  | _ => cases called

/-- Where the watcher of a run stands: its first turn is due, or it heeds the run, or it has ended
with the cause. -/
structure Watch (run : RunId) (id : TaskId) (w : World) : Prop where
  opened : run < w.runs.length
  stands : ∃ task, w.task? id = some task ∧ task.duty = .watcher ∧ task.actor.run = run ∧
    task.aborted = false ∧
    (task.ending = none ∧
        (w.exited.isSome ∨ task.wait = .fresh ∧ id ∈ w.ready ∨ task.wait ≠ .fresh ∧
          w.Heeds run id) ∨
      ∃ cause, task.ending = some (.failed (.cancelled cause)) ∧ w.cause? run = some cause)

variable {run : RunId} {id : TaskId} {w w' : World}

/-- What others do keeps the watcher where it stands. -/
theorem Watch.acts {may : Event → Prop} {party : Party} (watch : w.Watch run id) (sound : w.Sound)
    (acts : Acts may party w w') (other : party ≠ .task id) : w'.Watch run id := by
  -- Others may trip the switch, and then they have woken the watcher; the cause that it ended with
  -- stays the first one.
  obtain ⟨opened, task, found, duty, own, unaborted, stands⟩ := watch
  refine ⟨acts.runs ▸ opened, task, (acts.others id other).trans found, duty, own, unaborted, ?_⟩
  -- The four ways in which a watcher stands: the process is gone, its first turn is due, it waits
  -- for the run to be cancelled, or it has ended with the cause.
  rcases stands with ⟨live, gone | ⟨fresh, due⟩ | ⟨later, heeds⟩⟩ | ⟨cause, ended, known⟩
  · exact .inl ⟨live, .inl (acts.exited gone)⟩
  · exact .inl ⟨live, .inr (.inl ⟨fresh, acts.ready due⟩)⟩
  · have unended : w.isLive id = true := by simp [isLive, found, live]
    exact .inl ⟨live, .inr (.inr ⟨later, acts.heeds run id other unended heeds⟩)⟩
  -- The first call for a run remains the first, however much is written after it.
  · obtain ⟨events, same, _⟩ := acts.trace
    refine .inr ⟨cause, ended, ?_⟩
    rw [sound.cause?_eq] at known
    obtain ⟨call, first, rfl⟩ := Option.map_eq_some_iff.mp known
    rw [(acts.sound sound).cause?_eq, same, firstCall_of_prefix first, Option.map_some]

/-- A change of what the watcher does not look at keeps it where it stands. -/
theorem Watch.congr (watch : w.Watch run id) (same : w'.task? id = w.task? id)
    (ready : id ∈ w.ready → id ∈ w'.ready) (runs : w'.runs = w.runs)
    (exited : w'.exited = w.exited) : w'.Watch run id := by
  obtain ⟨opened, task, found, duty, own, unaborted, stands⟩ := watch
  refine ⟨runs ▸ opened, task, same.trans found, duty, own, unaborted, ?_⟩
  -- One case for each place where the watcher can stand.
  rcases stands with ⟨live, gone | ⟨fresh, due⟩ | ⟨later, heeds⟩⟩ | ⟨cause, ended, known⟩
  · exact .inl ⟨live, .inl (exited ▸ gone)⟩
  · exact .inl ⟨live, .inr (.inl ⟨fresh, ready due⟩)⟩
  · refine .inl ⟨live, .inr (.inr ⟨later, ?_⟩)⟩
    simp only [Heeds, isCancelled, waiters, runs] at heeds ⊢
    exact heeds.imp (And.imp_right ready) fun waits => waits
  · exact .inr ⟨cause, ended, by simpa [cause?, runs] using known⟩

/-- In its own turn the watcher ends with the cause if the run is cancelled, and otherwise waits for
that. -/
theorem Watch.poll {task : Task} (sound : w.Sound) (found : w.task? id = some task)
    (duty : task.duty = .watcher) (unaborted : task.aborted = false) (live : task.ending = none)
    (opened : task.actor.run < w.runs.length)
    (heeds : w.exited.isSome ∨ task.wait = .fresh ∨ w.isCancelled task.actor.run = true ∨
      id ∈ w.waiters task.actor.run) :
    (w.poll id).Watch task.actor.run id := by
  -- After the exit the turn is empty; before it, the watcher looks at the switch of its run.
  by_cases gone : w.exited.isSome
  · have same : w.poll id = w := poll_idle fun _ _ => .inr gone
    rw [same]
    exact ⟨opened, task, found, duty, rfl, unaborted, .inl ⟨live, .inl gone⟩⟩
  · have turn : w.poll id = w.pollWatcher id task := by
      simp [World.poll, found, live, gone, unaborted, duty]
    rw [turn]
    unfold pollWatcher
    split
    · -- The switch is never tripped without a cause.
      rename_i tripped
      rw [sound.isCancelled_iff] at tripped
      obtain ⟨call, first⟩ := Option.isSome_iff_exists.mp tripped
      have known : w.cause? task.actor.run = some call.cause := by
        rw [sound.cause?_eq, first, Option.map_some]
      rw [known]
      refine ⟨opened, { task with ending := some (.failed (.cancelled call.cause)) }, ?_,
        duty, rfl, unaborted, .inr ⟨call.cause, rfl, known⟩⟩
      simp only [task?] at found
      simp [task?, finish, changeTask, notice, emit, List.getElem?_modify_eq, found]
    · rename_i uncancelled
      simp only [Bool.not_eq_true] at uncancelled
      split
      -- Its first turn: it joins those who wait for the run, which is not cancelled yet.
      · obtain ⟨r, opened'⟩ : ∃ r, w.runs[task.actor.run]? = some r :=
          ⟨_, List.getElem?_eq_getElem opened⟩
        refine ⟨by simpa [enlist, changeRun, changeTask] using opened,
          { task with wait := .cancellation }, ?_, duty, rfl, unaborted,
          .inl ⟨live, .inr (.inr ⟨by simp, .inr ⟨?_, ?_⟩⟩)⟩⟩
        · simp only [task?] at found
          simp [task?, changeTask, enlist, changeRun, List.getElem?_modify_eq, found]
        · simp only [isCancelled, opened', Option.any_some] at uncancelled
          simp [isCancelled, changeTask, enlist, changeRun, List.getElem?_modify_eq, opened',
            uncancelled]
        · simp [waiters, changeTask, enlist, changeRun, List.getElem?_modify_eq, opened']
      -- Woken for nothing: it waits for the run as it did before.
      · rename_i later
        refine ⟨opened, task, found, duty, rfl, unaborted,
          .inl ⟨live, .inr (.inr ⟨later, .inr ⟨uncancelled, ?_⟩⟩)⟩⟩
        rcases heeds with gone' | fresh | tripped | waits
        · exact absurd gone' gone
        · exact absurd fresh later
        · simp [tripped] at uncancelled
        · exact waits

/-- The turn of the watcher keeps the watch. -/
theorem Watch.turn (watch : w.Watch run id) (sound : w.Sound) (rest : List TaskId) :
    (({ w with ready := rest }).poll id).Watch run id := by
  obtain ⟨opened, task, found, duty, own, unaborted, stands⟩ := watch
  subst own
  have kept : ({ w with ready := rest } : World).Sound := sound.same rfl rfl rfl rfl
  have found₁ : ({ w with ready := rest } : World).task? id = some task := found
  -- A watcher that has ended knows the cause; any other one looks whether its run is cancelled.
  rcases stands with ⟨live, place⟩ | ⟨cause, ended, known⟩
  · refine Watch.poll kept found₁ duty unaborted live opened ?_
    exact place.imp (fun gone => gone) (Or.imp (·.1) fun heeds => heeds.2.imp (·.1) (·.2))
  · have same : ({ w with ready := rest } : World).poll id = { w with ready := rest } :=
      poll_idle (by simp [found₁, ended])
    rw [same]
    exact ⟨opened, task, found₁, duty, rfl, unaborted, .inr ⟨cause, ended, known⟩⟩

/-- While the supervising flow waits, the watcher stands where it has to stand. -/
theorem Watch.beat {goal : World → Bool} {alarm : Nat} (watch : w.Watch run id) (sound : w.Sound)
    (beat : Beat goal alarm w w') : w'.Watch run id := by
  -- Waking is an act of nobody, so that it keeps the watch.
  have woken : ∀ (w : World) (ids : List TaskId), w.Sound → w.Watch run id →
    (w.wakeAll ids).Watch run id := by
    intro w ids sound watch
    have acts : Acts (fun _ => False) .main w (w.wakeAll ids) := wakeAll_acts ids
    exact watch.acts sound acts (by simp)
  cases beat with
  | turn first rest due early =>
    by_cases own : first = id
    · subst own
      exact watch.turn sound rest
    -- The turn of another task takes none of the watcher's own.
    · have popped : ({ w with ready := rest } : World).Watch run id := by
        refine watch.congr rfl (fun member => ?_) rfl rfl
        rw [due] at member
        exact (List.mem_cons.mp member).resolve_left fun same => own same.symm
      have kept : ({ w with ready := rest } : World).Sound := sound.same rfl rfl rfl rfl
      rcases poll_acts first { w with ready := rest } with same | ⟨_, _, _, _, acts⟩
      · rw [same]
        exact popped
      · exact popped.acts kept acts fun same => own (by simpa using same)
  | arrive =>
    unfold admitRaised
    split
    · have moved :
        ({ w with arrived := w.arrived ++ w.raised, raised := [] } : World).Watch run id :=
        watch.congr rfl (fun due => due) rfl rfl
      have kept : ({ w with arrived := w.arrived ++ w.raised, raised := [] } : World).Sound :=
        sound.same rfl rfl rfl rfl
      exact woken _ [_] kept moved
    · exact watch.congr rfl (fun due => due) rfl rfl
  | resume =>
    have moved : ({ w with yielded := [], mainYielded := false } : World).Watch run id :=
      watch.congr rfl (fun due => due) rfl rfl
    have kept : ({ w with yielded := [], mainYielded := false } : World).Sound :=
      sound.same rfl rfl rfl rfl
    exact woken _ _ kept moved
  | tick idle still unmet early =>
    -- Neither the clock nor the timers are anything to a watcher.
    have moved : ∀ (now : Nat) (timers : List Timer),
      ({ w with now, timers } : World).Watch run id :=
      fun _ _ => watch.congr rfl (fun due => due) rfl rfl
    have kept : ∀ (now : Nat) (timers : List Timer), ({ w with now, timers } : World).Sound :=
      fun _ _ => sound.same rfl rfl rfl rfl
    exact woken _ _ (kept _ _) (moved _ _)

/-- A wait keeps the watch. -/
theorem Watch.beats {goal : World → Bool} {alarm : Nat} (watch : w.Watch run id) (sound : w.Sound)
    (beats : Beats goal alarm w w') : w'.Watch run id := by
  induction beats with
  | refl => exact watch
  | tail before beat ih => exact ih.beat ((Beats.passes before).sound sound) beat

/-- Time does not pass while a cancelled run is watched by a watcher that has not ended. -/
theorem Watch.ended_of_idle (watch : w.Watch run id) (going : w.exited = none) (idle : w.ready = [])
    (cancelled : w.isCancelled run = true) : w.isEnded id = true := by
  -- Nobody has a turn left, so that the watcher is not about to take one; and it cannot wait for a
  -- run that is cancelled.
  obtain ⟨opened, task, found, duty, own, unaborted, stands⟩ := watch
  rcases stands with ⟨live, gone | ⟨fresh, due⟩ | ⟨later, ⟨_, due⟩ | ⟨uncancelled, _⟩⟩⟩ | ⟨cause,
    ended, known⟩
  · simp [going] at gone
  · simp [idle] at due
  · simp [idle] at due
  · simp [cancelled] at uncancelled
  · simp [isEnded, found, ended]

end Warden.Supervision.World
