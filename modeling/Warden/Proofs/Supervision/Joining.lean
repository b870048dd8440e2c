import Warden.Proofs.Supervision.Supervised

/-!
The end of a supervised run: its watcher is the only task that is joined, and it ends with the first
cause.
-/

namespace Warden.Supervision

namespace World

variable {group : GroupId} {run : RunId} {watcher id : TaskId} {w w' : World}

/-- The group of a supervised run waits for its watcher alone. -/
theorem Supervised.awaited (supervised : w.Supervised group run watcher) :
    w.awaited group = [watcher] := by
  obtain ⟨detached, listed⟩ := supervised.listed
  simp [World.awaited, listed]

/-- The only task that a supervised group waits for is its watcher. -/
theorem Supervised.nextEnded (supervised : w.Supervised group run watcher) :
    w.nextEnded group = if w.isEnded watcher then some watcher else none := by
  -- In sound books the list of what has finished holds exactly the tasks that have ended.
  have member : watcher ∈ w.finished ↔ w.isEnded watcher = true := supervised.sound.finished watcher
  unfold World.nextEnded
  rw [supervised.awaited]
  split
  -- It is on the list once it has ended, and the search finds nothing else there.
  · rename_i ended
    have found : w.finished.find? (fun id => decide (id ∈ [watcher])) |>.isSome :=
      List.find?_isSome.mpr ⟨watcher, member.mpr ended, by simp⟩
    obtain ⟨id, found⟩ := Option.isSome_iff_exists.mp found
    have same : id = watcher := by simpa using List.find?_some found
    rw [found, same]
  · rename_i unended
    refine List.find?_eq_none.mpr fun id listed => ?_
    have different : id ≠ watcher := fun same => unended (member.mp (same ▸ listed))
    simpa using different

/-- A watcher that has ended has done so with the cause of its run. -/
theorem Watch.errorOf (watch : w.Watch run watcher) (ended : w.isEnded watcher = true) :
    ∃ cause, w.errorOf watcher = some (.cancelled cause) ∧ w.cause? run = some cause := by
  obtain ⟨_, task, found, _, _, _, ⟨live, _⟩ | ⟨cause, ending, known⟩⟩ := watch
  · simp [isEnded, found, live] at ended
  · exact ⟨cause, by simp [World.errorOf, found, ending], known⟩

/-- While a supervised run is waited for, time stands still from its first cancellation on. -/
theorem Supervised.now_le {goal : World → Bool} {alarm : Nat}
    (supervised : w.Supervised group run watcher)
    (meets : ∀ w' : World, w'.Supervised group run watcher → w'.isEnded watcher = true →
      goal w' = true)
    (beats : Beats goal alarm w w') (going : w'.exited = none) {call : Call}
    (first : w'.trace.firstCall run = some call) : w'.now ≤ max call.time w.now := by
  -- By induction on the beats: the clock moves only while the run is not cancelled, since its
  -- watcher ends at once.
  induction beats with
  | refl => exact Nat.le_max_right _ _
  | @tail w₁ w₂ before beat ih =>
    have going₁ : w₁.exited = none := by
      cases gone : w₁.exited with
      | none => rfl
      | some code =>
        have still := beat.passes.exited (by simp [gone])
        simp [going] at still
    have supervised₁ : w₁.Supervised group run watcher :=
      (Flow.steady_supervised _ _ _).beats before supervised
    obtain ⟨later, written, allowed⟩ := beat.passes.trace
    -- A beat that leaves the clock alone cancels the run now or not at all.
    have still : w₂.now = w₁.now → w₂.now ≤ max call.time w.now := by
      intro now
      rw [written] at first
      -- It was cancelled before: then the clock has not moved beyond the call since.
      rcases firstCall_append_cases first with earlier | member
      · exact now ▸ ih going₁ earlier
      -- It is cancelled now, hence at the very time at which the beat ends.
      · have times := allowed _ member
        dsimp only at times
        omega
    cases beat with
    | turn id rest due early => exact still (now_poll id _)
    | arrive => exact still (now_admitRaised _)
    | resume => exact still (by simp [wakeYielded])
    -- The clock would move only if the goal were unmet, but the watcher of a cancelled run has
    -- ended by then.
    | tick idle calm unmet early =>
      have same : (w₁.advance alarm).trace = w₁.trace := by simp [advance]
      rw [same] at first
      have cancelled : w₁.isCancelled run = true := by
        rw [supervised₁.sound.isCancelled_iff, first]
        rfl
      have met := meets w₁ supervised₁ (supervised₁.watch.ended_of_idle going₁ idle cancelled)
      simp [unmet] at met

/-- Whoever abandons the starts of a group leaves none that goes on. -/
theorem Tracked.abandoned {service : Placed} (tracked : w.Tracked group) :
    ¬ (w.abandonDetached group).Starting service := by
  -- A start that went on would be tracked, and then it would have been asked to end.
  rintro ⟨id, task, found, live, duty, unaborted⟩
  obtain ⟨-, told⟩ := Flow.abandonDetached_told group w
  rw [told] at found
  obtain ⟨found', unlisted⟩ := task?_of_unaborted found live unaborted
  have known : w.task? id = some task := found'
  exact unlisted (tracked.member id task service known live duty unaborted)

/-- Whoever drops a group leaves none of its starts that goes on. -/
theorem Tracked.dropped {service : Placed} (tracked : w.Tracked group) :
    ¬ (w.dropGroup group).Starting service := by
  rintro ⟨id, task, found, live, duty, unaborted⟩
  -- Each start that goes on is tracked by the group, and dropping it asks all of those to end.
  unfold dropGroup at found
  split at found
  -- Without its group there would be no such start.
  · rename_i missing
    obtain ⟨g, listed⟩ := tracked.listed
    simp [missing] at listed
  · rename_i g listed
    obtain ⟨found', unlisted⟩ := task?_of_unaborted found live unaborted
    have known : w.task? id = some task := by simpa [task?, changeGroup] using found'
    have member := tracked.member id task service known live duty unaborted
    simp only [detached, listed, Option.map_some, Option.getD_some] at member
    exact unlisted (List.mem_append_right g.awaited member)

end World

namespace Flow

open World

variable {group : GroupId} {run : RunId} {watcher : TaskId} {w : World}

/-- How a supervised run ends: with the cause of the first call, and without delay. -/
structure Joined (run : RunId) (w : World) (result : Option RunError) (w' : World) : Prop where
  going : w'.exited = none
  started : w'.started = w.started
  called : ∃ call, w'.trace.firstCall run = some call ∧ call.caller ≠ .group ∧
    result = some (.cancelled call.cause)
  soon : ∀ call, w'.trace.firstCall run = some call → w'.now ≤ max call.time w.now

/-- Why a supervised run does not end: the process is gone, or nobody has cancelled it before the
horizon. -/
def Lasts (run : RunId) (w : World) (halt : Halt) (w' : World) : Prop :=
  (∃ code, halt = .exited code ∧ w'.exited = some code) ∨ halt = .stuck ∧ w'.horizon ≤ w'.now ∧
    ∀ call, w'.trace.firstCall run = some call → w'.now ≤ max call.time w.now

/-- The group waits until its watcher has ended. -/
theorem await_watcher_yields (supervised : w.Supervised group run watcher) :
    (await fun w => (w.nextEnded group).isSome).Yields w
      (fun _ w' => Passes w w' ∧ w'.Supervised group run watcher ∧ w'.exited = none ∧
        w'.isEnded watcher = true ∧
        ∀ call, w'.trace.firstCall run = some call → w'.now ≤ max call.time w.now)
      (Lasts run w) := by
  have meets : ∀ w' : World, w'.Supervised group run watcher → w'.isEnded watcher = true →
      (w'.nextEnded group).isSome = true := by
    intro w' supervised' ended
    rw [supervised'.nextEnded, if_pos ended]
    rfl
  simp only [await, yields_bind]
  -- The wait ends with the watcher, soon after the run is called off, or with the time that there
  -- is.
  refine pause_yields (fun w' beats going unmet => ?_) fun w' code beats gone => ?_
  · have supervised' := (steady_supervised group run watcher).beats beats supervised
    have soon : ∀ call, w'.trace.firstCall run = some call → w'.now ≤ max call.time w.now :=
      fun call first => supervised.now_le meets beats going first
    split
    -- The goal is that the watcher has ended, as nobody else is waited for.
    · rename_i met
      rw [supervised'.nextEnded] at met
      split at met
      · exact ⟨beats.passes, supervised', going, ‹_›, soon⟩
      · cases met
    · rename_i open_
      -- The wait was called off, so that the time that it was given is over.
      have reached := unmet (by simpa using open_)
      refine .inr ⟨rfl, ?_, soon⟩
      rw [beats.passes.horizon]
      exact reached
  · exact .inl ⟨code, rfl, gone⟩

/-- Once the watcher is taken in and the starts are abandoned, the run has ended as it should. -/
theorem supervised_joined {w₁ : World} (supervised : w₁.Supervised group run watcher)
    (passes : Passes w w₁) (going : w₁.exited = none) (cause : Cause)
    (known : w₁.cause? run = some cause)
    (soon : ∀ call, w₁.trace.firstCall run = some call → w₁.now ≤ max call.time w.now) :
    Joined run w (some (.cancelled cause))
      (((w₁.release group watcher).cancel .group run
        (.taskFailed (RunError.cancelled cause).text)).2.abandonDetached group) := by
  rw [supervised.sound.cause?_eq] at known
  -- What the group does now comes after the first call, so that neither the cause nor the time can
  -- change.
  obtain ⟨call, first, rfl⟩ := Option.map_eq_some_iff.mp known
  set w₂ := ((w₁.release group watcher).cancel .group run
    (.taskFailed (RunError.cancelled call.cause).text)).2 with cancelled
  have acts : Acts (fun _ => True) .main (w₁.release group watcher) w₂ :=
    cancel_acts trivial trivial trivial
  have follows : Follows w₁ (w₂.abandonDetached group) :=
    ((changeGroup_follows group _).trans (cancel_follows _ _ _ _)).trans
      (abandonDetached_follows group w₂)
  obtain ⟨tasks, ready, groups, trace, same⟩ := abandonDetached_eq group w₂
  refine ⟨?_, ?_, ⟨call, follows.grows.firstCall first, supervised.caller call first, rfl⟩,
    fun call' first' => ?_⟩
  -- Nothing that is done with the group ends the process.
  · rw [same]
    exact (exited_cancel _ _ _ _).trans going
  · rw [same]
    exact acts.started.trans passes.started
  -- The first call is the one that the watcher was woken by; what follows it takes no time.
  · cases (follows.grows.firstCall first).symm.trans first'
    have now : (w₂.abandonDetached group).now = w₁.now := by
      rw [same]
      exact acts.now
    rw [now]
    exact soon call first

/-- A supervised run ends with the cause of the first call for its cancellation. -/
theorem waitGroup_yields (supervised : w.Supervised group run watcher) :
    (waitGroup group).Yields w (Joined run w) (Lasts run w) := by
  obtain ⟨detached, listed⟩ := supervised.listed
  simp only [waitGroup, yields_bind, yields_look, listed, List.length_singleton, join]
  -- The watcher is the only task that is waited for, and it ends with the cause of its run.
  refine (await_watcher_yields supervised).mono ?_ fun _ _ lasts => lasts
  rintro _ w₁ ⟨passes, supervised₁, going, ended, soon⟩
  obtain ⟨cause, error, known⟩ := supervised₁.watch.errorOf ended
  rw [supervised₁.nextEnded, if_pos ended]
  have error' : (w₁.release group watcher).errorOf watcher = some (.cancelled cause) := error
  simp only [takeIn, yields_bind, yields_change, yields_look, error', yields_answer, yields_pure]
  exact supervised_joined supervised₁ passes going cause known soon

/-- However a group is waited for, its starts stay tracked. -/
theorem join_tracked (run : RunId) (count : Nat) (first : Option RunError) :
    (join group run count first).Within fun w w' => w.Tracked group → w'.Tracked group := by
  -- A task that is released, a call and a word on an error each leave what the group tracks.
  have released : ∀ (id : TaskId) (w : World), w.Tracked group →
    (w.release group id).Tracked group := by
    rintro id w ⟨⟨g, listed⟩, member⟩
    have listed' : (w.release group id).groups[group]? =
      some { g with awaited := g.awaited.erase id } := by
      simp [release, changeGroup, List.getElem?_modify_eq, listed]
    -- Releasing takes a task off the other list, on which there are no starts.
    refine ⟨⟨_, listed'⟩, fun id task service found live duty unaborted => ?_⟩
    have kept := member id task service found live duty unaborted
    simp only [detached, listed, listed', Option.map_some] at kept ⊢
    exact kept
  have cancelled : ∀ (error : String) (w : World), w.Tracked group →
      (w.cancel .group run (.taskFailed error)).2.Tracked group := by
    rintro error w ⟨⟨g, listed⟩, member⟩
    have acts : Acts (fun _ => True) .main w (w.cancel .group run (.taskFailed error)).2 :=
      cancel_acts trivial trivial trivial
    refine ⟨⟨g, acts.groups ▸ listed⟩, fun id task service found live duty unaborted => ?_⟩
    have kept :=
      member id task service ((acts.others id (by simp)).symm.trans found) live duty unaborted
    simpa only [detached, acts.groups] using kept
  have warned : ∀ (error : RunError) (w : World), w.Tracked group →
    (w.notice .main (.furtherError error)).Tracked group :=
    fun error w => (steady_tracked group).does (.tells _ w)
  exact join_within (steady_tracked group) released warned cancelled count first

/-- Once a group has been waited for, none of its starts goes on. -/
theorem waitGroup_settles (tracked : w.Tracked group) :
    (waitGroup group).Yields w (fun _ w' => ∀ service, ¬ w'.Starting service) fun _ w' =>
      w'.Tracked group := by
  obtain ⟨g, listed⟩ := tracked.listed
  simp only [waitGroup, yields_bind, yields_look, listed]
  refine (join_tracked g.run g.awaited.length none w).mono (fun _ w₁ keeps => ?_) fun _ _ keeps =>
    keeps tracked
  exact fun service => (keeps tracked).abandoned

end Flow

end Warden.Supervision
