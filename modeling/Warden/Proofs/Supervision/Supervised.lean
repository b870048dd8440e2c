import Warden.Proofs.Supervision.Race

/-!
What holds of a world from the moment the watcher of a run is spawned until its group is joined.
-/

namespace Warden.Supervision

namespace World

/-- Every start that goes on is tracked by the group, so that it can be abandoned with it. -/
structure Tracked (group : GroupId) (w : World) : Prop where
  listed : ∃ g, w.groups[group]? = some g
  member : ∀ (id : TaskId) (task : Task) (service : Placed), w.task? id = some task →
    task.ending = none →
    task.duty = .start service → task.aborted = false → id ∈ (w.detached group).map (·.2)

/-- A run is supervised by its group: the watcher is all that is waited for, and the group has not
been the first to call for a cancellation. -/
structure Supervised (group : GroupId) (run : RunId) (watcher : TaskId) (w : World) : Prop where
  sound : w.Sound
  watch : w.Watch run watcher
  listed : ∃ detached, w.groups[group]? = some ⟨run, [watcher], detached⟩
  caller : ∀ call, w.trace.firstCall run = some call → call.caller ≠ .group

variable {group : GroupId} {run : RunId} {watcher : TaskId} {w w' : World}

/-- The first call of a run that has none before is one of the later events. -/
theorem firstCall_append_cases {before later : Trace} {call : Call}
    (first : Trace.firstCall run (before ++ later) = some call) :
    before.firstCall run = some call ∨
      ⟨call.time, .cancelCall call.caller run call.cause⟩ ∈ later := by
  rw [firstCall_append, Option.or_eq_some_iff] at first
  exact first.imp_right fun found => mem_of_firstCall found.2

/-- What a wait brings about leaves the group with all of its starts. -/
theorem Tracked.passes (tracked : w.Tracked group) (passes : Passes w w') : w'.Tracked group where
  listed := by
    rw [passes.groups]
    exact tracked.listed
  member := by
    intro id task' service found' live' duty unaborted
    obtain ⟨task, found, live, continues⟩ := passes.live found' live'
    have member :=
      tracked.member id task service found live (continues.duty ▸ duty)
        (continues.aborted ▸ unaborted)
    simpa only [detached, passes.groups] using member

/-- While the supervising flow waits, no group calls for a cancellation. -/
theorem Passes.caller (passes : Passes w w')
    (caller : ∀ call, w.trace.firstCall run = some call → call.caller ≠ .group) :
    ∀ call, w'.trace.firstCall run = some call → call.caller ≠ .group := by
  intro call first
  obtain ⟨later, same, written⟩ := passes.trace
  rw [same] at first
  -- What is written in a wait is no call of a group, so that the first call is not that of one
  -- either.
  rcases firstCall_append_cases first with before | member
  · exact caller call before
  · rcases (written _ member).2.2 with quiet | ⟨_, up, _⟩
    · rintro group
      rw [group] at quiet
      cases quiet
    · cases up

/-- A run stays supervised while the watcher stands where it has to stand. -/
theorem Supervised.passes (supervised : w.Supervised group run watcher) (passes : Passes w w')
    (watch : w'.Watch run watcher) : w'.Supervised group run watcher where
  sound := passes.sound supervised.sound
  watch := watch
  listed := by
    rw [passes.groups]
    exact supervised.listed
  caller := passes.caller supervised.caller

end World

namespace Flow

open World

/-- Whatever the supervising flow does quietly leaves the starts tracked. -/
theorem steady_tracked (group : GroupId) :
    Steady fun w w' => w.Tracked group → w'.Tracked group where
  refl := fun _ tracked => tracked
  trans := fun first second tracked => second (first tracked)
  beats := fun beats tracked => tracked.passes beats.passes
  does := fun does tracked => tracked.passes (steady_passes.does does)

/-- Whatever the supervising flow does quietly leaves the run supervised. -/
theorem steady_supervised (group : GroupId) (run : RunId) (watcher : TaskId) :
    Steady fun w w' => w.Supervised group run watcher → w'.Supervised group run watcher where
  refl := fun _ supervised => supervised
  trans := fun first second supervised => second (first supervised)
  beats := fun beats supervised =>
    supervised.passes beats.passes (supervised.watch.beats supervised.sound beats)
  does := fun does supervised =>
    supervised.passes (steady_passes.does does)
      (supervised.watch.acts supervised.sound does.acts (by simp))

end Flow

namespace World

variable {group : GroupId} {run : RunId} {watcher : TaskId} {w w' : World}

/-- The world in which a start has been spawned and its launch is noted. -/
def launching (group : GroupId) (run : RunId) (service : Placed) (w : World) : World :=
  (w.spawnDetached group service.name (startTask run service)).2.emit (.launched service)

/-- A launch adds one task, that of the start. -/
theorem task?_launching (service : Placed) (id : TaskId) :
    (w.launching group run service).task? id =
    if id = w.tasks.length then some (startTask run service) else w.task? id :=
  task?_spawn (startTask run service) w id

/-- A start that has just been launched has not ended. -/
theorem unended_launching (service : Placed) :
    (w.launching group run service).isEnded w.tasks.length = false := by
  rw [isEnded, task?_launching, if_pos rfl]
  rfl

/-- A launch is written in the trace. -/
theorem trace_launching (service : Placed) :
    (w.launching group run service).trace = w.trace ++ [⟨w.now, .launched service⟩] := rfl

/-- Of the starts that go on after a launch only the launched one is new. -/
theorem starting_launching {service other : Placed}
    (starting : (w.launching group run service).Starting other) :
    other = service ∨ w.Starting other := by
  obtain ⟨id, task, found, live, duty, unaborted⟩ := starting
  -- The start is the one that was spawned, or it is as old as its place among the tasks.
  rw [task?_launching] at found
  split at found
  · cases found
    cases duty
    exact .inl rfl
  · exact .inr ⟨id, task, found, live, duty, unaborted⟩

/-- It spawns a task of its own kind, so that the world stays sound. -/
theorem Sound.launching (sound : w.Sound) (service : Placed) :
    (w.launching group run service).Sound := by
  refine Sound.congr (w := w) (fun _ => rfl) (fun run => ?_) rfl (fun id => ?_) sound
  · exact firstCall_quiet run _ _ rfl
  · exact isEnded_spawn rfl w id

/-- A launch is growth: nothing is lost, and it is no call. -/
theorem launching_grows (service : Placed) : Grows w (w.launching group run service) where
  now := Nat.le_refl _
  horizon := rfl
  runs := Nat.le_refl _
  exited := id
  trace :=
    ⟨[⟨w.now, .launched service⟩], rfl,
      by simp [launching, emit, spawnDetached, spawn, changeGroup]⟩
  sound := fun sound => sound.launching service
  counted := fun _ => Counted.congr (fun run => firstCall_quiet run _ _ rfl) fun run =>
    cancellations_append_quiet run _ fun _ member => List.mem_singleton.mp member ▸ rfl

/-- A launched start is tracked with those before it. -/
theorem Tracked.launching (tracked : w.Tracked group) (service : Placed) :
    (w.launching group run service).Tracked group := by
  obtain ⟨g, listed⟩ := tracked.listed
  have listed' : (w.launching group run service).groups[group]? =
      some { g with detached := g.detached ++ [(service.name, w.tasks.length)] } := by
    simp [World.launching, emit, spawnDetached, changeGroup, spawn, List.getElem?_modify_eq, listed]
  refine ⟨⟨_, listed'⟩, fun id task other found live duty unaborted => ?_⟩
  -- The new start is the last one on the list, and the others have been there before.
  rw [World.detached, listed']
  simp only [Option.map_some, Option.getD_some, List.map_append, List.mem_append,
    List.map_cons, List.map_nil, List.mem_singleton]
  rw [task?_launching] at found
  split at found
  · rename_i same
    exact .inr same
  · have member := tracked.member id task other found live duty unaborted
    rw [World.detached, listed] at member
    exact .inl (by simpa using member)

/-- A launch leaves the run supervised. -/
theorem Supervised.launching (supervised : w.Supervised group run watcher) (service : Placed) :
    (w.launching group run service).Supervised group run watcher := by
  obtain ⟨detached, listed⟩ := supervised.listed
  have listed' : (w.launching group run service).groups[group]? =
      some ⟨run, [watcher], detached ++ [(service.name, w.tasks.length)]⟩ := by
    simp [World.launching, emit, spawnDetached, changeGroup, spawn, List.getElem?_modify_eq, listed]
  -- The start is added behind the watcher, which keeps its place, and a launch is no call.
  refine ⟨supervised.sound.launching service,
    supervised.watch.congr ?_ (List.mem_append_left _) rfl rfl,
    ⟨_, listed'⟩, fun call first => ?_⟩
  -- The watcher was there before the launch, so that it is not the start.
  · obtain ⟨_, task, found, _⟩ := supervised.watch
    have within : watcher < w.tasks.length := (List.getElem?_eq_some_iff.mp found).1
    rw [task?_launching, if_neg (Nat.ne_of_lt within)]
  -- A launch is no call, so that the first one is as before.
  · rw [trace_launching, firstCall_quiet run _ _ rfl] at first
    exact supervised.caller call first

/-- What is kept in the books of the supervisor alone leaves the run supervised. -/
theorem Supervised.record (supervised : w.Supervised group run watcher) (started : List Placed)
    {later : Trace} (uncalled : ∀ stamped ∈ later, stamped.event.isCall = false) :
    ({ w with started, trace := w.trace ++ later } : World).Supervised group run watcher := by
  have calls : ∀ run, Trace.firstCall run (w.trace ++ later) = w.trace.firstCall run :=
    fun run => firstCall_append_quiet run w.trace uncalled
  refine ⟨Sound.congr (w := w) (fun _ => rfl) calls rfl (fun _ => rfl) supervised.sound, ?_,
    supervised.listed,
    fun call first => supervised.caller call ((calls run).symm.trans first)⟩
  exact supervised.watch.congr rfl (fun due => due) rfl rfl

end World

end Warden.Supervision
