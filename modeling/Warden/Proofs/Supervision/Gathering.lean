import Warden.Proofs.Supervision.FirstError
import Warden.Proofs.Supervision.History

/-!
The groups of a process, as tasks are gathered in them and waited for, and how a wait for a group
ends.
-/

namespace Warden.Supervision

open World

/-- What a process can do with groups and beside them: it opens groups of runs, spawns tasks of all
kinds in them, waits for them or drops them, and otherwise takes any steps that leave the groups
alone. -/
inductive Gathers : World → World → Prop
  | steps {w w' : World} (leads : Leads everybody w w') (same : w'.groups = w.groups) : Gathers w w'
  | opens (run : RunId) {w : World} (opened : run < w.runs.length) : Gathers w (w.openGroup run).2
  | spawns (group : GroupId) (task : Task) {w : World} (live : task.ending = none) :
    Gathers w (w.spawnAwaited group task).2
  | tracks (group : GroupId) (name : String) (task : Task) {w : World} (live : task.ending = none) :
    Gathers w (w.spawnDetached group name task).2
  | waits (group : GroupId) {result : Except Halt (Option RunError)} {w w' : World}
    (ran : (Flow.waitGroup group).run w = (result, w')) : Gathers w w'
  | drops (group : GroupId) (w : World) : Gathers w (w.dropGroup group)

/-- A world to which a fresh process can come in that way. -/
def Gathered : World → Prop :=
  Relation.ReflTransGen Gathers {}

namespace World

/-- Groups only lose tasks. -/
def Thins (w w' : World) : Prop :=
  ∀ (group : GroupId) (g' : Group), w'.groups[group]? = some g' →
    ∃ g, w.groups[group]? = some g ∧ g'.run = g.run ∧ g'.awaited.Sublist g.awaited

/-- A group waits for tasks that there are, each once, in a run that there is. -/
structure Fits (w : World) (g : Group) : Prop where
  once : g.awaited.Nodup
  known : ∀ id ∈ g.awaited, id < w.tasks.length
  opened : g.run < w.runs.length

/-- The books are kept, and all groups fit. -/
structure Assembled (w : World) : Prop where
  sound : w.Sound
  fits : ∀ (group : GroupId) (g : Group), w.groups[group]? = some g → w.Fits g

variable {w w' w₁ : World}

/-- Where groups stay as they are, none waits for more. -/
theorem thins_of_groups (same : w'.groups = w.groups) : Thins w w' := by
  intro group g' listed
  exact ⟨g', same ▸ listed, rfl, .refl _⟩

/-- Groups that have thinned out twice have thinned out. -/
theorem Thins.trans (first : Thins w w₁) (second : Thins w₁ w') : Thins w w' := by
  intro group g'' listed
  obtain ⟨g', listed', run', thinner'⟩ := second group g'' listed
  obtain ⟨g, listed'', run, thinner⟩ := first group g' listed'
  exact ⟨g, listed'', run'.trans run, thinner'.trans thinner⟩

/-- What is listed after one group has changed. -/
theorem listed_changeGroup {group other : GroupId} {change : Group → Group} {g' : Group}
    (listed : (w.changeGroup group change).groups[other]? = some g') :
    ∃ g, w.groups[other]? = some g ∧ (g' = g ∨ group = other ∧ g' = change g) := by
  simp only [changeGroup, List.getElem?_modify, Option.map_eq_map, Option.map_eq_some_iff] at listed
  obtain ⟨g, listed, same⟩ := listed
  refine ⟨g, listed, ?_⟩
  split at same
  · exact .inr ⟨‹_›, same.symm⟩
  · exact .inl same.symm

/-- A change of one group that only takes tasks from it. -/
theorem changeGroup_thins (group : GroupId) (change : Group → Group)
    (thins : ∀ g, (change g).run = g.run ∧ (change g).awaited.Sublist g.awaited) (w : World) :
    Thins w (w.changeGroup group change) := by
  intro other g' listed
  obtain ⟨g, listed', rfl | ⟨_, rfl⟩⟩ := listed_changeGroup listed
  · exact ⟨g', listed', rfl, .refl _⟩
  · exact ⟨g, listed', thins g⟩

/-- To ask tasks to end has to do with no group. -/
theorem abortAll_thins (ids : List TaskId) (w : World) : Thins w (w.abortAll ids) := by
  obtain ⟨tasks, ready, same⟩ := abortAll_eq ids w
  rw [same]
  exact thins_of_groups rfl

/-- A group that is dropped waits for nobody. -/
theorem dropGroup_thins (group : GroupId) (w : World) : Thins w (w.dropGroup group) := by
  unfold dropGroup
  split
  · exact thins_of_groups rfl
  · have emptied := changeGroup_thins group (fun g => { g with awaited := [], detached := [] })
      (fun g => ⟨rfl, List.nil_sublist _⟩) w
    exact emptied.trans (abortAll_thins _ _)

/-- A group that abandons its starts waits for the same tasks. -/
theorem abandonDetached_thins (group : GroupId) (w : World) :
    Thins w (w.abandonDetached group) := by
  -- The notices and the aborts leave the groups alone, and in between the group forgets its starts.
  obtain ⟨-, told⟩ := Flow.abandonDetached_told group w
  rw [told]
  have forgotten :=
    changeGroup_thins group (fun g => { g with detached := [] }) (fun g => ⟨rfl, .refl _⟩)
    (w.emitAll ((Flow.unfinished group w).map Flow.abandoning))
  exact forgotten.trans (abortAll_thins _ _)

end World

namespace Flow

/-- Groups only thin out while the supervising flow goes on. -/
theorem steady_thins : Steady Thins where
  refl := fun _ => thins_of_groups rfl
  trans := Thins.trans
  beats := fun beats => thins_of_groups beats.passes.groups
  does := fun does => thins_of_groups does.acts.groups

/-- A wait for a group takes tasks out of it, and none in. -/
theorem waitGroup_thins (group : GroupId) : (waitGroup group).Within Thins := by
  refine waitGroup_within steady_thins (fun id => ?_) (fun _ _ => thins_of_groups rfl)
    (fun run error w => ?_)
    (abandonDetached_thins group)
  · exact changeGroup_thins group _ fun g => ⟨rfl, List.erase_sublist⟩
  · have acts : Acts (fun _ => True) .main w (w.cancel .group run (.taskFailed error)).2 :=
      cancel_acts trivial trivial trivial
    exact thins_of_groups acts.groups

end Flow

variable {w w' : World}

namespace World

/-- Tasks and runs do not go away, so that a group which fits goes on to do so. -/
theorem Fits.leads {g : Group} (fits : w.Fits g) (leads : Leads everybody w w') : w'.Fits g where
  once := fits.once
  known := by
    intro id member
    obtain ⟨task', found, _⟩ := leads.remains (List.getElem?_eq_getElem (fits.known id member))
    exact (List.getElem?_eq_some_iff.mp found).1
  opened := Nat.lt_of_lt_of_le fits.opened leads.runs

/-- Steps by which groups only lose tasks leave them assembled. -/
theorem Assembled.leads (assembled : w.Assembled) (leads : Leads everybody w w')
    (thins : Thins w w') : w'.Assembled where
  sound := leads.sound assembled.sound
  fits := by
    intro group g' listed
    obtain ⟨g, listed', run, thinner⟩ := thins group g' listed
    have fits := (assembled.fits group g listed').leads leads
    exact ⟨fits.once.sublist thinner, fun id member => fits.known id (thinner.subset member),
      run ▸ fits.opened⟩

/-- A group may change if the tasks that it waits for then are still there, each once. -/
theorem Assembled.changeGroup (assembled : w.Assembled) (group : GroupId) {change : Group → Group}
    (fits : ∀ g, w.groups[group]? = some g → w.Fits (change g)) :
    (w.changeGroup group change).Assembled where
  sound := assembled.sound.same rfl rfl rfl rfl
  fits := by
    intro other g' listed
    -- A group that is listed afterwards is one of the others, or the one that was changed.
    obtain ⟨g, listed', rfl | ⟨same, rfl⟩⟩ := listed_changeGroup listed
    · obtain ⟨once, known, opened⟩ := assembled.fits other g' listed'
      exact ⟨once, known, opened⟩
    · obtain ⟨once, known, opened⟩ := fits g (same ▸ listed')
      exact ⟨once, known, opened⟩

/-- Another task does no harm to a group. -/
theorem Fits.spawn {g : Group} (fits : w.Fits g) (task : Task) : (w.spawn task).2.Fits g where
  once := fits.once
  known := fun id member => Nat.lt_of_lt_of_le (fits.known id member) (by simp [World.spawn])
  opened := fits.opened

/-- Another task does no harm to any of the groups. -/
theorem Assembled.spawn (assembled : w.Assembled) {task : Task} (live : task.ending = none) :
    (w.spawn task).2.Assembled where
  sound := Sound.spawn live assembled.sound
  fits := fun group g listed => (assembled.fits group g listed).spawn task

end World

/-- Whatever a process does with groups, they stay assembled. -/
theorem Gathers.assembled (gathers : Gathers w w') (assembled : w.Assembled) : w'.Assembled := by
  -- One case for each thing that is done with groups; only a spawn puts a task into one.
  cases gathers with
  | steps leads same => exact assembled.leads leads (thins_of_groups same)
  | opens run opened =>
    -- The group is one of those before, or the new one, which waits for nobody.
    refine ⟨assembled.sound.same rfl rfl rfl rfl, fun group g listed => ?_⟩
    have listed : (w.groups ++ [⟨run, [], []⟩])[group]? = some g := listed
    rw [List.getElem?_append] at listed
    split at listed
    · obtain ⟨once, known, opened⟩ := assembled.fits group g listed
      exact ⟨once, known, opened⟩
    · have same : g = ⟨run, [], []⟩ := by simpa using List.mem_of_getElem? listed
      rw [same]
      exact ⟨.nil, by simp, opened⟩
  | spawns group task live =>
    refine (assembled.spawn live).changeGroup group fun g listed => ?_
    have fits : w.Fits g := assembled.fits group g listed
    -- The task that is spawned is a new one.
    have new : w.tasks.length ∉ g.awaited := fun member => Nat.lt_irrefl _ (fits.known _ member)
    -- Each task is waited for once, and each of them is there.
    refine ⟨List.nodup_append.mpr ⟨fits.once, by simp, ?_⟩, fun id member => ?_, fits.opened⟩
    · intro id member other last same
      rw [same, List.mem_singleton.mp last] at member
      exact new member
    -- It was waited for before, or it is the new task.
    · rcases List.mem_append.mp member with before | last
      · exact (fits.spawn task).known id before
      · rw [List.mem_singleton.mp last]
        simp [World.spawn]
  | tracks group name task live =>
    -- A start that is only tracked is none of those that the group waits for.
    refine (assembled.spawn live).changeGroup group fun g listed => ?_
    obtain ⟨once, known, opened⟩ := (assembled.fits group g listed).spawn task
    exact ⟨once, known, opened⟩
  | waits group ran =>
    exact assembled.leads (Flow.waitGroup_leads.of_run ran)
      ((Flow.waitGroup_thins group).of_run ran)
  | drops group => exact assembled.leads (dropGroup_leads group w) (dropGroup_thins group w)

/-- Whatever was gathered is assembled. -/
theorem Gathered.assembled (gathered : Gathered w) : w.Assembled := by
  -- By induction on what was done since the process began, when there was no group.
  induction gathered with
  | refl => exact ⟨sound_fresh, by simp⟩
  | tail _ gathers ih => exact gathers.assembled ih

/-- How the wait for a group ends when it returns. -/
structure Waited (group : GroupId) (g : Group) (w : World) (result : Option RunError) (w' : World) :
    Prop where
  /-- All tasks that are waited for have ended. -/
  ended : ∀ id ∈ g.awaited, w'.isEnded id = true
  /-- The result is the first of their errors, in the order in which they have ended. -/
  gives : result = (w'.failures g.awaited).head?
  /-- The group has cancelled its run for the first error, once, and has warned of each further one,
  in that order. -/
  reacts : ∃ later : Trace, w'.trace = w.trace ++ later ∧
    later.grouped = reactions g.run none (w'.failures g.awaited)
  /-- It has cancelled the run when it joined the first task that failed, and not before; the cause
  of the run is that failure, unless it was cancelled by then. -/
  decides : ∀ error, result = some error →
    ∃ w₁, Flow.DecidesAt group g.run g.awaited w w₁ error w' ∧
      w'.cause? g.run = some ((w₁.cause? g.run).getD (.taskFailed error.text))

/-- Tasks that end in all ways, two of them only once their run is cancelled. -/
def crew : List Script :=
  [[.sleep 5], [.sleep 2, .panic .opaqueValue], [.awaitCancel, .failWith (.signalSetup "late")],
    [.awaitCancel], [.sleep 1]]

/-- A world in which one group has them. -/
def crewWorld : World :=
  { crew.foldl
    (fun w script => (w.spawnAwaited 0 ⟨.member, ⟨"crew", 0, none⟩, script, .fresh, none, false⟩).2)
      (({} : World).openRun.2.openGroup 0).2 with horizon := 100 }

/-- Where the wait for them ends. -/
def crewEnd : World := ((Flow.waitGroup 0).run crewWorld).2

/-- The crew was gathered step by step. -/
theorem crew_gathered : Gathered crewWorld := by
  have opened : Gathered (({} : World).openRun.2.openGroup 0).2 := by
    have first : Gathered ({} : World).openRun.2 := .single (.steps (.single (.opens {})) rfl)
    exact first.tail (.opens 0 (by decide))
  have gathered : ∀ scripts : List Script, Gathered (scripts.foldl
      (fun w script =>
        (w.spawnAwaited 0 ⟨.member, ⟨"crew", 0, none⟩, script, .fresh, none, false⟩).2)
      (({} : World).openRun.2.openGroup 0).2) := fun scripts =>
    List.foldlRecOn scripts _ opened fun _ gathered script _ => gathered.tail (.spawns 0 _ rfl)
  exact (gathered crew).tail (.steps (prolong_leads 100 _) rfl)

/-- The first of the crew to fail is the one that panics. -/
theorem crew_ends :
    (Flow.waitGroup 0).run crewWorld = (.ok (some (.taskPanicked "unknown panic")), crewEnd) :=
  Flow.run_of_result (by decide +kernel)

end Warden.Supervision
