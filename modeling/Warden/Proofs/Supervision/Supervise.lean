import Warden.Proofs.Supervision.Joining
import Warden.Proofs.Supervision.Stopping
import Warden.Proofs.Supervision.Tending

/-! A supervised run from its watcher to its last stop. -/

namespace Warden.Supervision

namespace World

/-- No start goes on that nobody has asked to end. -/
def Settled (w : World) : Prop :=
  ∀ service, ¬ w.Starting service

/-- The world in which the watcher of a run has been spawned and nothing is started. -/
def watching (group : GroupId) (run : RunId) (w : World) : World :=
  { (w.spawnAwaited group (watcherTask run)).2 with started := [] }

variable {group : GroupId} {run : RunId} {w : World}

/-- The tasks of the world with a watcher: the new one behind the others. -/
theorem task?_watching (id : TaskId) : (w.watching group run).task? id =
    if id = w.tasks.length then some (watcherTask run) else w.task? id :=
  task?_spawn (watcherTask run) w id

/-- A watcher is no start. -/
theorem spawnWatcher_follows (group : GroupId) (run : RunId) (w : World) :
    Follows w (w.spawnAwaited group (watcherTask run)).2 := by
  have spawned : Follows w (w.spawn (watcherTask run)).2 :=
    spawn_follows rfl (by simp [watcherTask])
  exact spawned.trans (changeGroup_follows _ _)

/-- The watcher is spawned and nothing else happens. -/
theorem watching_follows (group : GroupId) (run : RunId) (w : World) :
    Follows w (w.watching group run) :=
  (spawnWatcher_follows group run w).trans (setStarted_follows [])

/-- What is not started cannot be missed by the group that tracks starts. -/
theorem Settled.tracked (settled : w.Settled) (listed : ∃ g, w.groups[group]? = some g) :
    w.Tracked group :=
  ⟨listed, fun id task service found live duty unaborted =>
    absurd ⟨id, task, found, live, duty, unaborted⟩ (settled service)⟩

/-- A group that was made for a run and has not been used, in a world where no start goes on. -/
structure Ready (group : GroupId) (run : RunId) (w : World) : Prop where
  going : w.exited = none
  sound : w.Sound
  counted : w.Counted
  timed : w.Timed
  settled : w.Settled
  opened : run < w.runs.length
  listed : w.groups[group]? = some ⟨run, [], []⟩
  caller : ∀ call, w.trace.firstCall run = some call → call.caller ≠ .group

/-- A run that is ready is supervised as soon as its watcher is spawned. -/
theorem Ready.supervised (ready : w.Ready group run) :
    (w.watching group run).Supervised group run w.tasks.length where
  sound := (watching_follows group run w).sound ready.sound
  watch := by
    -- The watcher has its first turn still to come.
    refine ⟨ready.opened, watcherTask run, ?_, rfl, rfl, rfl, .inl ⟨rfl, .inr (.inl ⟨rfl, ?_⟩)⟩⟩
    · rw [task?_watching, if_pos rfl]
    · exact List.mem_append_right _ (List.mem_singleton_self _)
  listed := by
    refine ⟨[], ?_⟩
    simp [watching, spawnAwaited, spawn, changeGroup, List.getElem?_modify_eq, ready.listed]
  caller := ready.caller

/-- Whatever is done at once while services are supervised, the trace has grown and the books are
kept. -/
theorem Tends.grows {group : GroupId} {run : RunId} {services : List Placed} {w w' : World}
    (tends : Tends group run services w w') : Grows w w' := by
  cases tends with
  | launches listed => exact launching_grows _
  | attends attends => exact Flow.steady_grows.does attends.does
  | @records event own =>
    refine record_grows w.started fun stamped member => ?_
    rw [List.mem_singleton.mp member]
    -- Nothing that the flow writes by itself is a call.
    cases event with
    | count count => cases count <;> first | exact ⟨rfl, rfl⟩ | cases own
    | cancelCall => cases own
    | _ => exact ⟨rfl, rfl⟩
  | keeps started => exact (setStarted_follows started).grows
  | releases id => exact (changeGroup_follows group _).grows
  | calls called error => exact (cancel_follows .group called _ w).grows
  | abandons => exact (Flow.abandonDetached_follows group w).grows
  | drops => exact (dropGroup_follows group w).grows
  | stops stops => exact stops.elim fun _ plays => Flow.steady_grows.does plays.does

end World

namespace Flow

open World

variable {group : GroupId} {run : RunId} {w : World} {settings : Settings}

/-- What a supervised run does before it stops anything: its watcher is spawned, its services are
launched, and its group is waited for. -/
def startAndWait (settings : Settings) (group : GroupId) (run : RunId) (services : List Placed) :
    Flow (Option RunError) := do
  let _ ← answer (·.spawnAwaited group (watcherTask run))
  change fun w => { w with started := [] }
  startAll group run settings.startupTimeout services
  notice (.waiting (← look (·.started.length)))
  waitGroup group

/-- After the wait, the error is noticed and what was started is stopped. -/
theorem supervise_eq (services : List Placed) : supervise settings group run services = do
    let result ← startAndWait settings group run services
    noticeEnd result
    stopAll run settings.stopTimeout
    return result := by
  simp only [supervise, startAndWait, bind_assoc]

/-- However the launch loop ends, every start that goes on is tracked. -/
theorem startAll_tracked (deadline : Duration) (services : List Placed) :
    (startAll group run deadline services).Within
      fun w w' => w.Tracked group → w'.Tracked group := by
  -- By induction on the services: a launch lets the group track its start, and booking it leaves
  -- the group alone.
  have steady := steady_tracked group
  induction services with
  | nil => exact pure_within steady _
  -- A launch puts its start on the list of the group, and what is booked for it changes no list.
  | cons service rest ih =>
    unfold startAll
    refine bind_within steady (fun w => ?_) fun outcome =>
      bind_within steady (fun w => ?_) fun _ => ih
    · exact (launch_within (steady.attends _ _ _ _)).mono (fun _ _ keeps tracked =>
        keeps (tracked.launching service))
        fun _ _ keeps tracked => keeps (tracked.launching service)
    · refine (book_yields service outcome).mono ?_ fun _ _ halt => halt
      rintro _ _ ⟨later, quiet, rfl⟩ tracked
      exact ⟨tracked.listed, tracked.member⟩

/-- Stopping everything only winds the world down, also where it breaks off. -/
theorem stopAll_winds (timeout : Duration) : (stopAll run timeout).Within Winds := by
  intro w
  simp only [stopAll, yields_bind, yields_look]
  have stack : w.started = w.started.reverse.reverse := (List.reverse_reverse _).symm
  exact (stopEach_yields run timeout _ stack).mono (fun _ _ ended => ended.1) fun _ _ halted =>
    -- What remains to be stopped is the stack from its top.
    halted.1

/-- Once the wait for a run is over none of its starts goes on, and before that each of them is
tracked. -/
theorem startAndWait_settles (settled : w.Settled) (listed : ∃ g, w.groups[group]? = some g)
    (services : List Placed) :
    (startAndWait settings group run services).Yields w (fun _ w' => w'.Settled) fun _ w' =>
      w'.Tracked group := by
  have tracked : (w.watching group run).Tracked group := by
    obtain ⟨g, listed⟩ := listed
    refine Settled.tracked (fun service starting => ?_)
      ⟨{ g with awaited := g.awaited ++ [w.tasks.length] }, ?_⟩
    · exact settled service ((watching_follows group run w).starting service starting)
    · simp [watching, spawnAwaited, spawn, changeGroup, List.getElem?_modify_eq, listed]
  simp only [startAndWait, yields_bind, yields_answer, yields_change, yields_look, yields_notice]
  -- Starts are tracked from their launch on, and those that go on are abandoned at the end of the
  -- wait.
  refine (startAll_tracked settings.startupTimeout services _).mono (fun _ w₁ keeps => ?_)
    fun _ _ keeps => keeps tracked
  exact waitGroup_settles
    ((steady_tracked group).does (.tells (.waiting w₁.started.length) w₁) (keeps tracked))

/-- A supervised run that returns leaves no start going on, and one that does not leaves none that
is not tracked. -/
theorem supervise_settles (settled : w.Settled) (listed : ∃ g, w.groups[group]? = some g)
    (services : List Placed) :
    (supervise settings group run services).Yields w (fun _ w' => w'.Settled)
      fun _ w' => w'.Settled ∨ w'.Tracked group := by
  simp only [supervise_eq, yields_bind, yields_pure]
  -- Once no start goes on, neither the last word on the run nor its stops bring one back.
  refine (startAndWait_settles settled listed services).mono (fun result w₁ settled₁ => ?_)
    fun _ _ tracked => .inr tracked
  refine (noticeEnd_follows result w₁).mono (fun _ w₂ follows => ?_)
    fun _ _ follows => .inl fun service starting =>
      settled₁ service (follows.starting service starting)
  have settled₂ : w₂.Settled :=
    fun service starting => settled₁ service (follows.starting service starting)
  exact (stopAll_winds settings.stopTimeout w₂).mono
    (fun _ _ winds service starting => settled₂ service (winds.starting service starting))
    fun _ _ winds => .inl fun service starting => settled₂ service (winds.starting service starting)

variable {supervisor : Supervisor}

/-- Dropping a group leaves the clock, the trace and the process as they are. -/
theorem dropGroup_eq (group : GroupId) (w : World) :
    ∃ tasks ready groups, w.dropGroup group = { w with tasks, ready, groups } := by
  unfold dropGroup
  split
  · exact ⟨w.tasks, w.ready, w.groups, rfl⟩
  · rename_i g _
    obtain ⟨tasks, ready, same⟩ := abortAll_eq (g.awaited ++ g.detached.map (·.2))
      (w.changeGroup group fun g => { g with awaited := [], detached := [] })
    exact ⟨tasks, ready, _, same⟩

/-- However a call to start services ends, the trace has grown and the books are kept. -/
theorem startServices_grows (run : RunId) (services : List Placed) :
    (startServices supervisor run services).Within Grows :=
  startServices_within (fun _ => { steady_grows with does := Tends.grows })
    (fun group w => (spawnWatcher_follows group run w).grows) supervisor

/-- However a call to start services ends, none of the starts goes on. -/
theorem startServices_settles (settled : w.Settled)
    (listed : ∀ group, supervisor.group = some group → ∃ g, w.groups[group]? = some g) (run : RunId)
    (services : List Placed) :
    (startServices supervisor run services).Yields w (fun _ w' => w'.Settled) fun _ w' =>
      w'.Settled := by
  unfold startServices
  split
  · exact settled
  · rename_i group own
    simp only [yields_tryCatch, yields_bind, yields_change, yields_throw]
    refine (supervise_settles settled (listed group own) services).mono
      (fun _ _ settled => settled) ?_
    -- A call that is cut drops the group, and with it all starts that are still tracked.
    rintro halt w₁ (settled₁ | tracked)
    · exact fun service starting =>
        settled₁ service ((dropGroup_follows group w₁).starting service starting)
    · exact fun service => tracked.dropped

end Flow

end Warden.Supervision
