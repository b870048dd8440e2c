import Warden.Proofs.Supervision.Laws
import Warden.Proofs.Supervision.Ledger

/-!
How the ledger is closed: it is kept while the group is waited for, and nothing is added once the
starts are abandoned.
-/

namespace Warden.Supervision

namespace World

variable {α : Type} {view : Event → Option α} {group : GroupId} {run : RunId} {deadline : Duration}
  {base : TaskId} {before : Trace} {done : List (Placed × Launched)} {w w' : World}

/-- What observers of launches take no notice of. -/
structure Unbooked (w w' : World) : Prop where
  launches : Unseen Event.resolution? w w'
  abandons : Unseen Event.abandoning? w w'

/-- What books nothing leaves the bookings as they are. -/
theorem Booked.unbooked (booked : w.Booked before done) (unbooked : Unbooked w w') :
    w'.Booked before done :=
  ⟨booked.launches.unseen unbooked.launches, booked.unabandoned.unseen unbooked.abandons⟩

/-- What a group does about the tasks that it waits for spares all starts. -/
-- Only the list of those that the group waits for changes.
theorem release_spares (id : TaskId) (w : World) : Spares group w (w.release group id) where
  tasks := rfl
  runs := rfl
  awaiting := rfl
  tracked := by
    intro g listed
    exact ⟨{ g with awaited := g.awaited.erase id },
      by simp [release, changeGroup, List.getElem?_modify_eq, listed], rfl⟩
  sound := fun sound => sound.same rfl rfl rfl rfl
  sayings := fun _ => .refl w
  written := ⟨[], (List.append_nil _).symm⟩

/-- A notice that says nothing of a start spares all of them. -/
theorem notice_spares {n : Notice} (unsaid : ∀ service, sayingOf service (.notice .main n) = none)
    (w : World) :
    Spares group w (w.notice .main n) where
  tasks := rfl
  runs := rfl
  awaiting := rfl
  tracked := fun g listed => ⟨g, listed, rfl⟩
  sound := (notice_follows .main n).sound
  sayings := fun service => emit_unseen (unsaid service)
  written := ⟨_, rfl⟩

/-- A call of the group says nothing of any start and touches none. -/
theorem groupCalls_spares (called : RunId) (cause : Cause) (w : World) :
    Spares group w (w.cancel .group called cause).2 := by
  have acts : Acts (fun _ => True) .main w (w.cancel .group called cause).2 :=
    cancel_acts trivial trivial trivial
  exact {
    tasks := tasks_cancel .group called cause w
    runs := acts.runs
    awaiting := awaiting_cancel .group called cause w
    tracked := fun g listed => ⟨g, acts.groups ▸ listed, rfl⟩
    sound := acts.sound
    sayings := fun service => cancel_unseen rfl (sayingOf_tells service).plain
    written := acts.trace.elim fun _ written => ⟨_, written.1⟩ }

/-- To abandon starts says nothing of how they came out. -/
theorem abandonDetached_mute (group : GroupId) (w : World) : Mute w (w.abandonDetached group) where
  leads := abandonDetached_leads group w
  sayings := fun _ => Flow.abandonDetached_unseen (fun _ => rfl) group w
  launches := Flow.abandonDetached_unseen (fun _ => rfl) group w

/-- What happens without a word about any start when no start goes on, and none is abandoned. -/
structure Over (w w' : World) : Prop where
  mute : Mute w w'
  abandons : Unseen Event.abandoning? w w'

/-- Nothing at all may be over. -/
theorem Over.refl (w : World) : Over w w :=
  ⟨⟨.refl, fun _ => .refl w, .refl w⟩, .refl w⟩

/-- What is over stays over, one thing after another. -/
theorem Over.trans {w₁ w₂ : World} (first : Over w w₁) (second : Over w₁ w₂) : Over w w₂ where
  mute := ⟨first.mute.leads.trans second.mute.leads,
    fun service => (first.mute.sayings service).trans (second.mute.sayings service),
    first.mute.launches.trans second.mute.launches⟩
  abandons := first.abandons.trans second.abandons

/-- To drop a group is over without a word. -/
theorem dropGroup_over (group : GroupId) (w : World) : Over w (w.dropGroup group) := by
  have still := (dropGroup_keeps group w).trace
  exact ⟨⟨dropGroup_leads group w, fun _ => .of_trace still, .of_trace still⟩, .of_trace still⟩

/-- What is said of stops is not said of starts. -/
theorem unsaid_of_stop {event : Event} (said : event.ofStop = true) :
    (∀ service, sayingOf service event = none) ∧ event.resolution? = none ∧
      event.abandoning? = none := by
  unfold Event.ofStop at said
  split at said <;> first | exact ⟨fun _ => rfl, rfl, rfl⟩ | cases said

end World

namespace Flow

open World

variable {group : GroupId} {run : RunId} {deadline : Duration} {base : TaskId} {before : Trace}
  {done : List (Placed × Launched)} {settings : Settings} {services : List Placed} {w : World}

/-- The ledger lasts through waits and through all that spares the starts. -/
theorem ledger_lasts : Lasting (fun w w' => Spares group w w' ∧ Unbooked w w') fun w w' =>
    w.Ledger group run deadline base before done ∧ w.Booked before done →
      w'.Ledger group run deadline base before done ∧ w'.Booked before done where
  refl := fun _ kept => kept
  trans := fun first second kept => second (first kept)
  beats := by
    rintro goal alarm w w' beats ⟨ledger, booked⟩
    -- While the flow waits only tasks write, and nothing that they write is booked.
    refine ⟨ledger.beats beats, booked.unbooked ⟨?_, ?_⟩⟩
    · exact (plays_unseen fun _ _ writes => writes.unbooked.1).beats beats
    · exact (plays_unseen fun _ _ writes => writes.unbooked.2).beats beats
  does := by
    rintro w w' ⟨spares, unbooked⟩ ⟨ledger, booked⟩
    exact ⟨ledger.spared spares, booked.unbooked unbooked⟩

/-- The tasks that are waited for are joined without a word about any start. -/
theorem join_ledger (ledger : w.Ledger group run deadline base before done)
    (booked : w.Booked before done) (called : RunId) (count : Nat) (first : Option RunError) :
    (join group called count first).Yields w
      (fun _ w' => w'.Ledger group run deadline base before done ∧ w'.Booked before done)
      fun _ w' => w'.Ledger group run deadline base before done ∧ w'.Booked before done := by
  have lasts : Lasting (fun w w' => Spares group w w' ∧ Unbooked w w') fun w w' =>
      w.Ledger group run deadline base before done ∧ w.Booked before done →
        w'.Ledger group run deadline base before done ∧ w'.Booked before done := ledger_lasts
  have plain : ∀ event : Event, event.isPlain = true → event.resolution? = none ∧
    event.abandoning? = none := by
    intro event plain
    have writes : (default : Task).MayWrite event := .inl plain
    exact writes.unbooked
  -- Each task that is joined is let go, and its error is warned of or calls off the run.
  have joined : (join group called count first).Within _ :=
    join_within lasts (fun id w => lasts.does ⟨release_spares id w, .refl w, .refl w⟩)
      (fun error w => ?_) (fun error w => ?_) count first
  · exact (joined w).mono (fun _ _ keeps => keeps ⟨ledger, booked⟩) fun _ _ keeps =>
      keeps ⟨ledger, booked⟩
  -- First the warning of a later error, then the call for the first.
  · exact lasts.does ⟨notice_spares (fun _ => rfl) w, emit_unseen rfl, emit_unseen rfl⟩
  · exact lasts.does ⟨groupCalls_spares called _ w,
      cancel_unseen rfl fun event plain' => (plain event plain').1,
      cancel_unseen rfl fun event plain' => (plain event plain').2⟩

/-- In a run that is ready the ledger is empty when the launches begin. -/
theorem ledger_watching (ready : w.Ready group run) :
    (w.watching group run).Ledger group run deadline (w.tasks.length + 1) w.trace [] where
  sound := ready.supervised.sound
  opened := ready.opened
  count := by simp [watching, spawnAwaited, spawn, changeGroup]
  tracked := ⟨⟨run, [w.tasks.length], []⟩,
    by simp [watching, spawnAwaited, spawn, changeGroup, List.getElem?_modify_eq,
      ready.listed], rfl⟩
  accounts := by simp [Accounts, enrolled]
  guilty := by simp [Guilty]
  others := fun service _ =>
    ⟨fun starting =>
      ready.settled service ((watching_follows group run w).starting service starting),
      [], by simp [watching, spawnAwaited, spawn, changeGroup], rfl⟩

/-- Then everybody is innocent. -/
theorem innocent_watching (ready : w.Ready group run) :
    (w.watching group run).Innocent run w.trace [] := fun _ =>
  ⟨fun service starting =>
    ready.settled service ((watching_follows group run w).starting service starting), [], by
    simp [watching, spawnAwaited, spawn, changeGroup], rfl⟩

/-- When the wait for a run is over, the ledger of all its launches was kept until its starts were
abandoned. -/
theorem startAndWait_ledger (ready : w.Ready group run) (distinct : services.Nodup) :
    (startAndWait settings group run services).Yields w
      (fun _ w' => ∃ (done : List (Placed × Launched)) (w₁ : World), done.map (·.1) = services ∧
        w₁.Ledger group run settings.startupTimeout (w.tasks.length + 1) w.trace done ∧
          w₁.Booked w.trace done ∧
        w' = w₁.abandonDetached group)
      fun _ w' => ∃ done : List (Placed × Launched), done.map (·.1) <+: services ∧
        w'.Filed run settings.startupTimeout (w.tasks.length + 1) w.trace done ∧
          w'.Saw Event.abandoning? w.trace [] := by
  have booked : (w.watching group run).Booked w.trace [] := by
    refine ⟨⟨[], ?_, rfl⟩, [], ?_, rfl⟩ <;> simp [watching, spawnAwaited, spawn, changeGroup]
  simp only [startAndWait, yields_bind, yields_answer, yields_change, yields_look, yields_notice]
  -- The launch loop fills the ledger, and the group is joined with it.
  have launched :
    (startAll group run settings.startupTimeout services).Yields (w.watching group run) _ _ :=
    startAll_ledger services (ledger_watching ready) booked (innocent_watching ready) distinct
  refine launched.mono ?_ fun _ _ filed => filed
  rintro _ w₁ ⟨done, names, ledger, booked⟩
  -- The word how many services run is none about a start, and neither resolves nor abandons one.
  rw [List.nil_append] at ledger booked
  have ledger' := ledger.spared (notice_spares (n := .waiting w₁.started.length) (fun _ => rfl) w₁)
  have booked' : (w₁.notice .main (.waiting w₁.started.length)).Booked w.trace done :=
    booked.unbooked ⟨emit_unseen rfl, emit_unseen rfl⟩
  obtain ⟨g, listed, -⟩ := ledger'.tracked
  simp only [waitGroup, yields_bind, yields_look, listed, yields_change, yields_pure]
  refine (join_ledger ledger' booked' g.run g.awaited.length none).mono ?_ ?_
  -- Joined or cut while joining, the ledger is as the loop has left it.
  · rintro _ w₂ ⟨ledger₂, booked₂⟩
    exact ⟨done, w₂, names, ledger₂, booked₂, rfl⟩
  · rintro _ w₂ ⟨ledger₂, booked₂⟩
    exact ⟨done, names ▸ List.prefix_rfl, ledger₂.filed booked₂, booked₂.unabandoned⟩

/-- Where no start goes on, nothing is said of any while services are stopped. -/
theorem stopAll_silent (timeout : Duration) (service : Placed) :
    (stopAll run timeout).Within fun w w' => w.Settled → w'.Settled ∧
      Unseen (sayingOf service) w w' := by
  have tells := sayingOf_tells service
  -- No start goes on that could say something, and the stops say nothing of any.
  have lasts : Lasting (Stops run) fun w w' => w.Settled → w'.Settled ∧
    Unseen (sayingOf service) w w' := {
    refl := fun w settled => ⟨settled, .refl w⟩
    trans := by
      intro w₁ w₂ w₃ first second settled
      obtain ⟨settled₂, unseen₂⟩ := first settled
      obtain ⟨settled₃, unseen₃⟩ := second settled₂
      exact ⟨settled₃, unseen₂.trans unseen₃⟩
    -- Nobody starts anything while a stop waits, so that all stays settled.
    beats := fun beats settled =>
      ⟨fun service starting => settled service (beats.passes.starting starting),
        (settled.silent.beats tells beats).2⟩
    does := by
      rintro w w' ⟨_, plays⟩ settled
      have passes := steady_passes.does plays.does
      exact ⟨fun service starting => settled service (passes.starting starting),
        plays.acts.unseen fun event writes => tells.plain event writes.1⟩ }
  exact stopAll_within lasts (fun w said settled =>
    ⟨settled, emit_unseen ((unsaid_of_stop said).1 service)⟩)
    (fun started w settled => ⟨settled, .of_trace rfl⟩) timeout

/-- After the stops all is over, if no start went on before. -/
theorem stopAll_over (timeout : Duration) :
    (stopAll run timeout).Within fun w w' => w.Settled → Over w w' := by
  -- Stops lead on, say nothing of starts, resolve no launch and abandon none.
  intro w
  refine yields_end.mpr fun settled => ⟨⟨?_, fun service => ?_, ?_⟩, ?_⟩
  · exact yields_end.mp (stopAll_leads timeout w)
  · exact (yields_end.mp (stopAll_silent timeout service w) settled).2
  · exact yields_end.mp (stopAll_unseen (fun _ _ writes => writes.unbooked.1)
      (fun _ said => (unsaid_of_stop said).2.1) run timeout w)
  · exact yields_end.mp (stopAll_unseen (fun _ _ writes => writes.unbooked.2)
      (fun _ said => (unsaid_of_stop said).2.2) run timeout w)

/-- The error of a run is no word about a start. -/
theorem noticeEnd_over (result : Option RunError) :
    (noticeEnd result).Within fun w w' => w.Settled → w'.Settled ∧ Over w w' := by
  intro w
  -- It is one notice, if there is an error at all.
  unfold noticeEnd
  split
  · rename_i error
    refine (yields_notice (.runEnded error)).mpr fun settled =>
      ⟨settled, ⟨?_, fun service => ?_, ?_⟩, ?_⟩
    · exact .single (.does (.tells _ w))
    all_goals exact emit_unseen rfl
  · exact (yields_pure ()).mpr fun settled => ⟨settled, .refl w⟩

variable {supervisor : Supervisor}

/-- If the wait for a run is cut, the group is dropped and nothing else is done. -/
theorem startServices_halts (own : supervisor.group = some group) {halt : Halt} {w₁ : World}
    (halted : (startAndWait supervisor.settings group run services).run w = (.error halt, w₁)) :
    (startServices supervisor run services).Yields w (fun _ _ => False) fun _ w' =>
      w' = w₁.dropGroup group := by
  simp only [startServices, own, supervise_eq, yields_tryCatch, yields_bind, yields_of_error halted,
    yields_change,
    yields_throw]

/-- Once a run has been waited for and no start goes on, the rest of a call with services is done
without a word about any start; in particular none is abandoned. -/
theorem startServices_over (own : supervisor.group = some group) {ended : Option RunError}
    {w₁ : World}
    (waited : (startAndWait supervisor.settings group run services).run w = (.ok ended, w₁))
    (settled : w₁.Settled) :
    (startServices supervisor run services).Yields w (fun _ => Over w₁) fun _ => Over w₁ := by
  simp only [startServices, own, supervise_eq, yields_tryCatch, yields_bind, yields_of_ok waited,
    yields_change, yields_throw,
    yields_pure]
  -- A group that is dropped on the way out says nothing either.
  have dropped : ∀ {w₂ : World}, Over w₁ w₂ → Over w₁ (w₂.dropGroup group) :=
    fun quiet => quiet.trans (dropGroup_over group _)
  refine (noticeEnd_over ended w₁).mono ?_ fun _ _ noted => dropped (noted settled).2
  intro _ w₂ noted
  obtain ⟨settled₂, quiet⟩ := noted settled
  exact (stopAll_over supervisor.settings.stopTimeout w₂).mono
    (fun _ _ stopped => quiet.trans (stopped settled₂))
    fun _ _ stopped => dropped (quiet.trans (stopped settled₂))

/-- However a call with services ends, its launches are filed; if it returns, these are the launches
of all services. -/
theorem startServices_filed (own : supervisor.group = some group) (ready : w.Ready group run)
    (distinct : services.Nodup) :
    (startServices supervisor run services).Yields w
      (fun _ w' => ∃ done : List (Placed × Launched), done.map (·.1) = services ∧
        w'.Filed run supervisor.settings.startupTimeout (w.tasks.length + 1) w.trace done)
      fun _ w' => ∃ done : List (Placed × Launched), done.map (·.1) <+: services ∧
        w'.Filed run supervisor.settings.startupTimeout (w.tasks.length + 1) w.trace done := by
  have waits : (startAndWait supervisor.settings group run services).Yields w _ _ :=
    (startAndWait_ledger ready distinct).and
      (startAndWait_settles ready.settled ⟨_, ready.listed⟩ services)
  -- A wait that is cut drops the group; one that is over has abandoned the starts that go on.
  rcases waited :
    (startAndWait supervisor.settings group run services).run w with ⟨halt | ended, w₂⟩
  -- It was cut, in the launches or in the join, and what was filed by then is left.
  · obtain ⟨⟨done, names, filed, -⟩, -⟩ := (yields_of_error waited).mp waits
    refine (startServices_halts own waited).mono (fun _ _ returned => returned.elim) ?_
    rintro _ _ rfl
    exact ⟨done, names, filed.mute (dropGroup_over group w₂).mute⟩
  -- It was over, and then come the stops, which say nothing of starts.
  · obtain ⟨⟨done, w₁, names, ledger, booked, rfl⟩, settled⟩ := (yields_of_ok waited).mp waits
    have filed := (ledger.filed booked).mute (abandonDetached_mute group w₁)
    exact (startServices_over own waited settled).mono
      (fun _ _ quiet => ⟨done, names, filed.mute quiet.mute⟩)
      fun _ _ quiet => ⟨done, names ▸ List.prefix_rfl, filed.mute quiet.mute⟩

end Flow

/-- Of a call in a run that was prepared the launches that are counted are filed; they are those of
the first services, and of all of them if the call returns. -/
theorem Prepared.filed {supervisor : Supervisor} {run : RunId} {w w' : World}
    (prepared : Prepared supervisor run w) (services : List Service)
    {result : Except Halt (Option RunError)}
    (ran : (Flow.startServices supervisor run (placed services)).run w = (result, w')) :
    ∃ trace : Trace, w'.trace = w.trace ++ trace ∧ trace.resolutions.map (·.1) <+: placed services ∧
      (∀ ended, result = .ok ended → trace.resolutions.map (·.1) = placed services) ∧
      w'.Filed run supervisor.settings.startupTimeout (w.tasks.length + 1) w.trace
        trace.resolutions := by
  obtain ⟨group, own, ready⟩ := prepared.ready
  have ends := (Flow.startServices_filed own ready (nodup_placed services)).of_run ran
  -- What was counted is what was filed.
  obtain ⟨done, names, whole, filed⟩ : ∃ done : List (Placed × Launched),
    done.map (·.1) <+: placed services ∧
      (∀ ended, result = .ok ended → done.map (·.1) = placed services) ∧
      w'.Filed run supervisor.settings.startupTimeout (w.tasks.length + 1) w.trace done := by
    cases result with
    | ok ended =>
      obtain ⟨done, names, filed⟩ := ends.1 ended rfl
      exact ⟨done, names ▸ List.prefix_rfl, fun _ _ => names, filed⟩
    | error halt =>
      obtain ⟨done, names, filed⟩ := ends.2 halt rfl
      exact ⟨done, names, by simp, filed⟩
  -- The counted launches can be read off the trace, so that they are those that were filed.
  obtain ⟨trace, written, launches⟩ := filed.launches
  obtain rfl : trace.resolutions = done := launches
  exact ⟨trace, written, names, whole, filed⟩

end Warden.Supervision
