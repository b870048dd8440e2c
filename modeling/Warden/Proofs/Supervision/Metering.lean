import Warden.Proofs.Supervision.Observing
import Warden.Proofs.Supervision.Supervise

/-!
What a supervised run leaves in its meters: how launches and stops are counted, and how many
services are shown to run.
-/

namespace Warden.Supervision

/-- What is read off the meters of a run: how a launch came out, where a stop begins, that it went
well and how it is counted, and how many services run. -/
inductive Meter
  | resolved (service : Placed) (outcome : Launched)
  | stopping (service : Placed)
  | down (service : Placed)
  | stopped (service : Placed) (ok : Bool)
  | running (services : Nat)
deriving Repr, DecidableEq, Inhabited

/-- The meter that an event moves, if it moves one. -/
def Event.meter? : Event → Option Meter
  | .count (.start service outcome) => some (.resolved service outcome)
  | .deed (.stop service) => some (.stopping service)
  | .deed (.down service) => some (.down service)
  | .count (.stop service ok) => some (.stopped service ok)
  | .running services => some (.running services)
  | _ => none

/-- The launch that an event counts, with its outcome. -/
def Event.resolution? : Event → Option (Placed × Launched)
  | .count (.start service outcome) => some (service, outcome)
  | _ => none

/-- The stop that an event counts, and whether it went well. -/
def Event.stopCount? : Event → Option (Placed × Bool)
  | .count (.stop service ok) => some (service, ok)
  | _ => none

namespace Trace

/-- What the meters show, in order, each with its time. -/
def meters (trace : Trace) : List (Nat × Meter) :=
  trace.filterMap fun stamped => stamped.event.meter?.map (stamped.time, ·)

/-- The launches that are counted, in order, with their outcomes. -/
def resolutions (trace : Trace) : List (Placed × Launched) :=
  trace.view Event.resolution?

/-- The stops that are counted, in order, and whether they went well. -/
def stopCounts (trace : Trace) : List (Placed × Bool) :=
  trace.view Event.stopCount?

/-- Meters are read off each part of a trace for itself. -/
@[simp] theorem meters_append (before after : Trace) :
    meters (before ++ after) = before.meters ++ after.meters :=
  List.filterMap_append

end Trace

/-- The services that were launched with success. -/
def won (outcomes : List (Placed × Launched)) : List Placed :=
  outcomes.filterMap fun (service, outcome) => if outcome = .started then some service else none

/-- Services are won in the order in which they were launched, each launch at most once. -/
theorem won_sublist (outcomes : List (Placed × Launched)) :
    (won outcomes).Sublist (outcomes.map (·.1)) := by
  induction outcomes with
  | nil => exact .slnil
  | cons first rest ih =>
    obtain ⟨service, outcome⟩ := first
    by_cases success : outcome = .started
    · simpa [won, success] using ih
    · simpa [won, success] using ih.cons service

/-- How the meters move while services are launched, from so many that run: each launch is counted,
and one that succeeds raises the gauge by one. -/
inductive Books : Nat → List (Placed × Launched) → List (Nat × Meter) → Prop
  | nil {running : Nat} : Books running [] []
  | gained {running time : Nat} {service : Placed} {outcomes : List (Placed × Launched)}
    {meters : List (Nat × Meter)}
    (others : Books (running + 1) outcomes meters) :
    Books running ((service, .started) :: outcomes)
      ((time, .resolved service .started) :: (time, .running (running + 1)) :: meters)
  | lost {running time : Nat} {service : Placed} {outcome : Launched}
    {outcomes : List (Placed × Launched)} {meters : List (Nat × Meter)}
    (lost : outcome ≠ .started) (others : Books running outcomes meters) :
    Books running ((service, outcome) :: outcomes) ((time, .resolved service outcome) :: meters)

/-- How the meters move while one service is stopped: the stop is counted once, as a good one
exactly if the service went down within the timeout. -/
inductive StopMeters (timeout : Nat) (service : Placed) : Bool → List (Nat × Meter) → Prop
  | good {begun ended : Nat} (soon : ended ≤ begun + timeout) :
    StopMeters timeout service true [(begun, .stopping service), (ended, .down service),
      (ended, .stopped service true)]
  | bad {begun ended : Nat} :
    StopMeters timeout service false [(begun, .stopping service), (ended, .stopped service false)]

/-- How the meters move while services are stopped one after another: after each stop the gauge
shows how many are left. -/
inductive Unwinds (timeout : Nat) : List (Placed × Bool) → List (Nat × Meter) → Prop
  | nil : Unwinds timeout [] []
  | cons {service : Placed} {ok : Bool} {stops : List (Placed × Bool)} {time : Nat}
    {first meters : List (Nat × Meter)}
    (one : StopMeters timeout service ok first) (others : Unwinds timeout stops meters) :
    Unwinds timeout ((service, ok) :: stops) (first ++ (time, .running stops.length) :: meters)

/-- The launch that a meter counts. -/
def Meter.resolution? : Meter → Option (Placed × Launched)
  | .resolved service outcome => some (service, outcome)
  | _ => none

/-- The stop that a meter counts. -/
def Meter.stopCount? : Meter → Option (Placed × Bool)
  | .stopped service ok => some (service, ok)
  | _ => none

/-- The number that the gauge is set to. -/
def Meter.running? : Meter → Option Nat
  | .running services => some services
  | _ => none

section Readings

variable {count timeout : Nat} {outcomes : List (Placed × Launched)} {stops : List (Placed × Bool)}
  {meters : List (Nat × Meter)} {service : Placed}

/-- The launches that are counted are those that the books are kept of. -/
theorem Books.resolutions (books : Books count outcomes meters) :
    meters.filterMap (·.2.resolution?) = outcomes := by
  induction books with
  | nil => rfl
  | gained others ih => exact congrArg _ ih
  | lost lost others ih => exact congrArg _ ih

/-- No stop is counted while services are launched. -/
theorem Books.stopCounts (books : Books count outcomes meters) :
    meters.filterMap (·.2.stopCount?) = [] := by
  induction books with
  | nil => rfl
  | gained others ih => exact ih
  | lost lost others ih => exact ih

/-- While services are launched the gauge rises by one with each that is won. -/
theorem Books.running (books : Books count outcomes meters) :
    meters.filterMap (·.2.running?) = List.range' (count + 1) (won outcomes).length := by
  induction books with
  | nil => rfl
  | gained others ih => exact congrArg _ ih
  | lost lost others ih => simpa [won, lost, Meter.running?] using ih

/-- No service goes down while services are launched. -/
theorem Books.undowned (books : Books count outcomes meters) (time : Nat) :
    (time, .down service) ∉ meters := by
  induction books with
  | nil => exact List.not_mem_nil
  | gained others ih => simpa using ih
  | lost lost others ih => simpa using ih

/-- No launch is counted while services are stopped. -/
theorem Unwinds.resolutions (unwinds : Unwinds timeout stops meters) :
    meters.filterMap (·.2.resolution?) = [] := by
  induction unwinds with
  | nil => rfl
  -- Neither a good stop nor a bad one counts a launch.
  | cons one others ih => cases one <;> simpa [Meter.resolution?] using ih

/-- The stops that are counted are those that were made, in their order. -/
theorem Unwinds.stopCounts (unwinds : Unwinds timeout stops meters) :
    meters.filterMap (·.2.stopCount?) = stops := by
  induction unwinds with
  | nil => rfl
  | cons one others ih => cases one <;> simpa [Meter.stopCount?] using ih

/-- While services are stopped the gauge falls by one with each, down to zero. -/
theorem Unwinds.running (unwinds : Unwinds timeout stops meters) :
    meters.filterMap (·.2.running?) = (List.range stops.length).reverse := by
  induction unwinds with
  | nil => rfl
  | cons one others ih =>
    -- What is left to stop is one less each time, so that the range loses its last number.
    rw [List.length_cons, List.range_succ, List.reverse_append]
    cases one <;> simpa [Meter.running?] using ih

/-- A stop that is counted as a good one is that of a service which went down within the timeout. -/
theorem Unwinds.down (unwinds : Unwinds timeout stops meters) (good : (service, true) ∈ stops) :
    ∃ begun ended, (begun, .stopping service) ∈ meters ∧ (ended, .down service) ∈ meters ∧
      ended ≤ begun + timeout := by
  induction unwinds with
  | nil => cases good
  | @cons other ok stops time first meters one others ih =>
    rcases List.mem_cons.mp good with same | member
    · cases same
      -- A good stop went down before it was counted.
      obtain ⟨soon⟩ := one
      exact ⟨_, _, by simp, by simp, soon⟩
    · obtain ⟨begun, ended, began, down, soon⟩ := ih member
      exact ⟨begun, ended, by simp [began], by simp [down], soon⟩

/-- A service that went down is counted as one that was stopped well. -/
theorem Unwinds.good {time : Nat} (unwinds : Unwinds timeout stops meters)
    (down : (time, .down service) ∈ meters) :
    (service, true) ∈ stops := by
  induction unwinds with
  | nil => cases down
  | @cons other ok stops again first meters one others ih =>
    -- Either the service went down in the first stop, and then that was a good one, or in a later
    -- one.
    rcases List.mem_append.mp down with own | later
    · cases one <;> simp_all
    · exact List.mem_cons_of_mem _ (ih (by simpa using later))

end Readings

/-- Only a stop that begins and a service that goes down move these meters. -/
theorem Event.deed_of_meter {event : Event} {service : Placed} :
    (event.meter? = some (.stopping service) → event = .deed (.stop service)) ∧
      (event.meter? = some (.down service) → event = .deed (.down service)) := by
  cases event with
  -- The cases of an event decide what its meter is; of the deeds only two have one.
  | count count => cases count <;> exact ⟨nofun, nofun⟩
  | deed deed => cases deed <;> constructor <;> rintro ⟨⟩ <;> rfl
  | _ => exact ⟨nofun, nofun⟩

namespace Trace

variable {trace : Trace}

/-- The counted launches can be read off the meters alone. -/
theorem resolutions_eq (trace : Trace) :
    trace.resolutions = trace.meters.filterMap (·.2.resolution?) := by
  -- Both are read off the events one by one.
  simp only [resolutions, view, meters, List.filterMap_filterMap]
  congr 1
  funext stamped
  cases stamped.event with
  | count count => cases count <;> rfl
  | deed deed => cases deed <;> rfl
  | _ => rfl

/-- The counted stops can be read off the meters alone. -/
theorem stopCounts_eq (trace : Trace) :
    trace.stopCounts = trace.meters.filterMap (·.2.stopCount?) := by
  -- As for the launches, event by event.
  simp only [stopCounts, view, meters, List.filterMap_filterMap]
  congr 1
  funext stamped
  cases stamped.event with
  | count count => cases count <;> rfl
  | deed deed => cases deed <;> rfl
  | _ => rfl

/-- The gauge can be read off the meters alone. -/
theorem running_eq (trace : Trace) : trace.running = trace.meters.filterMap (·.2.running?) := by
  simp only [running, meters, List.filterMap_filterMap]
  congr 1
  funext stamped
  cases stamped.event with
  | count count => cases count <;> rfl
  | deed deed => cases deed <;> rfl
  | _ => rfl

/-- A meter that moved is an event that moved it. -/
theorem mem_of_meters {time : Nat} {meter : Meter} (member : (time, meter) ∈ trace.meters) :
    ∃ event : Event, ⟨time, event⟩ ∈ trace ∧ event.meter? = some meter := by
  obtain ⟨⟨time', event⟩, listed, same⟩ := List.mem_filterMap.mp member
  obtain ⟨meter', moved, same'⟩ := Option.map_eq_some_iff.mp same
  cases same'
  exact ⟨event, listed, moved⟩

/-- An event that moves a meter shows up there. -/
theorem mem_meters {time : Nat} {event : Event} {meter : Meter} (member : ⟨time, event⟩ ∈ trace)
    (moved : event.meter? = some meter) : (time, meter) ∈ trace.meters :=
  List.mem_filterMap.mpr ⟨_, member, by simp [moved]⟩

/-- A stop that the meters show to begin is a deed of the trace. -/
theorem stopping_mem_meters {time : Nat} {service : Placed}
    (member : (time, .stopping service) ∈ trace.meters) :
    ⟨time, .deed (.stop service)⟩ ∈ trace := by
  obtain ⟨event, listed, moved⟩ := mem_of_meters member
  exact Event.deed_of_meter.1 moved ▸ listed

/-- A service that the meters show to go down is a deed of the trace. -/
theorem down_mem_meters {time : Nat} {service : Placed}
    (member : (time, .down service) ∈ trace.meters) :
    ⟨time, .deed (.down service)⟩ ∈ trace := by
  obtain ⟨event, listed, moved⟩ := mem_of_meters member
  exact Event.deed_of_meter.2 moved ▸ listed

end Trace

namespace World

variable {w w' : World}

/-- An event adds to the meters what it moves, if it moves one. -/
theorem meters_emit (event : Event) (w : World) :
    (w.emit event).trace.meters = w.trace.meters ++ (event.meter?.map (w.now, ·)).toList := by
  show Trace.meters (w.trace ++ [⟨w.now, event⟩]) = _
  rw [Trace.meters_append]
  congr 1

/-- What nobody sees on the meters leaves them as they are. -/
theorem Unseen.meters (unseen : Unseen Event.meter? w w') : w'.trace.meters = w.trace.meters := by
  obtain ⟨later, written, blind⟩ := unseen
  have still : Trace.meters later = [] := by
    refine List.filterMap_eq_nil_iff.mpr fun stamped member => ?_
    simp [List.filterMap_eq_nil_iff.mp blind stamped member]
  rw [written, Trace.meters_append, still, List.append_nil]

end World

/-- No task moves a meter. -/
theorem Task.MayWrite.unmetered {task : Task} {event : Event} (writes : task.MayWrite event) :
    event.meter? = none := by
  -- A task writes plain events, which move no meter, and the words of its own start.
  rcases writes with plain | ⟨service, _, own⟩
  · cases event with
    | deed deed => cases deed <;> simp_all [Event.isPlain, Event.meter?]
    | count count => cases count <;> simp_all [Event.isPlain, Event.meter?]
    | _ => simp_all [Event.isPlain, Event.meter?]
  · generalize task.aborted = dropped at own
    cases own <;> rfl

namespace Flow

open World

/-- Neither a wait nor what the supervising flow does in one moves a meter. -/
theorem steady_unmetered : Steady (Unseen Event.meter?) :=
  steady_unseen (fun _ _ writes => writes.unmetered) (fun _ _ => rfl) fun _ => rfl

variable {group : GroupId} {run : RunId} {w : World}

/-- What booking a launch does to the meters. -/
theorem meters_booking (service : Placed) (outcome : Launched) (w : World) :
    (w.booking service outcome).trace.meters = w.trace.meters ++
      (w.now, .resolved service outcome) ::
        if outcome = .started then [(w.now, .running (w.started.length + 1))] else [] := by
  show Trace.meters (w.trace ++ _) = _
  rw [Trace.meters_append, Placed.booking]
  split <;> rfl

/-- Each launch is counted once, and the gauge rises with each service that is kept. -/
theorem startAll_meters (deadline : Duration) (services : List Placed) :
    (startAll group run deadline services).Yields w
      (fun _ w' => ∃ outcomes meters, outcomes.map (·.1) = services ∧
        w'.started = w.started ++ won outcomes ∧
        w'.trace.meters = w.trace.meters ++ meters ∧ Books w.started.length outcomes meters)
      fun _ _ => True := by
  -- By induction on the services: a launch moves no meter, and booking it moves those of its
  -- outcome.
  induction services generalizing w with
  | nil => exact ⟨[], [], rfl, (List.append_nil _).symm, (List.append_nil _).symm, .nil⟩
  | cons service rest ih =>
    -- Two things are known of a launch: no meter moves, and the stack of services stays as it is.
    have launched : (launch group run service deadline).Yields w _ _ :=
      (launch_within (steady_unmetered.attends _ _ _ _)).and
        (launch_within (steady_passes.attends _ _ _ _))
    simp only [startAll, yields_bind]
    refine launched.mono ?_ fun _ _ _ => trivial
    rintro outcome w₁ ⟨unseen, passes⟩
    have meters : w₁.trace.meters = w.trace.meters := by
      rw [unseen.meters, trace_launching, Trace.meters_append]
      exact List.append_nil _
    have started : w₁.started = w.started := passes.started
    refine (book_written service outcome).mono ?_ fun _ _ halted => halted
    rintro _ _ rfl
    refine ih.mono ?_ fun _ _ _ => trivial
    rintro _ w₂ ⟨outcomes, more, names, kept, moved, books⟩
    rw [meters_booking, meters, started, List.append_assoc] at moved
    -- Only a launch that has succeeded keeps its service and raises the gauge.
    by_cases success : outcome = .started
    · subst success
      refine ⟨(service, .started) :: outcomes, _, congrArg _ names, ?_, moved, .gained ?_⟩
      · rw [kept]
        simp [won, World.booking, started]
      · simpa [World.booking, started] using books
    · rw [if_neg success] at moved
      refine ⟨(service, outcome) :: outcomes, _, congrArg _ names, ?_, moved, .lost success ?_⟩
      · rw [kept]
        simp [won, World.booking, success, started]
      · simpa [World.booking, success, started] using books

/-- A stop is counted once, as a good one exactly if the service went down within the timeout. -/
theorem stopOne_meters (timeout : Duration) (service : Placed) :
    (stopOne run timeout service).Yields w
      (fun _ w' => w'.started = w.started ∧ ∃ ok meters,
        w'.trace.meters = w.trace.meters ++ meters ∧
        StopMeters timeout.ceilMillis service ok meters)
      fun _ _ => True := by
  simp only [stopOne, yields_bind, yields_emit, yields_look]
  -- The script of a stop plays on the flow, under the timeout, and moves no meter itself.
  have played :
    (play ⟨service.name, run, none⟩ (some (w.now + timeout.ceilMillis)) service.service.stop).Yields
      (w.emit (.deed (.stop service))) _ _ :=
    (play_within (steady_unmetered.plays _) _ _ _).and
      ((play_within (steady_passes.plays _) _ _ _).and
        (play_yields (Nat.le_add_right w.now timeout.ceilMillis)))
  refine played.mono ?_ fun _ _ _ => trivial
  rintro outcome w₁ ⟨unseen, passes, soon, _⟩
  have begun : w₁.trace.meters = w.trace.meters ++ [(w.now, .stopping service)] := by
    rw [unseen.meters, meters_emit]
    rfl
  have started : w₁.started = w.started := passes.started
  -- A stop that went wrong is noticed, after the script has said so itself or not at all, and then
  -- counted.
  have bad : ∀ {w₂ : World} (n : Notice), w₂.trace.meters = w₁.trace.meters →
    w₂.started = w₁.started →
      (badStop service n).Yields w₂
        (fun _ w' => w'.started = w.started ∧ ∃ ok meters,
          w'.trace.meters = w.trace.meters ++ meters ∧
          StopMeters timeout.ceilMillis service ok meters)
        fun _ _ => True := by
    intro w₂ n same kept
    simp only [badStop, yields_bind, yields_notice, yields_emit]
    refine ⟨kept.trans started, false,
      [(w.now, .stopping service), (w₂.now, .stopped service false)], ?_, .bad⟩
    rw [meters_emit, World.notice, meters_emit, same, begun]
    simp [Event.meter?, World.emit]
  have failed :
    ∀ n : Notice, (badStop service n).Yields (w₁.emit (.deed (.stopFailed service))) _ _ := fun n =>
    bad n ((meters_emit _ _).trans (List.append_nil _)) rfl
  -- The five ways in which a script comes back: late, well, with one of two errors, or with a
  -- panic.
  split
  · exact bad _ rfl rfl
  · simp only [yields_bind, yields_emit, yields_notice]
    refine ⟨started, true, _, ?_, .good soon⟩
    rw [meters_emit, World.notice, meters_emit, meters_emit, begun]
    simp [Event.meter?, World.emit]
  -- A panic ends the flow, and then nothing is claimed.
  · exact failed _
  · exact failed _
  · exact trivial

/-- Each stop is counted once, and the gauge falls after each. -/
theorem stopEach_meters (timeout : Duration) (services : List Placed) :
    (stopEach run timeout services).Yields w
      (fun _ w' => ∃ stops meters, stops.map (·.1) = services ∧
        w'.trace.meters = w.trace.meters ++ meters ∧
        Unwinds timeout.ceilMillis stops meters)
      fun _ _ => True := by
  -- By induction on the services: one stop, the gauge, and then the rest.
  induction services generalizing w with
  | nil => exact ⟨[], [], rfl, (List.append_nil _).symm, .nil⟩
  | cons service rest ih =>
    simp only [stopEach, yields_bind, yields_change, yields_emit]
    refine (stopOne_meters timeout service).mono ?_ fun _ _ _ => trivial
    rintro _ w₁ ⟨_, ok, first, moved, one⟩
    refine ih.mono ?_ fun _ _ _ => trivial
    rintro _ w₂ ⟨stops, meters, names, moved₂, unwinds⟩
    -- The gauge shows how many services are left, which is how many stops are still to come.
    have left : stops.length = rest.length := by rw [← names, List.length_map]
    refine ⟨(service, ok) :: stops, first ++ (w₁.now, .running stops.length) :: meters,
      congrArg _ names, ?_,
      .cons one unwinds⟩
    rw [moved₂, meters_emit, moved, left]
    simp [Event.meter?]

/-- The error with which a run ended is noticed, and nothing else happens. -/
theorem noticeEnd_unmetered (result : Option RunError) : (noticeEnd result).Within
      fun w w' => Unseen Event.meter? w w' ∧ w'.started = w.started := by
  intro w
  unfold noticeEnd
  split
  · exact ⟨emit_unseen rfl, rfl⟩
  · exact ⟨.refl w, rfl⟩

/-- A wait for a group leaves the services that are kept as they are. -/
theorem waitGroup_keeps_started (group : GroupId) :
    (waitGroup group).Within fun w w' => w'.started = w.started := by
  -- Whatever passes in a wait touches only tasks, channels and runs.
  have lasts : Steady fun w w' : World => w'.started = w.started :=
    ⟨fun _ => rfl, fun first second => second.trans first, fun beats => beats.passes.started,
      fun does => does.acts.started⟩
  -- Neither the calls of a group nor what it abandons has to do with the services that are kept.
  refine waitGroup_within lasts (fun _ _ => rfl) (fun _ _ => rfl) (fun run error w => ?_) fun w =>
    ?_
  · have acts : Acts (fun _ => True) .main w (w.cancel .group run (.taskFailed error)).2 :=
      cancel_acts trivial trivial trivial
    exact acts.started
  · obtain ⟨tasks, ready, groups, trace, same⟩ := abandonDetached_eq group w
    rw [same]

variable {settings : Settings} {services : List Placed}

/-- When the wait for a run is over, each launch has been counted, and what was won is kept. -/
theorem startAndWait_meters :
    (startAndWait settings group run services).Yields w
      (fun _ w' => ∃ outcomes meters, outcomes.map (·.1) = services ∧ w'.started = won outcomes ∧
        w'.trace.meters = w.trace.meters ++ meters ∧ Books 0 outcomes meters)
      fun _ _ => True := by
  simp only [startAndWait, yields_bind, yields_answer, yields_change, yields_look, yields_notice]
  have launched :
    (startAll group run settings.startupTimeout services).Yields (w.watching group run) _ _ :=
    startAll_meters settings.startupTimeout services
  refine launched.mono ?_ fun _ _ _ => trivial
  rintro _ w₁ ⟨outcomes, meters, names, started, moved, books⟩
  -- While the run is waited for nothing moves a meter, and the services that are kept stay the
  -- same.
  have unmoved : (waitGroup group).Within (Unseen Event.meter?) :=
    waitGroup_unseen (fun _ _ writes => writes.unmetered) (fun _ _ => rfl) (fun _ => rfl)
      (fun _ => rfl) group
  refine ((unmoved _).and (waitGroup_keeps_started group _)).mono ?_ fun _ _ _ => trivial
  rintro result w₂ ⟨unseen, kept⟩
  refine ⟨outcomes, meters, names, kept.trans started, ?_, books⟩
  -- The watcher is put on its task and the stack is emptied without a word.
  have before : (w.watching group run).trace = w.trace := rfl
  rw [unseen.meters, World.notice, meters_emit, moved, before]
  exact List.append_nil _

/-- A supervised run that ends has counted each launch and each stop once, with the gauge in
step. -/
theorem supervise_meters :
    (supervise settings group run services).Yields w
      (fun _ w' => ∃ outcomes launches stops unwound, outcomes.map (·.1) = services ∧
        stops.map (·.1) = (won outcomes).reverse ∧
          w'.trace.meters = w.trace.meters ++ (launches ++ unwound) ∧
        Books 0 outcomes launches ∧ Unwinds settings.stopTimeout.ceilMillis stops unwound)
      fun _ _ => True := by
  simp only [supervise_eq, yields_bind, yields_pure]
  refine startAndWait_meters.mono ?_ fun _ _ _ => trivial
  rintro result w₁ ⟨outcomes, launches, names, started, launched, books⟩
  refine (noticeEnd_unmetered result w₁).mono ?_ fun _ _ _ => trivial
  -- The wait ended with an error or without one; a notice of it moves no meter.
  rintro _ w₂ ⟨unseen, kept⟩
  simp only [stopAll, yields_bind, yields_look]
  -- What is stopped is what was won, the last one first.
  refine (stopEach_meters settings.stopTimeout _).mono ?_ fun _ _ _ => trivial
  rintro _ w₃ ⟨stops, unwound, stopped, moved, unwinds⟩
  refine ⟨outcomes, launches, stops, unwound, names, by rw [stopped, kept, started], ?_,
    books, unwinds⟩
  rw [moved, unseen.meters, launched, List.append_assoc]

/-- A call that returns leaves such meters too. -/
theorem startServices_meters {supervisor : Supervisor} (own : supervisor.group = some group) :
    (startServices supervisor run services).Yields w
      (fun _ w' => ∃ outcomes launches stops unwound, outcomes.map (·.1) = services ∧
        stops.map (·.1) = (won outcomes).reverse ∧
          w'.trace.meters = w.trace.meters ++ (launches ++ unwound) ∧
        Books 0 outcomes launches ∧
          Unwinds supervisor.settings.stopTimeout.ceilMillis stops unwound)
      fun _ _ => True := by
  -- A call that is halted only drops its group first, so that nothing new is to be shown.
  simp only [startServices, own, yields_tryCatch, yields_bind, yields_change, yields_throw]
  exact supervise_meters.mono (fun _ _ metered => metered) fun _ _ _ => trivial

end Flow

end Warden.Supervision
