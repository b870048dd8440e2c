import Warden.Proofs.Supervision.Launching

/-! Everything that the supervising flow does at once while it supervises services in a run. -/

namespace Warden.Supervision

/-- What the supervising flow writes by itself while it supervises services. -/
def Event.ofFlow : Event → Bool
  | .notice .main _ | .running _ | .count (.start _ _) => true
  | event => event.ofStop

namespace World

/-- One thing that the supervising flow does at once while it supervises services in a run: it
launches one of them or attends to its start, records something, keeps what has started, joins,
abandons or drops the tasks of its group, or stops a service. -/
inductive Tends (group : GroupId) (run : RunId) (services : List Placed) : World → World → Prop
  | launches {service : Placed} (listed : service ∈ services) (w : World) :
    Tends group run services w (w.launching group run service)
  | attends {service : Placed} {deadline : Duration} {id : TaskId} {w w' : World}
    (attends : Attends run service deadline id w w') : Tends group run services w w'
  | records {event : Event} (own : event.ofFlow = true) (w : World) :
    Tends group run services w (w.emit event)
  | keeps (started : List Placed) (w : World) : Tends group run services w { w with started }
  | releases (id : TaskId) (w : World) : Tends group run services w (w.release group id)
  | calls (called : RunId) (error : String) (w : World) :
    Tends group run services w (w.cancel .group called (.taskFailed error)).2
  | abandons (w : World) : Tends group run services w (w.abandonDetached group)
  | drops (w : World) : Tends group run services w (w.dropGroup group)
  | stops {w w' : World} (stops : Stops run w w') : Tends group run services w w'

end World

namespace Flow

open World

variable {group : GroupId} {run : RunId} {services : List Placed} {R : World → World → Prop}

section Parts

variable (lasts : Lasting (Tends group run services) R)
include lasts

/-- An event that is the flow's own is written in one step. -/
theorem emit_within {event : Event} (own : event.ofFlow = true) : (emit event).Within R :=
  change_within lasts fun w => .records own w

/-- Booking an outcome counts it and keeps the service that is up. -/
theorem book_within (service : Placed) (outcome : Launched) : (book service outcome).Within R := by
  refine bind_within lasts (emit_within lasts rfl) fun _ => .ite ?_ (pure_within lasts _)
  refine bind_within lasts (emit_within lasts rfl) fun _ => ?_
  refine bind_within lasts (change_within lasts fun w => .keeps _ w) fun _ => ?_
  exact bind_within lasts (look_within lasts _) fun _ => emit_within lasts rfl

/-- The launch loop goes on by launches, by what their races need and by what is booked. -/
theorem startAll_within (deadline : Duration) {rest : List Placed}
    (listed : ∀ service ∈ rest, service ∈ services) :
    (startAll group run deadline rest).Within R := by
  -- By induction on the services: each is launched, raced and booked before the next one.
  induction rest with
  | nil => exact pure_within lasts _
  | cons service rest ih =>
    obtain ⟨first, others⟩ := List.forall_mem_cons.mp listed
    unfold startAll
    refine bind_within lasts (fun w => ?_) fun outcome =>
      bind_within lasts (book_within lasts service outcome) fun _ => ih others
    have launched : R w (w.launching group run service) := lasts.does (.launches first w)
    exact (launch_within (lasts.mono .attends)).mono (fun _ _ => lasts.trans launched) fun _ _ =>
      lasts.trans launched

/-- The end of the wait is told in one step. -/
theorem noticeEnd_within (result : Option RunError) : (noticeEnd result).Within R := by
  unfold noticeEnd
  split
  · exact emit_within lasts rfl
  · exact pure_within lasts _

/-- So is the wait for the group. -/
theorem waiting_within : (waitGroup group).Within R :=
  waitGroup_within lasts (fun id w => lasts.does (.releases id w))
    (fun _ w => lasts.does (.records rfl w))
    (fun called error w => lasts.does (.calls called error w)) fun w => lasts.does (.abandons w)

/-- Stopping is tending as well. -/
theorem stopping_within (timeout : Duration) : (stopAll run timeout).Within R := by
  refine stopAll_within (lasts.mono .stops) (fun w said => lasts.does (.records ?_ w))
    (fun started w => lasts.does (.keeps started w)) timeout
  -- What is said of a stop is written by the flow itself.
  unfold Event.ofFlow
  split
  · rfl
  · rfl
  · rfl
  · exact said

/-- Supervising begins with the watcher of the run; what lasts through whatever is done then holds
from there on. -/
theorem supervise_watched (settings : Settings) (w : World) :
    (supervise settings group run services).Yields w
    (fun _ => R (w.spawnAwaited group (watcherTask run)).2) fun _ =>
      R (w.spawnAwaited group (watcherTask run)).2 := by
  simp only [supervise, yields_bind, yields_answer]
  simp only [← yields_bind]
  generalize (w.spawnAwaited group (watcherTask run)).2 = watched
  revert watched
  -- From here on the relation holds wherever one begins, so that the flow is taken apart as a
  -- whole.
  refine bind_within lasts (change_within lasts fun w => .keeps [] w) fun _ => ?_
  refine bind_within lasts (startAll_within lasts _ fun _ listed => listed) fun _ => ?_
  refine bind_within lasts (look_within lasts _) fun _ => ?_
  refine bind_within lasts (emit_within lasts rfl) fun _ =>
    bind_within lasts (waiting_within lasts) fun result => ?_
  refine bind_within lasts (noticeEnd_within lasts result) fun _ => ?_
  exact bind_within lasts (stopping_within lasts _) fun _ => pure_within lasts _

/-- With a group, services are supervised however it goes. -/
theorem startServices_watched {supervisor : Supervisor} (own : supervisor.group = some group)
    (w : World) :
    (startServices supervisor run services).Yields w
      (fun _ => R (w.spawnAwaited group (watcherTask run)).2)
      fun _ => R (w.spawnAwaited group (watcherTask run)).2 := by
  simp only [startServices, own, yields_tryCatch, yields_bind, yields_change, yields_throw]
  -- If supervising halts, the group is dropped before the halt goes on.
  exact (supervise_watched lasts supervisor.settings w).mono (fun _ _ kept => kept)
    fun _ _ kept => lasts.trans kept (lasts.does (.drops _))

end Parts

/-- Without a group nothing happens. -/
theorem run_startServices_none {supervisor : Supervisor} (own : supervisor.group = none)
    (services : List Placed) (w : World) :
    (startServices supervisor run services).run w = (.error (.panicked notPrepared), w) := by
  simp only [startServices, own]
  rfl

/-- What lasts through all that is done while services are supervised, and holds when the watcher of
the run is spawned, holds between the two ends of the whole, however that goes. -/
theorem startServices_within (lasts : ∀ group, Lasting (Tends group run services) R)
    (watches : ∀ group w, R w (w.spawnAwaited group (watcherTask run)).2)
    (supervisor : Supervisor) :
    (startServices supervisor run services).Within R := by
  intro w
  -- Without a group the call panics before it does anything.
  cases own : supervisor.group with
  | none =>
    unfold Yields
    rw [run_startServices_none own]
    exact (lasts 0).refl w
  | some group =>
    have watched : R w (w.spawnAwaited group (watcherTask run)).2 := watches group w
    exact (startServices_watched (lasts group) own w).mono (fun _ _ => (lasts group).trans watched)
      fun _ _ => (lasts group).trans watched

end Flow

end Warden.Supervision
