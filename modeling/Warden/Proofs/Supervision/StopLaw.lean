import Warden.Proofs.Supervision.Launching
import Warden.Proofs.Supervision.Stopping

/-!
The law of stops: what is stopped has started in time, in reverse order, and only once everything is
launched and the run is cancelled.
-/

namespace Warden.Supervision

/-- Services that are all different are stopped once each. -/
theorem StopAct.nodup_course {services : List Placed} (distinct : services.Nodup) :
    (course services).Nodup := by
  -- By induction on the services: the two acts of the first are none of the others.
  have acts : ∀ (service : Placed) (services : List Placed),
      (.begins service ∈ course services ↔ service ∈ services) ∧
        (.ends service ∈ course services ↔ service ∈ services) :=
    fun service services => by simp [course, List.mem_flatMap]
  induction services with
  -- Both acts of the first service name it, and it is none of the others.
  | nil => exact .nil
  | cons service rest ih =>
    obtain ⟨fresh, distinct⟩ := List.nodup_cons.mp distinct
    have step : course (service :: rest) = .begins service :: .ends service :: course rest := rfl
    rw [step, List.nodup_cons, List.nodup_cons, List.mem_cons, (acts service rest).1,
      (acts service rest).2]
    exact ⟨by simpa using fresh, fresh, ih distinct⟩

namespace Trace

/-- What a supervised run leaves in the trace, however it ends. What counts as started reported
before its deadline, in the order of the list. Stops follow the course of stopping that in reverse,
each ending before the next begins, and none of them is repeated. And a stop begins only when every
service has been launched, every race is resolved and somebody has called for the cancellation of
the run. -/
structure StopsLawfully (limit : Nat) (services : List Placed) (run : RunId)
    (trace before : Trace) : Prop where
  order : trace.started.Sublist services
  won : ∀ service ∈ trace.started, ∃ launch up, ⟨launch, .launched service⟩ ∈ trace ∧
    ⟨up, .deed (.up service)⟩ ∈ trace ∧ up < launch + limit
  stops : trace.stopActs <+: StopAct.course trace.started.reverse
  once : trace.stopActs.Nodup
  after : ∀ done time service rest, trace = done ++ ⟨time, .deed (.stop service)⟩ :: rest →
    (∀ other ∈ services, (∃ launch, ⟨launch, .launched other⟩ ∈ done) ∧
      ∃ end_ outcome, ⟨end_, .count (.start other outcome)⟩ ∈ done) ∧
        ((before ++ done).firstCall run).isSome = true

/-- What a supervised run that returns leaves in the trace: what reported in time is what counts as
started, and all of it has been stopped. -/
structure StopsAll (limit : Nat) (services : List Placed) (trace : Trace) : Prop where
  launched : ∀ service ∈ services, ∃ launch, ⟨launch, .launched service⟩ ∈ trace
  timely : ∀ service launch, ⟨launch, .launched service⟩ ∈ trace →
    (service ∈ trace.started ↔ ∃ up, up < launch + limit ∧ ⟨up, .deed (.up service)⟩ ∈ trace)
  stopped : trace.stopActs = StopAct.course trace.started.reverse

variable {limit : Nat} {services : List Placed} {run : RunId} {before trace later : Trace}

/-- Where nothing is stopped the law of stops holds of what was won. -/
theorem Racing.stopsLawfully (racing : trace.Racing limit services) :
    trace.StopsLawfully limit services run before where
  order := racing.order
  won := racing.won
  stops := by
    rw [racing.unstopped]
    exact List.nil_prefix
  once := by
    rw [racing.unstopped]
    exact .nil
  after := by
    intro done time service rest split
    have member : (⟨time, .deed (.stop service)⟩ : Stamped) ∈ trace := by simp [split]
    -- A stop would be one of the acts of stopping, of which there are none yet.
    have begun := begins_mem_stopActs member
    rw [racing.unstopped] at begun
    cases begun

/-- Races that were all resolved stay so while nothing is a milestone and late starts report
late. -/
theorem Raced.append (raced : trace.Raced limit services)
    (silent : ∀ stamped ∈ later, stamped.event.milestone? = none)
    (late : ∀ service launch up, ⟨launch, .launched service⟩ ∈ trace →
      ⟨up, .deed (.up service)⟩ ∈ later → launch + limit ≤ up) :
    (trace ++ later).Raced limit services := by
  -- What is later holds no launch and no count, and what it reports it reports too late to matter.
  have started : (trace ++ later).started = trace.started := by
    rw [started_append, started_of_silent silent, List.append_nil]
  have earlier : ∀ {service launch}, ⟨launch, .launched service⟩ ∈ trace ++ later →
    ⟨launch, .launched service⟩ ∈ trace :=
    fun launched => (List.mem_append.mp launched).resolve_right fun member =>
      Option.some_ne_none _ (silent _ member)
  refine {
    launched := fun service member => (raced.launched service member).imp fun _ launched =>
      List.mem_append_left _ launched
    resolved := fun service member =>
      (raced.resolved service member).imp fun _ => Exists.imp fun _ counted =>
        List.mem_append_left _ counted
    only := fun service time launched => raced.only service time (earlier launched)
    order := started ▸ raced.order
    timely := fun service launch launched => ?_
    unstopped := by
      -- An event that is no milestone is no act of a stop.
      rw [stopActs_append, raced.unstopped, stopActs_of_silent silent, List.append_nil] }
  rw [started, raced.timely service launch (earlier launched)]
  refine exists_congr fun up => and_congr_right fun timely => ?_
  rw [List.mem_append, or_iff_left fun reported => ?_]
  -- Nothing that is reported after the race is in time.
  exact Nat.not_le.mpr timely (late service launch up (earlier launched) reported)

/-- Stops that follow races which are all resolved, in a run that is cancelled, keep the law. -/
theorem Raced.stopsLawfully (raced : trace.Raced limit services) (distinct : services.Nodup)
    (called : ((before ++ trace).firstCall run).isSome = true) (unlaunched : later.Unlaunched)
    (begun : later.stopActs <+: StopAct.course trace.started.reverse) :
    (trace ++ later).StopsLawfully limit services run before := by
  -- All that the races left comes before the first stop, and so does the call that cancelled the
  -- run.
  have started : (trace ++ later).started = trace.started := by
    rw [started_append, unlaunched.started, List.append_nil]
  have stopActs : (trace ++ later).stopActs = later.stopActs := by
    rw [stopActs_append, raced.unstopped, List.nil_append]
  refine {
    order := started ▸ raced.order
    won := fun service member => ?_
    stops := by rwa [started, stopActs]
    once := ?_
    after := fun done time service rest split => ?_ }
  -- What the race says of the winners is said of the longer trace as well.
  · obtain ⟨launch, up, launched, reported, timely⟩ := raced.racing.won service (started ▸ member)
    exact ⟨launch, up, List.mem_append_left _ launched, List.mem_append_left _ reported, timely⟩
  -- The services started are a part of all, of which none is there twice; so are the acts that have
  -- begun.
  · rw [stopActs]
    have unrepeated := (List.reverse_perm _).nodup_iff.mpr (distinct.sublist raced.order)
    exact (StopAct.nodup_course unrepeated).sublist begun.sublist
  · -- The stop is none of the events before stopping began, so that all of these come before it.
    obtain ⟨more, rfl⟩ : ∃ more, done = trace ++ more := by
      rcases List.append_eq_append_iff.mp split with ⟨more, same, _⟩ | ⟨more, same, rest'⟩
      · exact ⟨more, same⟩
      · cases more with
        | nil => exact ⟨[], by simpa using same.symm⟩
        | cons first more =>
          obtain ⟨rfl, _⟩ := List.cons_eq_cons.mp rest'
          have member : (⟨time, .deed (.stop service)⟩ : Stamped) ∈ trace := by simp [same]
          have stopped := begins_mem_stopActs member
          rw [raced.unstopped] at stopped
          cases stopped
    refine ⟨fun other member => ⟨?_, ?_⟩, ?_⟩
    -- All launches and their ends lie before the first stop.
    · exact (raced.launched other member).imp fun _ launched => List.mem_append_left _ launched
    · exact (raced.resolved other member).imp fun _ => Exists.imp fun _ counted =>
        List.mem_append_left _ counted
    -- The first call was made before stopping began, so that it is the first one of every longer
    -- trace.
    · obtain ⟨call, first⟩ := Option.isSome_iff_exists.mp called
      rw [← List.append_assoc, World.firstCall_of_prefix first]
      rfl

/-- Stops that come to their end stop everything that started, and no start reports any more. -/
theorem Raced.stopsAll (raced : trace.Raced limit services) (unlaunched : later.Unlaunched)
    (unheard : ∀ service time, (⟨time, .deed (.up service)⟩ : Stamped) ∉ later)
    (ended : later.stopActs = StopAct.course trace.started.reverse) :
    (trace ++ later).StopsAll limit services := by
  -- While services are stopped nothing is launched and nothing reports, so that the races stand as
  -- they were.
  have started : (trace ++ later).started = trace.started := by
    rw [started_append, unlaunched.started, List.append_nil]
  refine {
    launched := fun service member => (raced.launched service member).imp fun _ launched =>
      List.mem_append_left _ launched
    timely := fun service launch launched => ?_
    stopped := by rw [stopActs_append, raced.unstopped, List.nil_append, started, ended] }
  -- A launch after the race is none: what follows it launches nobody.
  have earlier :=
    (List.mem_append.mp launched).resolve_right (unlaunched.not_launched service launch)
  rw [started, raced.timely service launch earlier]
  refine exists_congr fun up => and_congr_right fun _ => ?_
  rw [List.mem_append, or_iff_left (unheard service up)]

end Trace

end Warden.Supervision
