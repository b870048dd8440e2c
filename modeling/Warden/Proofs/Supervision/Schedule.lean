import Warden.Proofs.Supervision.Fate
import Warden.Proofs.Supervision.Launching

/-!
The schedule of launches: it follows from what the starts do by themselves, whoever cancels the run
and whenever.
-/

namespace Warden.Supervision

/-- After how many milliseconds the race of a start with this fate is resolved, and how, if its
deadline is so far away. -/
def Fate.verdict (limit : Nat) : Fate → Nat × Launched
  | some (taken, outcome) =>
    if taken < limit then if outcome =
      .done then (taken, .started) else (limit, .failed) else (limit, .timedOut)
  | none => (limit, .timedOut)

/-- The verdict on the start of a service. -/
def Placed.verdict (limit : Nat) (service : Placed) : Nat × Launched :=
  service.service.start.fate.verdict limit

/-- The launches of services and the ends of their races, if the first is launched now and each
later one when the race before it is resolved. -/
def schedule (limit : Nat) : Nat → List Placed → List (Nat × Milestone)
  | _, [] => []
  | now, service :: rest =>
    let (taken, outcome) := service.verdict limit
    (now, .launched service) :: (now + taken, .resolved service outcome) ::
      schedule limit (now + taken) rest

/-- What a fate says by the clock is what it says after that time. -/
theorem Fate.after_eq_some {fate : Fate} {first time : Nat} {outcome : Outcome} :
    fate.after first = some (time, outcome) ↔ ∃ taken, fate = some (taken, outcome) ∧
      time = first + taken := by
  -- Without an end there is no time of it, and otherwise its time is the taken one later.
  cases fate with
  | none => simp [after]
  | some ends =>
    obtain ⟨taken, how⟩ := ends
    simp only [after, Option.map_some, Option.some.injEq, Prod.mk.injEq]
    constructor
    · rintro ⟨rfl, rfl⟩
      exact ⟨taken, ⟨rfl, rfl⟩, rfl⟩
    · rintro ⟨_, ⟨rfl, rfl⟩, rfl⟩
      exact ⟨rfl, rfl⟩

/-- A start that has not ended when its race is over is none that could have been resolved before
its deadline. -/
theorem Fate.verdict_of_missed {fate : Fate} {limit first now horizon : Nat}
    (reached : first + limit ≤ now ∨ horizon ≤ now)
    (later : ∀ time outcome, fate.after first = some (time, outcome) → now ≤ time)
    (room : first + (fate.verdict limit).1 < horizon) :
    fate.verdict limit = (limit, .timedOut) ∧ first + limit ≤ now := by
  cases fate with
  | none =>
    simp only [verdict] at room
    exact ⟨rfl, by omega⟩
  | some ends =>
    obtain ⟨taken, outcome⟩ := ends
    -- Nothing has ended by now, so that the end is no earlier than the deadline or the horizon.
    have after : now ≤ first + taken := later _ outcome (after_eq_some.mpr ⟨taken, rfl, rfl⟩)
    by_cases timely : taken < limit
    · -- The horizon would have been reached although there was room.
      simp only [verdict, if_pos timely] at room
      split at room <;> dsimp only at room <;> omega
    · simp only [verdict, if_neg timely] at room ⊢
      exact ⟨trivial, by omega⟩

namespace World

variable {group : GroupId} {run : RunId} {w w' : World}

/-- A start that has just been spawned is on its way to its fate. -/
theorem launching_onCourse {service : Placed}
    (own : ∀ step ∈ service.service.start, step.isSelfTimed = true) :
    (w.launching group run service).OnCourse service w.tasks.length
      (service.service.start.fate.after w.now) := by
  refine .inr ⟨startTask run service, ?_, rfl, rfl, .inl ⟨rfl, own, ?_, rfl⟩⟩
  · rw [task?_launching, if_pos rfl]
  · exact List.mem_append_right _ (List.mem_singleton_self _)

/-- Whatever happens in between, tasks stay what they were spawned for. -/
theorem Passes.duties (passes : Passes w w') : w'.tasks.map Task.duty = w.tasks.map Task.duty := by
  -- No task is added, and each that there is keeps its duty.
  refine List.ext_getElem? fun id => ?_
  simp only [List.getElem?_map]
  cases found : w.tasks[id]? with
  | none =>
    have beyond : w'.tasks[id]? = none := by
      rw [List.getElem?_eq_none_iff] at found ⊢
      rwa [passes.count]
    rw [beyond]
  | some task =>
    obtain ⟨task', found', continues⟩ := passes.own id task found
    -- The task is there on both sides, and going on does not change what it is there for.
    rw [show w'.tasks[id]? = some task' from found', Option.map_some, Option.map_some,
      continues.duty]

end World

namespace Flow

open World

variable {group : GroupId} {run : RunId} {deadline : Duration} {w : World}

/-- The race of a start that is on course ends when the start does, or at its deadline. -/
theorem race_onCourse {service : Placed} {id : TaskId} {fate : Fate} {due : Nat}
    (course : w.OnCourse service id fate) (unended : w.isEnded id = false) (early : w.now ≤ due) :
    (race id due).Yields w
      (fun ended w' => w'.exited = none ∧ w'.now ≤ due ∧
        (ended = true → w'.now < due ∧ ∃ outcome, fate = some (w'.now, outcome) ∧
          (w'.endedWell id = true ↔ outcome = .done)) ∧
        (ended = false → (due ≤ w'.now ∨ w.horizon ≤ w'.now) ∧
          ∀ time outcome, fate = some (time, outcome) → w'.now ≤ time))
      fun _ w' => w'.exited.isSome := by
  -- On course, the start has ended as its fate says, or what it waits for has not come yet.
  simp only [race, yields_bind, yields_change, yields_pure]
  refine pause_yields (fun w' beats going unmet => ?_) fun w' code _ gone => by simp [gone]
  have limit : ({ w with awaiting := some id } : World).limit (some due) = min due w.horizon := rfl
  rw [limit] at beats unmet
  have atMost : w'.now ≤ max w.now (min due w.horizon) := beats.now_le
  have noted : ({ w with awaiting := some id } : World).OnCourse service id fate := course
  have soon : w'.now ≤ due := by omega
  refine ⟨going, soon, fun met => ?_, fun missed => ⟨?_, fun time outcome ends => ?_⟩⟩
  -- The goal was met in a turn, and turns come before the alarm.
  · have soon : w'.now < min due w.horizon :=
      beats.met_early (fun w w' tasks => by simp only [isEnded, task?, tasks])
        (fun met => absurd (unended.symm.trans met) (by simp)) met
    refine ⟨Nat.lt_of_lt_of_le soon (Nat.min_le_left _ _), ?_⟩
    -- By its course the start has not ended yet, or as its fate says.
    rcases noted.beats beats with gone | ⟨task, found, _, _, ⟨live, _⟩ | ⟨outcome, ends, _, well⟩⟩
    · simp [going] at gone
    · simp [isEnded, found, live] at met
    · refine ⟨outcome, ends, ?_⟩
      have found' : ({ w' with awaiting := none } : World).task? id = some task := found
      simpa [endedWell, found'] using well
  · have reached : due ≤ w'.now ∨ w.horizon ≤ w'.now := by
      have := unmet missed
      omega
    exact reached
  -- What has not ended by now ends no earlier.
  · rcases noted.beats beats with gone | ⟨task, found, _, _, ⟨_, _, stands⟩ | ⟨_, _, ended, _⟩⟩
    · simp [going] at gone
    · exact stands.now_le ends
    · simp [isEnded, found, ended] at missed

/-- A race that ends as the fate of its start says is resolved as the verdict says. -/
theorem resolve_onSchedule {service : Placed} {id : TaskId} {fate : Fate} {limit first : Nat}
    {ended : Bool} (going : w.exited = none) (soon : w.now ≤ first + limit)
    (met : ended = true → w.now < first + limit ∧ ∃ outcome,
      fate.after first = some (w.now, outcome) ∧ (w.endedWell id = true ↔ outcome = .done))
    (missed : ended = false → (first + limit ≤ w.now ∨ w.horizon ≤ w.now) ∧ ∀ time outcome,
      fate.after first = some (time, outcome) → w.now ≤ time)
    (room : first + (fate.verdict limit).1 < w.horizon) :
    (resolve run service deadline (first + limit) id ended).Yields w
      (fun outcome w' => w'.exited = none ∧ w'.now = first + (fate.verdict limit).1 ∧
        outcome = (fate.verdict limit).2)
      fun _ w' => w'.exited.isSome := by
  unfold resolve
  -- A race that is met was decided by the fate of its start, and one that is missed by the
  -- deadline.
  cases ended with
  | true =>
    obtain ⟨early, outcome, ends, well⟩ := met rfl
    obtain ⟨taken, rfl, same⟩ := Fate.after_eq_some.mp ends
    -- It has ended before the deadline, so that its outcome decides.
    have timely : taken < limit := by omega
    simp only [if_true, yields_bind, yields_look, Fate.verdict, if_pos timely] at room ⊢
    split
    · rename_i done
      simp only [if_pos (well.mp done), yields_pure]
      exact ⟨going, same, trivial⟩
    · rename_i undone
      -- It has ended otherwise, and is held until the deadline.
      have failed : outcome ≠ .done := fun done => undone (well.mpr done)
      simp only [if_neg failed] at room ⊢
      refine (holdFailed_yields service).mono ?_ ?_
      · rintro _ w' ⟨rfl, _, going', reached, atMost, _⟩
        exact ⟨going', by omega, rfl⟩
      · rintro halt w' ⟨passes, ⟨code, _, gone⟩ | ⟨_, reached, before⟩⟩
        · simp [gone]
        · rw [passes.horizon] at reached
          omega
  | false =>
    obtain ⟨reached, later⟩ := missed rfl
    -- It has not ended by the deadline, whatever its fate is, and is given up there.
    obtain ⟨same, past⟩ := Fate.verdict_of_missed reached later room
    simp only [Bool.false_eq_true, if_false, yields_bind, yields_look, isPast, Option.any_some,
      decide_eq_true_eq,
      if_pos past, same]
    refine (giveUp_yields service deadline).mono ?_ fun _ _ halt => halt
    rintro _ w' ⟨rfl, acts, still, _⟩
    exact ⟨still.trans going, by rw [acts.now]; omega, rfl⟩

/-- A launch whose start waits for nobody else is resolved as the verdict says. -/
theorem launch_onSchedule {service : Placed}
    (own : ∀ step ∈ service.service.start, step.isSelfTimed = true)
    (shown : isBeyondClock w.now deadline = false)
    (room : w.now + (service.verdict deadline.ceilMillis).1 < w.horizon) :
    (launch group run service deadline).Yields w
      (fun outcome w' => w'.exited = none ∧
        w'.now = w.now + (service.verdict deadline.ceilMillis).1 ∧
        outcome = (service.verdict deadline.ceilMillis).2)
      fun _ w' => w'.exited.isSome := by
  simp only [launch, yields_bind, yields_answer, yields_emit, yields_look]
  split
  -- The clock can show the deadline, by assumption.
  · rename_i beyond
    exact absurd (shown.symm.trans beyond) (by simp)
  · -- The race ends as the fate of the start says, and is resolved accordingly.
    rw [yields_bind]
    have raced := (race_within (steady_passes.attends run service deadline w.tasks.length)
        (w.now + deadline.ceilMillis) (w.launching group run service)).and
      (race_onCourse (launching_onCourse own) (unended_launching service)
        (Nat.le_add_right w.now deadline.ceilMillis))
    refine raced.mono ?_ fun _ _ halted => halted.2
    rintro ended w₁ ⟨passes, going, soon, met, missed⟩
    have horizon : w₁.horizon = w.horizon := passes.horizon
    refine resolve_onSchedule going soon met (fun missed' => ?_) (horizon.symm ▸ room)
    exact ⟨(missed missed').1.imp_right fun reached => horizon.symm ▸ reached, (missed missed').2⟩

/-- What the launch loop leaves behind if it keeps the schedule: its milestones, the services that
are kept, and the tasks that were spawned. None of that depends on a cancellation. -/
structure OnSchedule (limit : Nat) (services : List Placed) (w w' : World) : Prop where
  milestones : w'.trace.milestones = w.trace.milestones ++ schedule limit w.now services
  started : w'.started = w.started ++ services.filter fun service =>
    (service.verdict limit).2 = .started
  duties : w'.tasks.map Task.duty = w.tasks.map Task.duty ++ services.map Duty.start

/-- A loop whose starts wait for nobody else keeps the schedule, unless the process is gone. -/
theorem startAll_onSchedule (services : List Placed)
    (own : ∀ service ∈ services, ∀ step ∈ service.service.start, step.isSelfTimed = true)
    (shown : ∀ time service, (time, .launched service) ∈
      schedule deadline.ceilMillis w.now services → isBeyondClock time deadline = false)
    (room : ∀ entry ∈ schedule deadline.ceilMillis w.now services, entry.1 < w.horizon) :
    (startAll group run deadline services).Yields w
      (fun _ w' => OnSchedule deadline.ceilMillis services w w')
      fun _ w' => w'.exited.isSome := by
  -- By induction on the services: the schedule of the rest begins where the verdict resolves the
  -- first race.
  induction services generalizing w with
  | nil => exact ⟨(List.append_nil _).symm, (List.append_nil _).symm, (List.append_nil _).symm⟩
  | cons service rest ih =>
    obtain ⟨ownFirst, ownRest⟩ := List.forall_mem_cons.mp own
    -- The first launch takes as long as its verdict says, and the others are scheduled from there.
    have step : schedule deadline.ceilMillis w.now (service :: rest) =
        (w.now, .launched service) ::
          (w.now + (service.verdict deadline.ceilMillis).1,
            .resolved service (service.verdict deadline.ceilMillis).2) ::
            schedule deadline.ceilMillis (w.now + (service.verdict deadline.ceilMillis).1) rest :=
              rfl
    rw [step] at shown room
    have launched : (launch group run service deadline).Yields w _ _ :=
      (launch_within (steady_passes.attends _ _ _ _)).and
      (launch_onSchedule ownFirst (shown _ _ List.mem_cons_self)
        (room _ (List.mem_cons_of_mem _ List.mem_cons_self)))
    simp only [startAll, yields_bind]
    refine launched.mono ?_ fun _ _ halted => halted.2
    rintro outcome w₁ ⟨passes, going, now, same⟩
    refine (book_yields service outcome).mono ?_ fun _ _ gone => gone
    rintro _ w₂ ⟨booked, quiet, rfl⟩
    have horizon : w₁.horizon = w.horizon := passes.horizon
    -- The rest has its times in the same schedule, so that they are shown and there is room for
    -- them.
    refine (ih ownRest (fun time other listed => shown time other ?_) fun entry listed => ?_).mono
      ?_ fun _ _ gone => gone
    · exact List.mem_cons_of_mem _ (List.mem_cons_of_mem _ (now ▸ listed))
    · exact horizon ▸ room entry (List.mem_cons_of_mem _ (List.mem_cons_of_mem _ (now ▸ listed)))
    · rintro _ w₃ others
      -- Neither the race nor the booking is a milestone, apart from the outcome.
      have silent : Trace.milestones booked = [] :=
        Trace.milestones_of_silent fun stamped member =>
          Event.milestone?_of_isQuiet (quiet stamped member).2.1
      have before : w₁.trace.milestones = w.trace.milestones ++ [(w.now, .launched service)] := by
        rw [passes.follows.milestones, trace_launching, Trace.milestones_append]
        rfl
      have counted : Trace.milestones (⟨w₁.now, .count (.start service outcome)⟩ :: booked) =
          (w₁.now, .resolved service outcome) :: Trace.milestones booked := rfl
      -- Milestones, kept services and spawned tasks, each continued by those of the rest.
      refine ⟨?_, ?_, ?_⟩
      · rw [others.milestones, Trace.milestones_append, before, counted, silent, step, now, same,
          List.append_assoc, List.append_assoc]
        rfl
      · have kept : w₁.started = w.started := passes.started
        rw [others.started, kept, same, List.filter_cons, List.append_assoc]
        split <;> simp_all
      · rw [others.duties, show List.map Task.duty w₁.tasks = _ from passes.duties]
        simp [launching, spawnDetached, spawn, changeGroup, startTask]

/-- The launch schedule: if no start waits for anybody else, the clock can show each deadline, and
the process goes on for long enough, all services are launched in order, each as soon as the race
before it is resolved, and every race is resolved as the verdict says. The world is arbitrary, so
that it does not matter whether the run is cancelled, when, or by whom. -/
theorem startAll_keeps_schedule {services : List Placed} {result : Except Halt Unit} {w' : World}
    (ran : (startAll group run deadline services).run w = (result, w')) (going : w'.exited = none)
    (own : ∀ service ∈ services, ∀ step ∈ service.service.start, step.isSelfTimed = true)
    (shown : ∀ time service, (time, .launched service) ∈
      schedule deadline.ceilMillis w.now services → isBeyondClock time deadline = false)
    (room : ∀ entry ∈ schedule deadline.ceilMillis w.now services, entry.1 < w.horizon) :
    result = .ok () ∧ OnSchedule deadline.ceilMillis services w w' := by
  have yields : (startAll group run deadline services).Yields w _ _ :=
    startAll_onSchedule services own shown room
  have ends := yields.of_run ran
  -- A loop that halts does so because the process is gone, which it is not.
  cases result with
  | ok _ => exact ⟨rfl, ends.1 () rfl⟩
  | error halt =>
    have gone := ends.2 halt rfl
    simp [going] at gone

/-- Services whose starts succeed, fail, panic, end just at their deadline, and never end. -/
def medley : List Placed :=
  placed [⟨"store", [.sleep 3], []⟩, ⟨"feed", [.yield, .sleep 2, .fail "refused"], []⟩,
    ⟨"index", [.panic .opaqueValue], []⟩,
    ⟨"api", [.sleep 10], []⟩, ⟨"probe", [.hang], []⟩, ⟨"gate", [], []⟩]

/-- A world with a run and its group, and a second of time. -/
def bareWorld : World :=
  { horizon := 1000, runs := [{}], groups := [{ run := 0 }] }

/-- Where the launches of these services end there. -/
def medleyEnd : World :=
  ((startAll 0 0 (.ofMillis 10) medley).run bareWorld).2

/-- Each of these starts comes to its verdict, and the launches to their schedule. -/
theorem medley_keeps_schedule :
    medley.map (·.verdict 10) =
        [(3, .started), (10, .failed), (10, .failed), (10, .timedOut), (10, .timedOut),
          (0, .started)] ∧
      (.ok () : Except Halt Unit) = .ok () ∧
        OnSchedule (Duration.ofMillis 10).ceilMillis medley bareWorld medleyEnd := by
  have ran : (startAll 0 0 (.ofMillis 10) medley).run bareWorld = (.ok (), medleyEnd) :=
    run_of_result (by decide +kernel)
  have shown : ∀ entry ∈ schedule (Duration.ofMillis 10).ceilMillis bareWorld.now medley,
      isBeyondClock entry.1 (.ofMillis 10) = false := by decide +kernel
  exact ⟨by decide +kernel, startAll_keeps_schedule ran (by decide +kernel) (by decide +kernel)
    (fun time service member => shown (time, .launched service) member) (by decide +kernel)⟩

end Flow

end Warden.Supervision
