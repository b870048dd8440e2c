import Warden.Proofs.Supervision.Supervised

/-!
The launch loop: every service is launched and its race resolved, and those that report in time are
kept in order.
-/

namespace Warden.Supervision

/-- What booking a launch writes: its count, and of a service that is kept, after so many others,
that it has started. -/
def Placed.booking (service : Placed) (outcome : Launched) (kept : Nat) : List Event :=
  .count (.start service outcome) ::
    if outcome =
      .started then [.notice .main (.serviceStarted service), .running (kept + 1)] else []

/-- The world in which a launch has been booked. -/
def World.booking (service : Placed) (outcome : Launched) (w : World) : World :=
  { w with
    started := w.started ++ if outcome = .started then [service] else []
    trace := w.trace ++ (service.booking outcome w.started.length).map (Stamped.mk w.now) }

/-- What the launch loop leaves in the trace, however far it came: nothing is stopped, and the
services that count as started did start before their deadlines, in the order of the list. -/
structure Trace.Racing (limit : Nat) (services : List Placed) (trace : Trace) : Prop where
  order : trace.started.Sublist services
  won : ∀ service ∈ trace.started, ∃ launch up, ⟨launch, .launched service⟩ ∈ trace ∧
    ⟨up, .deed (.up service)⟩ ∈ trace ∧ up < launch + limit
  unstopped : trace.stopActs = []

/-- What the launch loop leaves in the trace when it comes to its end. -/
structure Trace.Raced (limit : Nat) (services : List Placed) (trace : Trace) : Prop where
  launched : ∀ service ∈ services, ∃ time, ⟨time, .launched service⟩ ∈ trace
  resolved : ∀ service ∈ services, ∃ time outcome, ⟨time, .count (.start service outcome)⟩ ∈ trace
  only : ∀ service time, ⟨time, .launched service⟩ ∈ trace → service ∈ services
  order : trace.started.Sublist services
  timely : ∀ service launch, ⟨launch, .launched service⟩ ∈ trace →
    (service ∈ trace.started ↔ ∃ up, up < launch + limit ∧ ⟨up, .deed (.up service)⟩ ∈ trace)
  unstopped : trace.stopActs = []

namespace Trace

variable {limit : Nat} {service : Placed} {services rest : List Placed} {trace before after : Trace}

/-- A trace of launches that all came out is one that may be cut anywhere. -/
theorem Raced.racing (raced : trace.Raced limit services) : trace.Racing limit services where
  order := raced.order
  won := by
    intro service started
    obtain ⟨launch, launched⟩ := raced.launched service (raced.order.subset started)
    obtain ⟨up, timely, reported⟩ := (raced.timely service launch launched).mp started
    exact ⟨launch, up, launched, reported, timely⟩
  unstopped := raced.unstopped

/-- A loop that has no service left leaves nothing. -/
theorem raced_nil (limit : Nat) : Raced limit [] [] where
  only := fun service time launched => absurd launched List.not_mem_nil
  launched := by simp
  resolved := by simp
  order := .slnil
  timely := by simp
  unstopped := rfl

/-- The loop goes on from one service to the rest, which hear no more of the first in time. -/
theorem Raced.cons (first : before.Raced limit [service]) (others : after.Raced limit rest)
    (fresh : service ∉ rest)
    (unheard : ∀ other ∈ rest, ∀ time, (⟨time, .deed (.up other)⟩ : Stamped) ∉ before)
    (late : ∀ launch, ⟨launch, .launched service⟩ ∈ before →
      ∀ time, ⟨time, .deed (.up service)⟩ ∈ after → launch + limit ≤ time) :
    (before ++ after).Raced limit (service :: rest) where
  launched := by
    intro other member
    -- Either the service was launched first or it is one of the rest, here and in what follows.
    rcases List.mem_cons.mp member with rfl | member
    · obtain ⟨time, launched⟩ := first.launched other (List.mem_singleton_self other)
      exact ⟨time, List.mem_append_left _ launched⟩
    · obtain ⟨time, launched⟩ := others.launched other member
      exact ⟨time, List.mem_append_right _ launched⟩
  resolved := by
    intro other member
    rcases List.mem_cons.mp member with rfl | member
    · obtain ⟨time, outcome, resolved⟩ := first.resolved other (List.mem_singleton_self other)
      exact ⟨time, outcome, List.mem_append_left _ resolved⟩
    · obtain ⟨time, outcome, resolved⟩ := others.resolved other member
      exact ⟨time, outcome, List.mem_append_right _ resolved⟩
  only := by
    intro other time launched
    rcases List.mem_append.mp launched with early | late
    · exact List.mem_singleton.mp (first.only other time early) ▸ List.mem_cons_self
    · exact List.mem_cons_of_mem _ (others.only other time late)
  order := by
    rw [started_append]
    exact first.order.append others.order
  timely := by
    intro other launch launched
    rw [started_append, List.mem_append]
    rcases List.mem_append.mp launched with early | afterwards
    · -- The service that was launched first is none of the rest.
      cases List.mem_singleton.mp (first.only other launch early)
      have unstarted : service ∉ after.started := fun started => fresh (others.order.subset started)
      rw [or_iff_left unstarted, first.timely service launch early]
      refine exists_congr fun up => and_congr_right fun timely => ?_
      -- A report of it among the others would come too late.
      rw [List.mem_append, or_iff_left fun reported => ?_]
      exact Nat.not_le.mpr timely (late launch early up reported)
    · -- Whatever was launched later is another service, of which nothing was heard before.
      have member := others.only other launch afterwards
      have different : other ≠ service := fun same => fresh (same ▸ member)
      have unstarted : other ∉ before.started := fun started =>
        different (List.mem_singleton.mp (first.order.subset started))
      rw [or_iff_right unstarted, others.timely other launch afterwards]
      refine exists_congr fun up => and_congr_right fun _ => ?_
      rw [List.mem_append, or_iff_right (unheard other member up)]
  -- Neither part holds an act of a stop.
  unstopped := by rw [stopActs_append, first.unstopped, others.unstopped, List.append_nil]

/-- A loop that halts among the rest has still won what it has won. -/
theorem Racing.cons (first : before.Racing limit [service]) (others : after.Racing limit rest) :
    (before ++ after).Racing limit (service :: rest) where
  order := by
    rw [started_append]
    exact first.order.append others.order
  won := by
    intro other started
    rw [started_append, List.mem_append] at started
    -- What was won was won in the first race or in one of the others.
    rcases started with early | late
    · obtain ⟨launch, up, launched, reported, timely⟩ := first.won other early
      exact ⟨launch, up, List.mem_append_left _ launched, List.mem_append_left _ reported, timely⟩
    · obtain ⟨launch, up, launched, reported, timely⟩ := others.won other late
      exact ⟨launch, up, List.mem_append_right _ launched, List.mem_append_right _ reported, timely⟩
  unstopped := by rw [stopActs_append, first.unstopped, others.unstopped, List.append_nil]

/-- A loop that halts in a race of which no milestone is left has won nothing. -/
theorem racing_of_silent (started : trace.started = []) (unstopped : trace.stopActs = []) :
    trace.Racing limit services where
  order := by
    rw [started]
    exact List.nil_sublist _
  won := by
    rw [started]
    simp
  unstopped := unstopped

/-- The trace of one round of the loop: a launch, its race, and how it was booked. -/
def round (launch : Nat) (service : Placed) (race : Trace) (end_ : Nat) (outcome : Launched)
    (booked : Trace) : Trace :=
  ⟨launch, .launched service⟩ :: (race ++ ⟨end_, .count (.start service outcome)⟩ :: booked)

variable {launch end_ : Nat} {outcome : Launched} {race booked : Trace}

/-- A round comes in four parts. -/
theorem round_eq : round launch service race end_ outcome booked =
    [⟨launch, .launched service⟩] ++
      (race ++ ([⟨end_, .count (.start service outcome)⟩] ++ booked)) := rfl

/-- A round in which nothing else is a milestone keeps its service exactly if it counts as
started. -/
theorem started_round (silent : ∀ stamped ∈ race, stamped.event.milestone? = none)
    (quiet : ∀ stamped ∈ booked, stamped.event.milestone? = none) :
    (round launch service race end_ outcome booked).started = if outcome =
      .started then [service] else [] := by
  have own : started [⟨launch, .launched service⟩] = [] := rfl
  have counted : started [⟨end_, .count (.start service outcome)⟩] = if outcome =
    .started then [service] else [] := by
    cases outcome <;> rfl
  -- Of the four parts of the round only the count can be such a milestone.
  rw [round_eq, started_append, started_append, started_append, own, counted,
    started_of_silent silent,
    started_of_silent quiet]
  simp

/-- A round stops nothing. -/
theorem stopActs_round (silent : ∀ stamped ∈ race, stamped.event.milestone? = none)
    (quiet : ∀ stamped ∈ booked, stamped.event.milestone? = none) :
    (round launch service race end_ outcome booked).stopActs = [] := by
  rw [round_eq, stopActs_append, stopActs_append, stopActs_append, stopActs_of_silent silent,
    stopActs_of_silent quiet]
  rfl

/-- The launch is the first thing that a round leaves, and no other one. -/
theorem launched_mem_round {other : Placed} {time : Nat}
    (silent : ∀ stamped ∈ race, stamped.event.milestone? = none)
    (quiet : ∀ stamped ∈ booked, stamped.event.milestone? = none)
    (launched : ⟨time, .launched other⟩ ∈ round launch service race end_ outcome booked) :
    time = launch ∧ other = service := by
  -- Neither the race nor the booking of it holds a launch.
  rcases List.mem_cons.mp launched with same | member
  · cases same
    exact ⟨rfl, rfl⟩
  · rcases List.mem_append.mp member with early | member
    · cases silent _ early
    · rcases List.mem_cons.mp member with same | late
      · cases same
      · cases quiet _ late

/-- What starts report in a round they report during the race. -/
theorem up_mem_round {other : Placed} {time : Nat}
    (quiet : ∀ stamped ∈ booked, stamped.event.isQuiet = true) :
    ⟨time, .deed (.up other)⟩ ∈ round launch service race end_ outcome booked ↔
      ⟨time, .deed (.up other)⟩ ∈ race := by
  constructor
  · -- Neither the launch nor the booking is such a report.
    intro up
    rcases List.mem_cons.mp up with same | member
    · cases same
    · rcases List.mem_append.mp member with early | member
      · exact early
      · rcases List.mem_cons.mp member with same | late
        · cases same
        · cases quiet _ late
  · intro up
    exact List.mem_cons_of_mem _ (List.mem_append_left _ up)

/-- A round is the race of its service, won exactly if it was up in time. -/
theorem raced_round (silent : ∀ stamped ∈ race, stamped.event.milestone? = none)
    (quiet : ∀ stamped ∈ booked, stamped.event.isQuiet = true)
    (won : outcome = .started ↔ ∃ up, up < launch + limit ∧ ⟨up, .deed (.up service)⟩ ∈ race) :
    (round launch service race end_ outcome booked).Raced limit [service] := by
  -- A round is a launch, its race and its booking, and of these only the race can report that the
  -- service is up.
  have quiet' : ∀ stamped ∈ booked, stamped.event.milestone? = none :=
    fun stamped member => Event.milestone?_of_isQuiet (quiet stamped member)
  refine {
    launched := fun other member => ⟨launch, ?_⟩
    resolved := fun other member => ⟨end_, outcome, ?_⟩
    only := fun other time launched => ?_
    order := ?_
    timely := fun other time launched => ?_
    unstopped := stopActs_round silent quiet' }
  -- Launched and resolved are in the round itself, and no other launch is.
  · exact List.mem_singleton.mp member ▸ List.mem_cons_self
  · exact List.mem_singleton.mp member ▸ List.mem_cons_of_mem _
      (List.mem_append_right _ List.mem_cons_self)
  · exact List.mem_singleton.mpr (launched_mem_round silent quiet' launched).2
  -- It is kept exactly if it has won.
  · rw [started_round silent quiet']
    split
    · exact .refl _
    · exact List.nil_sublist _
  · obtain ⟨rfl, rfl⟩ := launched_mem_round silent quiet' launched
    simp only [started_round silent quiet', up_mem_round quiet]
    refine Iff.trans ?_ won
    by_cases same : outcome = .started <;> simp [same]

end Trace

namespace World

/-- What the launch loop makes of a world when it comes to its end. -/
structure Launches (limit : Nat) (run : RunId) (services : List Placed) (trace : Trace)
    (w w' : World) : Prop where
  grows : Grows w w'
  going : w'.exited = none
  written : w'.trace = w.trace ++ trace
  raced : trace.Raced limit services
  started : w'.started = w.started ++ trace.started
  reported : ∀ service time, ⟨time, .deed (.up service)⟩ ∈ trace →
    service ∈ services ∨ w.Starting service
  late : ∀ service, w'.Starting service →
    w.Starting service ∨ service ∈ services ∧ ∀ time, ⟨time, .launched service⟩ ∈ trace →
      time + limit ≤ w'.now
  soon : w'.now ≤ w.now + services.length * limit
  lost : trace.started.length < services.length → w'.isCancelled run = true

variable {limit : Nat} {run : RunId} {service : Placed} {services rest : List Placed}
  {before after : Trace} {w w₁ w₂ : World}

/-- What happened after the first world has a time that is not before it. -/
theorem Grows.times (grows : Grows w w₁) (written : w₁.trace = w.trace ++ after) {stamped : Stamped}
    (member : stamped ∈ after) : w.now ≤ stamped.time ∧ stamped.time ≤ w₁.now := by
  obtain ⟨later, same, within⟩ := grows.trace
  cases List.append_cancel_left (written.symm.trans same)
  exact within stamped member

/-- The loop goes on from one service to the rest. -/
theorem Launches.cons (first : Launches limit run [service] before w w₁)
    (others : Launches limit run rest after w₁ w₂) (sound : w₁.Sound) (fresh : service ∉ rest)
    (idle : ∀ other ∈ service :: rest, ¬ w.Starting other) :
    Launches limit run (service :: rest) (before ++ after) w w₂ where
  grows := first.grows.trans others.grows
  going := others.going
  written := by rw [others.written, first.written, List.append_assoc]
  raced := by
    refine first.raced.cons others.raced fresh (fun other member time up => ?_)
      fun launch launched time up => ?_
    -- No service of the rest can report before it is launched, and the first one can do so later
    -- only too late.
    -- A word of a later service before its launch would be that of a start from before.
    · rcases first.reported other time up with same | starting
      · exact fresh (List.mem_singleton.mp same ▸ member)
      · exact idle other (List.mem_cons_of_mem _ member) starting
    · rcases others.reported service time up with member | starting
      · exact absurd member fresh
      · rcases first.late service starting with starting | ⟨_, late⟩
        · exact absurd starting (idle service List.mem_cons_self)
        · exact Nat.le_trans (late launch launched) (others.grows.times others.written up).1
  started := by rw [others.started, first.started, Trace.started_append, List.append_assoc]
  reported := by
    intro other time up
    have earlier : ∀ {other}, other ∈ [service] ∨ w.Starting other →
        other ∈ service :: rest ∨ w.Starting other :=
      fun either => either.imp_left fun same =>
        List.mem_cons.mpr (.inl (List.mem_singleton.mp same))
    rcases List.mem_append.mp up with early | late
    · exact earlier (first.reported other time early)
    · rcases others.reported other time late with member | starting
      · exact .inl (List.mem_cons_of_mem _ member)
      · exact earlier ((first.late other starting).symm.imp (·.1) fun starting => starting)
  late := by
    intro other starting
    -- A start that goes on at the end went on after the first round, or is one of the rest.
    rcases others.late other starting with starting | ⟨member, late⟩
    · refine (first.late other starting).imp_right fun launched => ?_
      obtain ⟨same, late⟩ := launched
      cases List.mem_singleton.mp same
      refine ⟨List.mem_cons_self, fun time launched => ?_⟩
      rcases List.mem_append.mp launched with early | afterwards
      · exact Nat.le_trans (late time early) others.grows.now
      · exact absurd (others.raced.only service time afterwards) fresh
    · refine .inr ⟨List.mem_cons_of_mem _ member, fun time launched => ?_⟩
      rcases List.mem_append.mp launched with early | afterwards
      · exact absurd (List.mem_singleton.mp (first.raced.only other time early) ▸ member) fresh
      · exact late time afterwards
  -- The time of one more launch is added to that of the others.
  soon := by
    have one := first.soon
    have more := others.soon
    simp only [List.length_cons, List.length_nil, Nat.add_mul] at one more ⊢
    omega
  lost := by
    -- If not all were won, the first was lost or one of the others, and the run was cancelled by
    -- either.
    intro short
    rw [Trace.started_append, List.length_append, List.length_cons] at short
    -- If fewer have started than there are, the first is missing or one of the rest is.
    by_cases one : before.started.length < 1
    · exact others.grows.isCancelled sound (first.lost one)
    · exact others.lost (by omega)

end World

namespace Flow

open World

variable {group : GroupId} {run : RunId} {watcher : TaskId} {deadline : Duration} {w : World}

/-- Why a launch loop that began at this time does not come to its end: the process is gone, the
horizon is reached, or the clock cannot show the deadline of one of its launches. -/
def Fails (deadline : Duration) (first count : Nat) (halt : Halt) (w : World) : Prop :=
  Ceases (first + count * deadline.ceilMillis) halt w ∨ halt = .panicked clockOverflow ∧
    ∃ done < count, ∃ now, now ≤ first + done * deadline.ceilMillis ∧
      isBeyondClock now deadline = true

/-- What lets some launches of a loop fail, after so many others, lets the whole loop fail. -/
theorem Fails.within {first next count total : Nat} {halt : Halt}
    (fails : Fails deadline next count halt w) (skipped : Nat)
    (soon : next ≤ first + skipped * deadline.ceilMillis) (few : skipped + count ≤ total) :
    Fails deadline first total halt w := by
  -- The launches that are left end no later than the whole loop would.
  have ends : next + count * deadline.ceilMillis ≤ first + total * deadline.ceilMillis := by
    have most := Nat.mul_le_mul_right deadline.ceilMillis few
    rw [Nat.add_mul] at most
    omega
  -- The process is gone, the horizon was reached, or a deadline lies beyond what the clock can
  -- show.
  rcases fails with (gone | ⟨stuck, reached, early⟩) | ⟨panicked, done, fewer, now, ahead, beyond⟩
  · exact .inl (.inl gone)
  · exact .inl (.inr ⟨stuck, reached, Nat.lt_of_lt_of_le early ends⟩)
  · refine .inr ⟨panicked, skipped + done, by omega, now, ?_, beyond⟩
    rw [Nat.add_mul]
    omega

/-- A launch spawns its start, and then does only what launchers do about that start. -/
theorem launch_within {R : World → World → Prop} {service : Placed}
    (lasts : Lasting (Attends run service deadline w.tasks.length) R) :
    (launch group run service deadline).Yields w (fun _ => R (w.launching group run service))
      fun _ => R (w.launching group run service) := by
  simp only [launch, yields_bind, yields_answer, yields_emit, yields_look]
  split
  · exact lasts.refl _
  · exact bind_within lasts (race_within lasts _) (fun _ => resolve_within lasts _ _) _

/-- A launch notes itself, and then its race is judged. -/
theorem launch_yields (service : Placed) (sound : w.Sound) (opened : run < w.runs.length)
    (idle : ¬ w.Starting service) :
    (launch group run service deadline).Yields w
      (Judged service run (w.now + deadline.ceilMillis) (w.launching group run service).trace)
      (Fails deadline w.now 1) := by
  -- The start that is spawned takes part in its race from the beginning, and no other start of the
  -- service does.
  -- The start that was spawned is the only one of the service, and has said nothing yet.
  have contest :
    (w.launching group run service).Contest service w.tasks.length
      (w.launching group run service).trace := by
    refine ⟨⟨startTask run service, [], ?_, rfl, rfl, opened, (List.append_nil _).symm,
      by simp [startTask]⟩, ?_⟩
    · rw [task?_launching, if_pos rfl]
    · intro other task found live duty unaborted
      rw [task?_launching] at found
      split at found
      · assumption
      · exact absurd ⟨other, task, found, live, duty, unaborted⟩ idle
  simp only [launch, yields_bind, yields_answer, yields_emit, yields_look]
  split
  -- The deadline cannot be computed, which is found out before the race begins.
  · rename_i beyond
    exact .inr ⟨rfl, 0, Nat.one_pos, w.now, by simp, beyond⟩
  · rw [yields_bind]
    have raced := (race_within (steady_passes.attends run service deadline w.tasks.length)
        (w.now + deadline.ceilMillis) (w.launching group run service)).and
      (race_yields contest (unended_launching service)
        (Nat.le_add_right w.now deadline.ceilMillis))
    refine raced.mono ?_ fun halt w' halted => .inl (.inl halted.2)
    rintro ended w₁ ⟨passes, going, contest₁, same, soon, met, missed⟩
    refine (resolve_yields (passes.sound (sound.launching service)) (passes.runs ▸ opened) going
      contest₁ same soon met
      missed fun later written stamped member => ?_).mono (fun _ _ judged => judged)
        fun _ _ ceases => .inl ?_
    · exact (passes.follows.grows.times written member).2
    · rwa [Nat.one_mul]

/-- Booking a launch changes what is kept and the trace, and nothing else. -/
theorem book_written (service : Placed) (outcome : Launched) {halts : Halt → World → Prop} :
    (book service outcome).Yields w (fun _ w' => w' = w.booking service outcome) halts := by
  -- Only a start that was won is kept, and told of.
  simp only [book, yields_bind, yields_emit]
  split
  · rename_i won
    simp only [keepStarted, yields_bind, yields_notice, yields_change, yields_look, yields_emit]
    simp [World.booking, Placed.booking, won, World.emit, World.notice]
  · rename_i lost
    simp [World.booking, Placed.booking, lost, World.emit]

/-- After the count of a launch nothing is written that a quiet flow could not write. -/
theorem book_yields (service : Placed) (outcome : Launched) {halts : Halt → World → Prop} :
    (book service outcome).Yields w
      (fun _ w' => ∃ later : Trace,
        (∀ stamped ∈ later, stamped.time = w.now ∧ stamped.event.isQuiet = true ∧
          stamped.event.isCall = false) ∧
        w' = { w with
          started := w.started ++ if outcome = .started then [service] else []
          trace := w.trace ++ (⟨w.now, .count (.start service outcome)⟩ :: later) }) halts := by
  refine (book_written service outcome).mono ?_ fun _ _ halt => halt
  rintro _ w' rfl
  refine ⟨_, ?_, rfl⟩
  split <;> simp [Event.isQuiet, Event.milestone?, Event.isCall]

/-- One round of the loop: a launch that has been judged and booked. -/
theorem Judged.launches {service : Placed} {outcome : Launched} {w₁ : World} {booked : Trace}
    (passes : Passes (w.launching group run service) w₁)
    (judged : Judged service run (w.now + deadline.ceilMillis)
      (w.launching group run service).trace outcome w₁)
    (quiet : ∀ stamped ∈ booked, stamped.time = w₁.now ∧ stamped.event.isQuiet = true ∧
      stamped.event.isCall = false) :
    ∃ trace, Launches deadline.ceilMillis run [service] trace w { w₁ with
      started := w₁.started ++ if outcome = .started then [service] else []
      trace := w₁.trace ++ (⟨w₁.now, .count (.start service outcome)⟩ :: booked) } := by
  -- What was written during the race is read twice: as what the judgement saw, and as what a wait
  -- may write.
  obtain ⟨race, written, won⟩ := judged.reported
  obtain ⟨race', same, allowed⟩ := passes.follows.trace
  cases List.append_cancel_left (written.symm.trans same)
  have silent : ∀ stamped ∈ race, stamped.event.milestone? = none :=
    fun stamped member => (allowed stamped member).2.2.1
  have quiet' : ∀ stamped ∈ booked, stamped.event.isQuiet = true :=
    fun stamped member => (quiet stamped member).2.1
  have quiet'' : ∀ stamped ∈ booked, stamped.event.milestone? = none :=
    fun stamped member => Event.milestone?_of_isQuiet (quiet' stamped member)
  have started : w₁.started = w.started := passes.started
  refine ⟨Trace.round w.now service race w₁.now outcome booked, ?_⟩
  refine {
    grows := ((launching_grows service).trans passes.follows.grows).trans ?_
    going := judged.going
    written := ?_
    raced := Trace.raced_round silent quiet' won
    started := by rw [Trace.started_round silent quiet'', started]
    reported := fun other time up => ?_
    late := fun other starting => ?_
    soon := by simpa using judged.soon
    lost := fun short => judged.cancelled fun same => ?_ }
  · refine record_grows _ fun stamped member => ?_
    rcases List.mem_cons.mp member with rfl | member
    · exact ⟨rfl, rfl⟩
    · exact ⟨(quiet stamped member).1, (quiet stamped member).2.2⟩
  · show w₁.trace ++ _ = _
    rw [written, trace_launching]
    simp [Trace.round]
  -- A word of another start during the race is that of one that went on before.
  · have during := (Trace.up_mem_round quiet').mp up
    exact (starting_launching ((allowed _ during).2.2.2 other rfl)).imp_left List.mem_singleton.mpr
  -- The start itself goes on only past its deadline.
  · rcases starting_launching (passes.starting starting) with rfl | before
    · refine .inr ⟨List.mem_singleton_self _, fun time launched => ?_⟩
      rw [(Trace.launched_mem_round silent quiet'' launched).1]
      exact judged.late starting
    · exact .inl before
  · rw [Trace.started_round silent quiet'', if_pos same] at short
    exact absurd short (Nat.lt_irrefl _)

/-- The launch loop keeps the run supervised, comes to its end unless it fails, and leaves what it
should. -/
theorem startAll_yields (services : List Placed) (distinct : services.Nodup)
    (supervised : w.Supervised group run watcher) (going : w.exited = none)
    (idle : ∀ service ∈ services, ¬ w.Starting service) :
    (startAll group run deadline services).Yields w
      (fun _ w' => w'.Supervised group run watcher ∧
        ∃ trace, Launches deadline.ceilMillis run services trace w w')
      fun halt w' => w'.Supervised group run watcher ∧ Grows w w' ∧
        Fails deadline w.now services.length halt w' ∧
        ∃ trace, w'.trace = w.trace ++ trace ∧ trace.Racing deadline.ceilMillis services := by
  -- By induction on the services: one round, and then the rest from where it ended. No start of the
  -- rest goes on then.
  induction services generalizing w with
  | nil =>
    refine ⟨supervised, [], ?_⟩
    exact {
      grows := .refl w, going := going, written := (List.append_nil _).symm
      raced := Trace.raced_nil _, started := (List.append_nil _).symm, reported := by simp
      late := fun _ starting => .inl starting, soon := Nat.le_add_right _ _, lost := by simp }
  | cons service rest ih =>
    obtain ⟨fresh, distinct⟩ := List.nodup_cons.mp distinct
    have launched : (launch group run service deadline).Yields w _ _ :=
      (launch_within (steady_passes.attends _ _ _ _)).and
      ((launch_within ((steady_supervised group run watcher).attends _ _ _ _)).and
        (launch_yields service supervised.sound supervised.watch.opened
          (idle service List.mem_cons_self)))
    simp only [startAll, yields_bind]
    refine launched.mono ?_ ?_
    -- The launch came out: it is booked, and the loop goes on in a world that is supervised as
    -- before.
    · rintro outcome w₁ ⟨passes, keeps, judged⟩
      have supervised₁ := keeps (supervised.launching service)
      refine (book_yields service outcome).mono ?_ fun _ _ halt => halt
      rintro _ w₂ ⟨booked, quiet, rfl⟩
      have uncalled : ∀ stamped ∈ (⟨w₁.now, .count (.start service outcome)⟩ :: booked : Trace),
          stamped.event.isCall = false := by
        intro stamped member
        rcases List.mem_cons.mp member with rfl | member
        · rfl
        · exact (quiet stamped member).2.2
      have supervised₂ :=
        supervised₁.record (w₁.started ++ if outcome = .started then [service] else []) uncalled
      obtain ⟨before, first⟩ := judged.launches passes quiet
      -- A start of a later service would have been there before, or be the one that was launched
      -- now.
      have idle₂ : ∀ other ∈ rest, ¬ w₁.Starting other := by
        intro other member starting
        rcases starting_launching (passes.starting starting) with rfl | starting
        · exact fresh member
        · exact idle other (List.mem_cons_of_mem _ member) starting
      refine (ih distinct supervised₂ first.going idle₂).mono ?_ ?_
      · rintro _ w₃ ⟨supervised₃, after, others⟩
        exact ⟨supervised₃, before ++ after, first.cons others supervised₂.sound fresh idle⟩
      · rintro halt w₃ ⟨supervised₃, grows, fails, after, written, racing⟩
        refine ⟨supervised₃, first.grows.trans grows,
          fails.within 1 (by simpa using first.soon) (Nat.le_of_eq (Nat.add_comm ..)),
          before ++ after, ?_, first.raced.racing.cons racing⟩
        rw [written, first.written, List.append_assoc]
    -- The launch was cut in its race, before anything was said of how it came out.
    · rintro halt w₁ ⟨passes, keeps, fails⟩
      obtain ⟨race, written, allowed⟩ := passes.follows.trace
      have silent : ∀ stamped ∈ race, stamped.event.milestone? = none :=
        fun stamped member => (allowed stamped member).2.2.1
      refine ⟨keeps (supervised.launching service),
        (launching_grows service).trans passes.follows.grows,
        fails.within 0 (by simp) (by simp), [⟨w.now, .launched service⟩] ++ race,
        by rw [written, trace_launching, List.append_assoc], Trace.racing_of_silent ?_ ?_⟩
      · rw [Trace.started_append, Trace.started_of_silent silent]
        rfl
      · rw [Trace.stopActs_append, Trace.stopActs_of_silent silent]
        rfl

end Flow

end Warden.Supervision
