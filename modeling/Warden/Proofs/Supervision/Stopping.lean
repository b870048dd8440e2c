import Warden.Proofs.Supervision.Race

/-!
Stopping what was started: one service after another, and none of them for longer than the timeout.
-/

namespace Warden.Supervision

namespace World

/-- A later state with no launch in between: what was started is being stopped. -/
structure Winds (w w' : World) : Prop where
  grows : Grows w w'
  starting : ∀ service, w'.Starting service → w.Starting service
  quiet : ∃ later : Trace, w'.trace = w.trace ++ later ∧ ∀ stamped ∈ later,
    (∀ milestone, stamped.event.milestone? = some milestone → milestone.stopAct?.isSome = true) ∧
      ∀ service, stamped.event = .deed (.up service) → w.Starting service

variable {w w₁ w₂ : World}

/-- Whatever follows winds a run down. -/
theorem Follows.winds (follows : Follows w w₁) : Winds w w₁ where
  grows := follows.grows
  starting := follows.starting
  quiet := by
    obtain ⟨later, written, allowed⟩ := follows.trace
    refine ⟨later, written, fun stamped member =>
      ⟨fun milestone some_ => ?_, (allowed stamped member).2.2.2⟩⟩
    simp [(allowed stamped member).2.2.1] at some_

theorem Winds.trans (first : Winds w w₁) (second : Winds w₁ w₂) : Winds w w₂ where
  grows := first.grows.trans second.grows
  starting := fun service starting => first.starting service (second.starting service starting)
  quiet := by
    obtain ⟨later₁, written₁, quiet₁⟩ := first.quiet
    obtain ⟨later₂, written₂, quiet₂⟩ := second.quiet
    refine ⟨later₁ ++ later₂, by rw [written₂, written₁, List.append_assoc],
      fun stamped member => ?_⟩
    -- A start that says that it is up went on in the middle, and so from the first.
    rcases List.mem_append.mp member with early | late
    · exact quiet₁ stamped early
    · exact ⟨(quiet₂ stamped late).1, fun service up =>
        first.starting service ((quiet₂ stamped late).2 service up)⟩

/-- A word on a stop is no launch. -/
theorem emit_winds {event : Event} (uncalled : event.isCall = false)
    (stop : ∀ milestone, event.milestone? = some milestone → milestone.stopAct?.isSome = true)
    (noUp : ∀ service, event ≠ .deed (.up service)) : Winds w (w.emit event) := by
  have acts : Acts (fun other => other = event) .main w (w.emit event) := emit_acts rfl uncalled
  -- Nothing but the word is added, and that is neither a launch nor the word of a start.
  refine {
    grows :=
      ⟨Nat.le_refl _, rfl, Nat.le_refl _, fun gone => gone,
        ⟨[⟨w.now, event⟩], rfl, by simp [emit]⟩, acts.sound, acts.counted⟩
    starting := fun _ starting => starting
    quiet := ⟨[⟨w.now, event⟩], rfl, fun stamped member => ?_⟩ }
  cases List.mem_singleton.mp member
  exact ⟨stop, fun service up => absurd up (noUp service)⟩

/-- A word adds its milestone, if it is one. -/
theorem milestones_emit (event : Event) (w : World) :
    (w.emit event).trace.milestones = w.trace.milestones ++
      (event.milestone?.map (w.now, ·)).toList := by
  show Trace.milestones (w.trace ++ [⟨w.now, event⟩]) = _
  rw [Trace.milestones_append]
  congr 1

end World

/-- The whole course of stopping services in an order: each stop ends before the next one begins. -/
def StopAct.course (services : List Placed) : List StopAct :=
  services.flatMap fun service => [.begins service, .ends service]

/-- The milestones of services that are stopped one after another: each stop ends within the timeout
after it has begun, and is counted once. -/
inductive StopsEach (timeout : Nat) : List Placed → List (Nat × Milestone) → Prop
  | nil : StopsEach timeout [] []
  | cons {service : Placed} {rest : List Placed} {begun ended : Nat} {ok : Bool}
    {marks : List (Nat × Milestone)}
    (bounded : ended ≤ begun + timeout) (others : StopsEach timeout rest marks) :
    StopsEach timeout (service :: rest)
      ((begun, .stopping service) :: (ended, .stopped service ok) :: marks)

/-- Services that are stopped one after another follow the course of stopping. -/
theorem StopsEach.stopActs {timeout : Nat} {services : List Placed} {marks : List (Nat × Milestone)}
    (stops : StopsEach timeout services marks) :
    marks.filterMap (·.2.stopAct?) = StopAct.course services := by
  induction stops with
  | nil => rfl
  | @cons service _ _ _ _ _ _ _ ih =>
    exact congrArg (fun acts => .begins service :: .ends service :: acts) ih

namespace Flow

open World

/-- Only a step that panics ends a script with a panic. -/
theorem act_panicked {party : Party} {actor : Actor} {step : Step} {payload : Payload} {w : World}
    (finished : (w.act party actor step).1 = .finish (.panicked payload)) :
    step = .panic payload := by
  cases step <;> simp only [act, block] at finished <;> (try split at finished) <;> simp_all

/-- A wait of a script ends no later than its deadline, and before it only if what is waited for has
come. -/
theorem alarm_spec (actor : Actor) (wait : Wait) (due : Nat) :
    ∃ latest, alarm (some due) wait = some latest ∧
    latest ≤ due ∧ ∀ w : World, w.isOver .main actor wait = false → latest ≤ w.now →
      due ≤ w.now := by
  cases wait with
  | timer time =>
    refine ⟨min time due, rfl, Nat.min_le_right _ _, fun w unmet reached => ?_⟩
    simp only [isOver, decide_eq_false_iff_not] at unmet
    omega
  | _ => exact ⟨due, rfl, Nat.le_refl _, fun _ _ reached => reached⟩

/-- A script that is played against a deadline ends, or is left, by the deadline. -/
theorem play_yields {actor : Actor} {due : Nat} {script : Script} {w : World}
    (early : w.now ≤ due) :
    (play actor (some due) script).Yields w
      (fun outcome w' => w'.now ≤ due ∧ ∀ payload, outcome = some (.panicked payload) →
        .panic payload ∈ script)
      (Ceases due) := by
  -- By induction on the script: no step begins after the deadline, and no wait lasts longer than
  -- it.
  have plain : ∀ event : Event, event.isPlain = true → event.reading? = none →
    event.isQuiet = true :=
    fun _ plain _ => Event.isQuiet_of_isPlain plain
  induction script generalizing w with
  | nil => exact ⟨early, by simp⟩
  | cons step rest ih =>
    have acts : Acts (fun event => event.isQuiet = true) .main w (w.act .main actor step).2 :=
      act_acts plain rfl step
    have early₁ : (w.act .main actor step).2.now ≤ due := acts.now ▸ early
    -- What holds of the rest of the script holds of the script with this step.
    have later : ∀ {w₁ : World}, w₁.now ≤ due → (play actor (some due) rest).Yields w₁
        (fun outcome w' => w'.now ≤ due ∧ ∀ payload, outcome = some (.panicked payload) →
          .panic payload ∈ step :: rest)
        (Ceases due) := by
      intro w₁ early₁
      refine (ih early₁).mono ?_ fun _ _ ceases => ceases
      rintro outcome w' ⟨soon, panics⟩
      exact ⟨soon, fun payload same => List.mem_cons_of_mem _ (panics payload same)⟩
    simp only [play, yields_bind, yields_answer]
    -- The step is done at once, ends the script, or has to wait.
    cases reaction : (w.act .main actor step).1 with
    | proceed => exact later early₁
    | finish outcome =>
      refine ⟨early₁, fun payload same => ?_⟩
      cases same
      rw [act_panicked reaction]
      exact List.mem_cons_self
    | block wait =>
      obtain ⟨latest, alarmed, bounded, spent⟩ := alarm_spec actor wait due
      rw [yields_bind, alarmed]
      refine pause_yields (fun w' beats going unmet => ?_) fun w' code _ gone =>
        .inl ⟨code, rfl, gone⟩
      have limit : (w.act .main actor step).2.limit (some latest) =
        min latest (w.act .main actor step).2.horizon := rfl
      -- The alarm is the earlier of the deadline and the end of the wait, and the horizon comes
      -- before both.
      rw [limit] at beats unmet
      have atMost := beats.now_le
      have horizon := beats.passes.horizon
      split
      · have settled :
          Acts (fun event => event.isQuiet = true) .main w' (w'.settleWait actor wait) :=
          settleWait_acts plain actor wait
        rw [yields_bind, yields_change]
        exact later (by rw [settled.now]; omega)
      -- The wait was cut short, so that the deadline has come, unless it was the horizon.
      · rename_i missed
        have missed : w'.isOver .main actor wait = false := by simpa using missed
        have forsaken :
          Acts (fun event => event.isQuiet = true) .main w' (w'.forsake .main actor wait) :=
          forsake_acts actor wait
        have reached := unmet missed
        simp only [yields_bind, yields_change, yields_look]
        split
        · exact ⟨by rw [forsaken.now]; omega, by simp⟩
        · rename_i unpast
          simp only [isPast, Option.any_some, decide_eq_true_eq, Nat.not_le] at unpast
          rw [forsaken.now] at unpast
          have unspent : ¬ latest ≤ w'.now :=
            fun reached => absurd (spent w' missed reached) (Nat.not_le.mpr unpast)
          refine .inr ⟨rfl, ?_, ?_⟩
          · rw [forsaken.now, forsaken.horizon]
            omega
          · rw [forsaken.now]
            exact unpast

/-- Why stopping does not come to its end: the process is gone, the horizon is reached, or a stop
panicked. -/
def Breaks (services : List Placed) (last : Nat) (halt : Halt) (w : World) : Prop :=
  Ceases last halt w ∨ ∃ service ∈ services, ∃ payload,
    .panic payload ∈ service.service.stop ∧ halt = .panicked payload.message

/-- Whoever breaks off among some services breaks off among more, and no later than later. -/
theorem Breaks.mono {services more : List Placed} {first last : Nat} {halt : Halt} {w : World}
    (breaks : Breaks services first halt w) (among : services ⊆ more) (later : first ≤ last) :
    Breaks more last halt w := by
  rcases breaks with (gone | ⟨stuck, reached, early⟩) | ⟨service, member, panicked⟩
  · exact .inl (.inl gone)
  · exact .inl (.inr ⟨stuck, reached, Nat.lt_of_lt_of_le early later⟩)
  · exact .inr ⟨service, among member, panicked⟩

/-- What is said of a stop before it is counted. -/
theorem said_winds {said : List Event}
    (quiet : ∀ event ∈ said, event.isCall = false ∧ event.milestone? = none ∧
      ∀ service, event ≠ .deed (.up service))
    (w : World) : Winds w (said.foldl (fun w event => w.emit event) w) ∧
      (said.foldl (fun w event => w.emit event) w).trace.milestones = w.trace.milestones ∧
      (said.foldl (fun w event => w.emit event) w).started = w.started ∧
      (said.foldl (fun w event => w.emit event) w).now = w.now := by
  -- By induction on what is said, none of which is a milestone.
  induction said generalizing w with
  | nil => exact ⟨(Follows.refl w).winds, rfl, rfl, rfl⟩
  | cons event said ih =>
    obtain ⟨uncalled, none_, noUp⟩ := quiet event List.mem_cons_self
    obtain ⟨winds, marks, same⟩ :=
      ih (fun other member => quiet other (List.mem_cons_of_mem _ member)) (w.emit event)
    -- What is said later is said in the world that this word leaves.
    refine ⟨(emit_winds uncalled (by simp [none_]) noUp).trans winds, marks.trans ?_, same⟩
    rw [milestones_emit, none_]
    exact List.append_nil _

/-- A stop begins, and ends within the timeout unless it panics. -/
theorem stopOne_yields (run : RunId) (timeout : Duration) (service : Placed) (w : World) :
    (stopOne run timeout service).Yields w
      (fun _ w' => Winds w w' ∧ w'.started = w.started ∧ w'.now ≤ w.now + timeout.ceilMillis ∧ ∃ ok,
        w'.trace.milestones = w.trace.milestones ++
          [(w.now, .stopping service), (w'.now, .stopped service ok)])
      fun halt w' => Winds w w' ∧ w'.started = w.started ∧
        w'.trace.milestones = w.trace.milestones ++ [(w.now, .stopping service)] ∧
        Breaks [service] (w.now + timeout.ceilMillis) halt w' := by
  -- The script is played against the timeout, and what becomes of it decides what is said before
  -- the stop is counted.
  have begun : Winds w (w.emit (.deed (.stop service))) :=
    emit_winds rfl (by simp [Event.milestone?, Milestone.stopAct?]) (by simp)
  have marked : (w.emit (.deed (.stop service))).trace.milestones = w.trace.milestones ++
    [(w.now, .stopping service)] :=
    milestones_emit _ _
  simp only [stopOne, yields_bind, yields_emit, yields_look]
  -- The script of the stop is played under the timeout, and nothing else passes until it is over.
  have played :
    (play ⟨service.name, run, none⟩ (some (w.now + timeout.ceilMillis)) service.service.stop).Yields
      (w.emit (.deed (.stop service))) _ _ :=
    (play_within (steady_passes.plays _) _ _ _).and
      (play_yields (Nat.le_add_right w.now timeout.ceilMillis))
  refine played.mono ?_ ?_
  · rintro outcome w₁ ⟨passes, soon, panics⟩
    have wound : Winds w w₁ := begun.trans passes.follows.winds
    have open_ : w₁.trace.milestones = w.trace.milestones ++ [(w.now, .stopping service)] :=
      passes.follows.milestones.trans marked
    -- Whatever is said of the stop, it ends where it is counted.
    have counted : ∀ (said : List Event) (ok : Bool),
        (∀ event ∈ said, event.isCall = false ∧ event.milestone? = none ∧
          ∀ service, event ≠ .deed (.up service)) →
        ∀ w₂, w₂ = (said.foldl (fun w event => w.emit event) w₁).emit (.count (.stop service ok)) →
          Winds w w₂ ∧ w₂.started = w.started ∧ w₂.now ≤ w.now + timeout.ceilMillis ∧ ∃ ok,
            w₂.trace.milestones = w.trace.milestones ++
              [(w.now, .stopping service), (w₂.now, .stopped service ok)] := by
      rintro said ok quiet _ rfl
      obtain ⟨winds, same, started, now⟩ := said_winds quiet w₁
      refine ⟨(wound.trans winds).trans
        (emit_winds rfl (by simp [Event.milestone?, Milestone.stopAct?]) (by simp)),
        started.trans passes.started, Nat.le_trans (Nat.le_of_eq now) soon, ok, ?_⟩
      rw [milestones_emit, same, open_, List.append_assoc]
      rfl
    -- Neither a notice nor the word of a failed stop is a call, a milestone or the word of a start.
    have quiet : ∀ n : Notice, ∀ event ∈ [Event.notice .main n],
        event.isCall = false ∧ event.milestone? = none ∧
          ∀ service, event ≠ .deed (.up service) := by
      simp [Event.isCall, Event.milestone?]
    have failed : ∀ n : Notice, ∀ event ∈ [Event.deed (.stopFailed service), .notice .main n],
        event.isCall = false ∧ event.milestone? = none ∧
          ∀ service, event ≠ .deed (.up service) := by
      simp [Event.isCall, Event.milestone?]
    -- Too late, down, two kinds of errors, or a panic, which is the only one that is not counted.
    split
    · exact counted [.notice .main (.stopTimedOut service timeout)] false (quiet _) _ rfl
    · refine counted [.deed (.down service), .notice .main (.serviceStopped service)] true ?_ _ rfl
      simp [Event.isCall, Event.milestone?]
    · rename_i error
      exact counted [.deed (.stopFailed service), .notice .main (.stopFailed service error)] false
        (failed _) _ rfl
    · rename_i error
      exact counted [.deed (.stopFailed service), .notice .main (.stopFailed service error.text)]
        false (failed _) _ rfl
    · rename_i payload
      exact ⟨wound, passes.started, open_,
        .inr ⟨service, List.mem_singleton_self _, payload, panics payload rfl, rfl⟩⟩
  -- The script itself was cut, and with it the stop.
  · rintro halt w₁ ⟨passes, ceases⟩
    exact ⟨begun.trans passes.follows.winds, passes.started, passes.follows.milestones.trans marked,
      .inl ceases⟩

/-- Where the sequence of stops breaks off: all stops before have ended, this one has begun, and the
others remain. -/
def BreaksOff (timeout : Nat) (services : List Placed) (w : World) (halt : Halt) (w' : World) :
    Prop :=
  ∃ (stopped : List Placed) (service : Placed) (rest : List Placed) (marks : List (Nat × Milestone))
    (begun : Nat),
    services = stopped ++ service :: rest ∧ StopsEach timeout stopped marks ∧
    w'.trace.milestones = w.trace.milestones ++ (marks ++ [(begun, .stopping service)]) ∧
      w'.started = rest.reverse ∧
    Breaks [service] (w.now + services.length * timeout) halt w'

/-- Services are stopped one after another, each of them once, until a stop panics. -/
theorem stopEach_sequence (run : RunId) (timeout : Duration) (services : List Placed) {w : World}
    (stack : w.started = services.reverse) :
    (stopEach run timeout services).Yields w
      (fun _ w' => Winds w w' ∧ w'.started = [] ∧
        w'.now ≤ w.now + services.length * timeout.ceilMillis ∧ ∃ marks,
        w'.trace.milestones = w.trace.milestones ++ marks ∧
          StopsEach timeout.ceilMillis services marks)
      fun halt w' => Winds w w' ∧ BreaksOff timeout.ceilMillis services w halt w' := by
  -- By induction on the services: once one stop has ended the rest is stopped, and if one breaks
  -- off so does the sequence.
  induction services generalizing w with
  | nil => exact ⟨(Follows.refl w).winds, stack, by simp, [], (List.append_nil _).symm, .nil⟩
  | cons service rest ih =>
    -- The service is off the stack before its stop begins.
    simp only [stopEach, yields_bind, yields_change, yields_emit]
    have taken : Winds w { w with started := rest.reverse } :=
      (setStarted_follows rest.reverse).winds
    have room : ∀ timeout : Nat, timeout + rest.length * timeout =
      (service :: rest).length * timeout := by
      intro timeout
      rw [List.length_cons, Nat.add_mul, Nat.one_mul, Nat.add_comm]
    have room := room timeout.ceilMillis
    -- The time for this stop and that for the rest add up to that for all.
    refine (stopOne_yields run timeout service _).mono ?_ ?_
    · rintro _ w₁ ⟨winds, started, soon, ok, marked⟩
      have shown : Winds w₁ (w₁.emit (.running rest.length)) :=
        emit_winds rfl (by simp [Event.milestone?]) (by simp)
      have same : (w₁.emit (.running rest.length)).trace.milestones = w₁.trace.milestones :=
        (milestones_emit _ _).trans (List.append_nil _)
      have wound := (taken.trans winds).trans shown
      have now : (w₁.emit (.running rest.length)).now = w₁.now := rfl
      have soon : w₁.now ≤ w.now + timeout.ceilMillis := soon
      have marked : w₁.trace.milestones =
          w.trace.milestones ++ [(w.now, .stopping service), (w₁.now, .stopped service ok)] :=
            marked
      refine (ih (w := w₁.emit (.running rest.length)) started).mono ?_ ?_
      · rintro _ w₂ ⟨winds₂, empty, soon₂, marks, marked₂, stops⟩
        refine ⟨wound.trans winds₂, empty, by omega,
          (w.now, .stopping service) :: (w₁.now, .stopped service ok) :: marks, ?_,
          .cons soon stops⟩
        rw [marked₂, same, marked, List.append_assoc]
        rfl
      -- It breaks off later on, after this stop.
      · rintro halt w₂ ⟨winds₂, stopped, other, left, marks, begun, split, stops, marked₂,
          started₂, breaks⟩
        refine ⟨wound.trans winds₂, service :: stopped, other, left,
          (w.now, .stopping service) :: (w₁.now, .stopped service ok) :: marks, begun,
            congrArg _ split, .cons soon stops, ?_,
          started₂, breaks.mono (List.Subset.refl _) (by omega)⟩
        rw [marked₂, same, marked, List.append_assoc]
        rfl
    -- It breaks off in this stop, with nothing stopped before.
    · rintro halt w₁ ⟨winds, started, marked, breaks⟩
      have soon : w.now + timeout.ceilMillis ≤
        w.now + (service :: rest).length * timeout.ceilMillis := by omega
      exact ⟨taken.trans winds, [], service, rest, [], w.now, rfl, .nil, marked, started,
        breaks.mono (List.Subset.refl _) soon⟩

/-- Services are stopped one after another, each of them once. -/
theorem stopEach_yields (run : RunId) (timeout : Duration) (services : List Placed) {w : World}
    (stack : w.started = services.reverse) :
    (stopEach run timeout services).Yields w
      (fun _ w' => Winds w w' ∧ w'.trace.stopActs = w.trace.stopActs ++ StopAct.course services ∧
        w'.now ≤ w.now + services.length * timeout.ceilMillis)
      fun halt w' => Winds w w' ∧
        (∃ acts, w'.trace.stopActs = w.trace.stopActs ++ acts ∧ acts <+: StopAct.course services) ∧
        Breaks services (w.now + services.length * timeout.ceilMillis) halt w' := by
  -- The milestones of the sequence say more than the acts, which are read off them.
  refine (stopEach_sequence run timeout services stack).mono ?_ ?_
  · rintro _ w' ⟨winds, _, soon, marks, marked, stops⟩
    refine ⟨winds, ?_, soon⟩
    rw [Trace.stopActs, marked, List.filterMap_append, stops.stopActs]
    rfl
  -- Those before the one that broke off were stopped, and its stop has begun.
  · rintro halt w' ⟨winds, stopped, service, rest, marks, begun, split, stops, marked, _, breaks⟩
    refine ⟨winds, ⟨StopAct.course stopped ++ [.begins service], ?_, ?_⟩,
      breaks.mono (by simp [split]) (Nat.le_refl _)⟩
    · rw [Trace.stopActs, marked, List.filterMap_append, List.filterMap_append, stops.stopActs]
      rfl
    · refine ⟨.ends service :: StopAct.course rest, ?_⟩
      simp [split, StopAct.course]

end Flow

end Warden.Supervision
