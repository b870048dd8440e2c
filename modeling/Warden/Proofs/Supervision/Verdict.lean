import Warden.Proofs.Supervision.Supervise

/-!
What a launch makes known of its start, in order: how the start has ended, and what the launcher
says and does about it.
-/

namespace Warden.Supervision

/-- The run was cancelled when the launcher called it off for this service. -/
def Hushed (service : Placed) (run : RunId) (trace : Trace) : Prop :=
  ∃ (earlier later : Trace) (time : Nat),
    trace =
      earlier ++ ⟨time, .cancelCall .launcher run (.startFailed service.name startPanic)⟩ :: later ∧
      (earlier.firstCall run).isSome = true

/-- A call that came second stays so, whatever is written after it. -/
theorem Hushed.append {service : Placed} {run : RunId} {trace : Trace}
    (hushed : Hushed service run trace) (more : Trace) :
    Hushed service run (trace ++ more) := by
  obtain ⟨earlier, later, time, rfl, called⟩ := hushed
  exact ⟨earlier, later ++ more, time, by simp, called⟩

/-- What a launch makes known of its start from how it came out and how the start has ended since: a
start that was refused has spoken for itself when the launcher calls the run off, and of one that
panicked the launcher speaks, unless it finds the run cancelled. -/
inductive Verdict (service : Placed) (run : RunId) (deadline : Duration) (trace : Trace) :
    Launched → Option Ending → List Event → Prop
  | started : Verdict service run deadline trace .started (some .done) [.deed (.up service)]
  | refused (error : String) : Verdict service run deadline trace .failed (some (.refused error))
      (service.reports true run none (some (.refused error)) ++
        [.cancelCall .launcher run (.startFailed service.name startPanic)])
  | panicked (payload : Payload) :
    Verdict service run deadline trace .failed (some (.panicked payload))
      [.cancelCall .launcher run (.startFailed service.name startPanic),
        .notice .main (.startPanicked service)]
  | hushed (payload : Payload) (hushed : Hushed service run trace) :
    Verdict service run deadline trace .failed (some (.panicked payload))
      [.cancelCall .launcher run (.startFailed service.name startPanic)]
  | timedOut (ending : Option Ending) : Verdict service run deadline trace .timedOut ending
      ([.notice .main (.startTimedOut service deadline),
        .cancelCall .launcher run (.startTimeout service.name deadline)] ++
          service.reports false run none ending)

/-- What a launch has made known of its start when it is cut. -/
inductive Pending (service : Placed) (run : RunId) (deadline : Duration) (trace : Trace) :
    Option Ending → List Event → Prop
  | racing (ending : Option Ending) :
    Pending service run deadline trace ending (service.reports true run none ending)
  | held {ending : Option Ending} {events : List Event}
    (verdict : Verdict service run deadline trace .failed ending events) :
    Pending service run deadline trace ending events

namespace Verdict

variable {service : Placed} {run : RunId} {deadline : Duration} {trace : Trace} {outcome : Launched}
  {ending ending' : Option Ending} {events : List Event}

/-- A verdict stays what it is when the trace goes on. -/
theorem append (verdict : Verdict service run deadline trace outcome ending events) (more : Trace) :
    Verdict service run deadline (trace ++ more) outcome ending events := by
  cases verdict with
  | started => exact .started
  | refused error => exact .refused error
  | panicked payload => exact .panicked payload
  | hushed payload hushed => exact .hushed payload (hushed.append more)
  | timedOut ending => exact .timedOut ending

/-- After its verdict a start reports only if it was given up and had not ended. -/
theorem reports (verdict : Verdict service run deadline trace outcome ending events)
    (kept : ending.isSome → ending' = ending) :
    Verdict service run deadline trace outcome ending'
      (events ++ service.reports false run ending ending') := by
  cases ended : ending with
  | some last =>
    rw [kept (by simp [ended]), ended, Placed.reports_same, List.append_nil, ← ended]
    exact verdict
  | none =>
    -- Of all that have a verdict only a start that was given up can still go on.
    subst ended
    cases verdict
    have fresh : service.reports false run none none = [] :=
      Placed.reports_same service false run none
    rw [fresh, List.append_nil]
    exact .timedOut ending'

end Verdict

namespace World

variable {α : Type} {view : Event → Option α} {service : Placed} {run : RunId} {deadline : Duration}
  {id : TaskId} {before : Trace} {ending : Option Ending} {events : List Event} {w w' : World}

/-- No start that goes on writes anything that an observer sees. -/
def Silent (view : Event → Option α) (w : World) : Prop :=
  ∀ (id : TaskId) (task : Task) (service : Placed), w.task? id = some task → task.ending = none →
    task.duty = .start service → task.aborted = false → ∀ event, event.ByStart service false →
      view event = none

/-- Where no start goes on, all observers of starts have nothing to see. -/
theorem Settled.silent (settled : w.Settled) : w.Silent view :=
  fun id task service found live duty unaborted =>
    absurd ⟨id, task, found, live, duty, unaborted⟩ (settled service)

/-- Who cannot see what is written by the starts that go on cannot see it later on either. -/
theorem Silent.passes (silent : w.Silent view) (passes : Passes w w') : w'.Silent view := by
  intro id task' service found' live' duty unaborted
  -- A start that goes on now went on before.
  obtain ⟨task, found, live, continues⟩ := passes.live found' live'
  exact silent id task service found live (continues.duty ▸ duty) (continues.aborted ▸ unaborted)

/-- An observer with nothing to see sees nothing while the supervising flow waits. -/
theorem Silent.beats {goal : World → Bool} {alarm : Nat} (silent : w.Silent view)
    (tells : Event.Tells view) (beats : Beats goal alarm w w') :
    w'.Silent view ∧ Unseen view w w' := by
  refine Beats.invariant (I := fun w' => w'.Silent view ∧ Unseen view w w') ?_ ?_ beats
    ⟨silent, .refl w⟩
  · rintro w₁ w₂ passes _ trace _ ⟨silent₁, unseen⟩
    exact ⟨silent₁.passes passes, unseen.trans (.of_trace trace)⟩
  · rintro turn w₁ ⟨silent₁, unseen⟩
    refine ⟨silent₁.passes (poll_passes turn w₁), ?_⟩
    rcases poll_acts turn w₁ with same | ⟨_, task, found, live, acts⟩
    · rwa [same]
    · refine unseen.trans (acts.unseen fun event writes => ?_)
      rcases writes with plain | ⟨service, duty, own⟩
      · exact tells.plain event plain
      · -- A start that was asked to end only says that it is abandoned.
        cases dropped : task.aborted with
        | false =>
          rw [dropped] at own
          exact silent₁ turn task service found live duty dropped event own
        | true =>
          rw [dropped] at own
          cases own
          exact tells.abandoned service

/-- The start that is spawned by a launch is the only one of which an observer sees anything who had
nothing to see. -/
theorem Silent.alone {group : GroupId} (silent : w.Silent view) (service : Placed) :
    (w.launching group run service).Alone view w.tasks.length := by
  intro other task service' found live duty unaborted
  rw [task?_launching] at found
  split at found
  · exact .inl ‹_›
  · exact .inr (silent other task service' found live duty unaborted)

/-- A call is the first one exactly if none is in the trace. -/
theorem Sound.cancel_first (sound : w.Sound) (opened : run < w.runs.length) (caller : Caller)
    (cause : Cause) :
    (w.cancel caller run cause).1 = (w.trace.firstCall run).isNone := by
  have found := List.getElem?_eq_getElem opened
  -- The switch of a run records its first call, if there was one.
  have state := sound.recorded run _ found
  unfold cancel
  rw [found]
  simp only [CancelState.first_cancel, state, CancelState.after, Option.isNone_map]
  cases (w.trace.firstCall run).isNone <;> rfl

@[simp] theorem awaiting_cancel (caller : Caller) (run : RunId) (cause : Cause) (w : World) :
    (w.cancel caller run cause).2.awaiting = w.awaiting := by
  have acts : Acts (fun _ => True) (.task 0) w (w.cancel caller run cause).2 :=
    cancel_acts trivial trivial trivial
  exact acts.awaiting (by simp)

/-- An observer of one start, of which a run is under way, knows how it stands and has seen these
events since the trace ended there. -/
structure Observed (view : Event → Option α) (service : Placed) (run : RunId) (id : TaskId)
    (before : Trace) (ending : Option Ending) (events : List Event) (w : World) : Prop where
  opened : run < w.runs.length
  alone : w.Alone view id
  natural : ending.all Ending.ofStart = true
  own : ∃ (task : Task) (later : Trace), w.task? id = some task ∧ task.duty = .start service ∧
    task.actor.run = run ∧ task.aborted = false ∧ task.ending = ending ∧
    w.trace = before ++ later ∧ events.Sublist (later.map (·.event)) ∧
    later.view view = events.filterMap view

namespace Observed

/-- What is done by others, without a word that the observer sees, leaves the start as it stands. -/
theorem spared (observed : w.Observed view service run id before ending events)
    (tasks : ∀ id, w'.task? id = w.task? id) (runs : w'.runs.length = w.runs.length)
    (unseen : Unseen view w w') :
    w'.Observed view service run id before ending events := by
  obtain ⟨task, later, found, duty, own, unaborted, ended, written, within, seen⟩ := observed.own
  obtain ⟨more, written', blind⟩ := unseen
  -- The task is the same, and what is added to the trace cannot be seen.
  refine ⟨runs ▸ observed.opened, fun other => tasks other ▸ observed.alone other, observed.natural,
    task, later ++ more, (tasks id).trans found, duty, own, unaborted, ended, ?_, ?_, ?_⟩
  · rw [written', written, List.append_assoc]
  · rw [List.map_append]
    exact within.trans (List.sublist_append_left _ _)
  · rw [Trace.view_append, blind, List.append_nil, seen]

/-- What the supervising flow does adds to what the observer sees. -/
theorem acts {may : Event → Prop} (observed : w.Observed view service run id before ending events)
    (acts : Acts may .main w w') {written shown : List Event}
    (traced : w'.trace = w.trace ++ written.map (Stamped.mk w.now)) (among : shown.Sublist written)
    (same : written.filterMap view = shown.filterMap view) :
    w'.Observed view service run id before ending (events ++ shown) := by
  obtain ⟨task, later, found, duty, own, unaborted, ended, written', within, seen⟩ := observed.own
  -- The task is none of the party that acts, so that only the trace has changed.
  refine ⟨acts.runs ▸ observed.opened,
    fun other => acts.others other (by simp) ▸ observed.alone other, observed.natural,
    task, later ++ written.map (Stamped.mk w.now), (acts.others id (by simp)).trans found, duty,
    own, unaborted, ended, ?_, ?_, ?_⟩
  · rw [traced, written', List.append_assoc]
  · rw [List.map_append, List.map_map]
    exact within.append (by simpa [Function.comp_def] using among)
  · rw [Trace.view_append, Trace.view_stamped, seen, same, List.filterMap_append]

/-- While the supervising flow waits the start may end, and then the observer sees its reports. -/
theorem beats {goal : World → Bool} {alarm : Nat}
    (observed : w.Observed view service run id before ending events) (tells : Event.Tells view)
    -- What others do meanwhile is kept from the observer by their silence.
    (beats : Beats goal alarm w w') :
    w'.awaiting = w.awaiting ∧ ∃ ending', (ending.isSome → ending' = ending) ∧
      w'.Observed view service run id before ending'
        (events ++ service.reports (decide (w.awaiting = some id)) run ending ending') := by
  obtain ⟨task, later, found, duty, rfl, unaborted, rfl, written, within, seen⟩ := observed.own
  -- What the start has reported meanwhile is added to what was seen of it.
  have reports := beats.reports tells found duty unaborted observed.opened observed.alone
  obtain ⟨task', more, found', continues, natural, written', among, shown⟩ := reports.own
  refine ⟨reports.awaiting, task'.ending, continues.ended, ?_⟩
  refine ⟨reports.passes.runs ▸ observed.opened, reports.alone, natural observed.natural,
    task', later ++ more, found', continues.duty.trans duty,
    congrArg Actor.run continues.actor, continues.aborted.trans unaborted, rfl,
    ?_, ?_, ?_⟩
  · rw [written', written, List.append_assoc]
  · rw [List.map_append]
    exact within.append among
  · rw [Trace.view_append, seen, shown, List.filterMap_append]

/-- What was seen later can be counted from an earlier trace, if nothing was to be seen until
then. -/
theorem since (observed : w'.Observed view service run id w.trace ending events)
    (saw : w.Saw view before []) :
    w'.Observed view service run id before ending events := by
  obtain ⟨between, written, blind⟩ := saw
  obtain ⟨task, later, found, duty, own, unaborted, ended, written', within, seen⟩ := observed.own
  -- The observer has seen nothing of what was written between the two traces.
  refine ⟨observed.opened, observed.alone, observed.natural, task, between ++ later, found, duty,
    own, unaborted, ended, ?_, ?_, ?_⟩
  · rw [written', written, List.append_assoc]
  · rw [List.map_append]
    exact within.trans (List.sublist_append_right _ _)
  · rw [Trace.view_append, blind, List.nil_append, seen]

/-- A start that is launched is observed from its launch on. -/
theorem launching {group : GroupId} (tells : Event.Tells view) (silent : w.Silent view)
    (opened : run < w.runs.length) (service : Placed) :
    (w.launching group run service).Observed view service run w.tasks.length w.trace none [] where
  opened := opened
  alone := silent.alone service
  natural := rfl
  own := by
    refine ⟨startTask run service, [⟨w.now, .launched service⟩], ?_, rfl, rfl, rfl, rfl, rfl,
      List.nil_sublist _, ?_⟩
    · rw [task?_launching, if_pos rfl]
    · simp [Trace.view, tells.launched]

/-- A call by the launcher is seen as one, whatever else is written with it. -/
theorem calls (observed : w.Observed view service run id before ending events)
    (tells : Event.Tells view) (cause : Cause) :
    (w.cancel .launcher run cause).2.Observed view service run id before ending
      (events ++ [.cancelCall .launcher run cause]) := by
  have acts : Acts (fun _ => True) .main w (w.cancel .launcher run cause).2 :=
    cancel_acts trivial trivial trivial
  refine observed.acts acts (cancel_written .launcher cause observed.opened) (by simp) ?_
  -- What is written with it is plain.
  have plain : ∀ c : Prop, [Decidable c] →
      view
        (if c then .count (.cancellation run cause) else .notice .main (.cancelledAlready cause)) =
        none := by
    intro c _
    split <;> exact tells.plain _ rfl
  simp [Caller.origin, List.filterMap_cons, plain]

/-- Where a call for the run is among what an observer has seen, the run has a first call. -/
theorem called (observed : w.Observed view service run id before ending events) {caller : Caller}
    {cause : Cause} (member : .cancelCall caller run cause ∈ events) :
    (w.trace.firstCall run).isNone = false := by
  obtain ⟨task, later, -, -, -, -, -, written, within, -⟩ := observed.own
  -- What was seen is among what was written, and there the call can be found.
  obtain ⟨⟨time, event⟩, listed, same⟩ := List.mem_map.mp (within.subset member)
  rw [Option.isNone_eq_false_iff, Trace.firstCall, List.findSome?_isSome_iff]
  refine ⟨_, written ▸ List.mem_append_right before listed, ?_⟩
  cases same
  simp [Stamped.call?]

/-- A line of the log is one more event that the observer may see. -/
theorem tells
    (observed : w.Observed view service run id before ending events) (n : Notice) :
    (w.notice .main n).Observed view service run id before ending
      (events ++ [.notice .main n]) := by
  have acts : Acts (fun _ => True) .main w (w.notice .main n) := emit_acts trivial rfl
  exact observed.acts acts rfl (.refl _) rfl

end Observed

/-- An observer of one start knows how it stands, and has seen what such a condition allows. -/
def Known (view : Event → Option α) (service : Placed) (run : RunId) (id : TaskId) (before : Trace)
    (allows : Trace → Option Ending → List Event → Prop) (w : World) : Prop :=
  ∃ ending events, w.Observed view service run id before ending events ∧
    allows w.trace ending events

/-- A start that the launcher does not wait for any more is known by its verdict. -/
structure Accounted (view : Event → Option α) (service : Placed) (run : RunId) (deadline : Duration)
    (id : TaskId) (before : Trace) (outcome : Launched) (w : World) : Prop where
  unheard : w.awaiting ≠ some id
  known : w.Known view service run id before (Verdict service run deadline · outcome)

namespace Accounted

variable {outcome : Launched}

/-- A start that is accounted for may still end, and remains accounted for. -/
theorem beats {goal : World → Bool} {alarm : Nat}
    (accounted : w.Accounted view service run deadline id before outcome) (tells : Event.Tells view)
    (beats : Beats goal alarm w w') : w'.Accounted view service run deadline id before outcome := by
  obtain ⟨unheard, ending, events, observed, verdict⟩ := accounted
  obtain ⟨awaiting, ending', kept, observed'⟩ := observed.beats tells beats
  obtain ⟨later, written, -⟩ := beats.passes.trace
  refine ⟨awaiting ▸ unheard, ending', _, observed', ?_⟩
  -- It is not heard any more, so that it says that it is late if it ends well now.
  simp only [decide_eq_false unheard, written]
  exact (verdict.append later).reports kept

/-- What is done by others, without a word that the observer sees, leaves the start accounted
for. -/
theorem spared (accounted : w.Accounted view service run deadline id before outcome)
    (tasks : ∀ id, w'.task? id = w.task? id) (runs : w'.runs.length = w.runs.length)
    (unheard : w'.awaiting ≠ some id) (unseen : Unseen view w w') :
    w'.Accounted view service run deadline id before outcome := by
  obtain ⟨-, ending, events, observed, verdict⟩ := accounted
  have observed' := observed.spared tasks runs unseen
  obtain ⟨later, written, -⟩ := unseen
  exact ⟨unheard, ending, events, observed', written ▸ verdict.append later⟩

/-- What is accounted for since a later trace is accounted for since an earlier one. -/
theorem since (accounted : w'.Accounted view service run deadline id w.trace outcome)
    (saw : w.Saw view before []) :
    w'.Accounted view service run deadline id before outcome :=
  ⟨accounted.unheard, accounted.known.imp fun _ known => known.imp fun _ known =>
    known.imp_left (·.since saw)⟩

end Accounted

end World

namespace Flow

open World

variable {α : Type} {view : Event → Option α} {group : GroupId} {run : RunId} {deadline : Duration}
  {service : Placed} {id : TaskId} {before : Trace} {ending : Option Ending} {w : World}

/-- While the supervising flow sleeps, a start that is accounted for remains so. -/
theorem sleepUntil_accounted {outcome : Launched} (tells : Event.Tells view)
    (accounted : w.Accounted view service run deadline id before outcome) (time : Nat) :
    (sleepUntil time).Yields w
      (fun _ w' => w'.Accounted view service run deadline id before outcome)
      fun _ w' => w'.Accounted view service run deadline id before outcome := by
  simp only [sleepUntil, yields_bind]
  refine pause_yields (fun w' beats _ _ => ?_) fun w' _ beats _ => accounted.beats tells beats
  split
  · exact accounted.beats tells beats
  · exact accounted.beats tells beats

/-- A start that has ended without success is held: the launcher calls off its run, and speaks of a
panic if nobody had done so. -/
theorem holdFailed_verdict (tells : Event.Tells view)
    (observed : w.Observed view service run id before ending (service.reports true run none ending))
    (idle : w.awaiting = none) (sound : w.Sound) (ended : ending.isSome) (ill : ending ≠ some .done)
    (due : Nat) :
    (holdFailed run service due).Yields w
      (fun outcome w' => w'.Accounted view service run deadline id before outcome)
      fun _ w' => w'.Accounted view service run deadline id before .failed := by
  have called := observed.calls tells (.startFailed service.name startPanic)
  have first := sound.cancel_first observed.opened .launcher (.startFailed service.name startPanic)
  have unheard : (w.cancel .launcher run (.startFailed service.name startPanic)).2.awaiting ≠
    some id := by simp [idle]
  simp only [holdFailed, yields_bind, yields_answer]
  -- A start that was refused has called off the run itself, so that the launcher is not the first
  -- to do so.
  obtain ⟨error, rfl⟩ | ⟨payload, rfl⟩ :
      (∃ error, ending = some (.refused error)) ∨ ∃ payload, ending = some (.panicked payload) := by
    have natural := observed.natural
    cases ending with
    | none => simp at ended
    | some last => cases last <;> simp_all [Ending.ofStart]
  -- One that was refused has cancelled the run already, so that the launcher's call is not the
  -- first and it has nothing to say.
  · have later : (w.cancel .launcher run (.startFailed service.name startPanic)).1 = false := by
      rw [first, observed.called (.tail _ (.tail _ (.head _)))]
    rw [later, if_neg Bool.false_ne_true]
    simp only [yields_bind, yields_pure]
    exact sleepUntil_accounted tells ⟨unheard, _, _, called, .refused error⟩ due
  · -- One that panicked has not called, so that the launcher is the first unless somebody else was.
    have quiet : service.reports true run none (some (.panicked payload)) = [] := rfl
    rw [quiet, List.nil_append] at called
    cases won : (w.cancel .launcher run (.startFailed service.name startPanic)).1 with
    | true =>
      simp only [if_true, yields_bind, yields_notice, yields_pure]
      have spoken := called.tells (.startPanicked service)
      exact sleepUntil_accounted tells (w := World.notice _ _ _) ⟨unheard, _, _, spoken,
        .panicked payload⟩ due
    | false =>
      rw [if_neg Bool.false_ne_true]
      simp only [yields_bind, yields_pure]
      -- The first call lies before the one of the launcher, who takes the panic for an error.
      have hushed :
        Hushed service run
          (w.cancel .launcher run (.startFailed service.name startPanic)).2.trace :=
        ⟨w.trace, _, w.now, cancel_written _ _ observed.opened,
          by rw [won] at first; simpa using first⟩
      exact sleepUntil_accounted tells ⟨unheard, _, _, called, .hushed payload hushed⟩ due

/-- After the race, a start that has ended well has won, one that has ended otherwise is held, and
one that has not ended is given up. -/
theorem resolve_verdict {ended : Bool} (tells : Event.Tells view)
    (observed : w.Observed view service run id before ending (service.reports true run none ending))
    (idle : w.awaiting = none) (sound : w.Sound) (same : ended = w.isEnded id) (due : Nat) :
    (resolve run service deadline due id ended).Yields w
      (fun outcome w' => w'.Accounted view service run deadline id before outcome)
      fun _ w' => w'.Known view service run id before (Pending service run deadline) := by
  obtain ⟨task, -, found, -, -, -, stands, -⟩ := observed.own
  -- The launcher looks at the start itself, so that what it finds is what the observer knows.
  have isEnded : ended = ending.isSome := by simp [same, isEnded, found, stands]
  have endedWell : w.endedWell id = (ending == some .done) := by simp [endedWell, found, stands]
  cases ended with
  | true =>
    simp only [resolve, if_true, yields_bind, yields_look, endedWell]
    split
    -- It has ended well or ill, and only in the second case does the launcher say anything.
    · rename_i well
      rw [beq_iff_eq] at well
      subst well
      exact ⟨by simp [idle], _, _, observed, .started⟩
    · rename_i ill
      refine (holdFailed_verdict tells observed idle sound isEnded.symm
        (by simpa using ill) due).mono
        (fun _ _ accounted => accounted) ?_
      rintro _ w' ⟨-, ending', events, observed', verdict⟩
      -- What the launcher sleeps out after a failure changes neither the start nor its verdict.
      exact ⟨ending', events, observed', .held verdict⟩
  | false =>
    simp only [resolve, Bool.false_eq_true, if_false, yields_bind, yields_look]
    split
    · -- It had not ended, so that it has not reported anything yet.
      obtain rfl : ending = none := by simpa using isEnded
      simp only [giveUp, yields_bind, yields_notice, yields_answer, yields_pure]
      exact ⟨by simp [idle, World.notice, World.emit], _, _,
        (observed.tells (.startTimedOut service deadline)).calls tells _,
        .timedOut none⟩
    · exact ⟨_, _, observed, .racing ending⟩

/-- What a launch makes known of its start to an observer who had nothing to see before. -/
theorem launch_verdict (tells : Event.Tells view) (silent : w.Silent view) (sound : w.Sound)
    (opened : run < w.runs.length) :
    (launch group run service deadline).Yields w
      (fun outcome w' => w'.Accounted view service run deadline w.tasks.length w.trace outcome)
      fun _ w' =>
        w'.Known view service run w.tasks.length w.trace (Pending service run deadline) := by
  have begun :
    (w.launching group run service).Observed view service run w.tasks.length w.trace none [] :=
    .launching tells silent opened service
  simp only [launch, yields_bind, yields_answer, yields_emit, yields_look]
  split
  · -- A deadline that lies beyond the clock cuts the launch before the race.
    exact ⟨none, [], begun, .racing none⟩
  · simp only [race, yields_bind, yields_change, yields_pure]
    have noted : ({ w.launching group run service with
        awaiting := some w.tasks.length } : World).Observed
          view service run w.tasks.length w.trace none [] :=
      begun.spared (fun _ => rfl) rfl (.of_trace rfl)
    -- During the race the start is heard, and afterwards it is not.
    have raced : ∀ {goal : World → Bool} {alarm : Nat} {w₁ : World},
        Beats goal alarm { w.launching group run service with awaiting := some w.tasks.length } w₁ →
        ∃ ending, w₁.Observed view service run w.tasks.length w.trace ending
          (service.reports true run none ending) := by
      intro goal alarm w₁ beats
      obtain ⟨-, ending, -, observed⟩ := noted.beats tells beats
      exact ⟨ending, by simpa using observed⟩
    refine pause_yields (fun w₁ beats going unmet => ?_) fun w₁ code beats gone => ?_
    · obtain ⟨ending, observed⟩ := raced beats
      have observed₁ : ({ w₁ with awaiting := none } : World).Observed view service run
          w.tasks.length w.trace ending (service.reports true run none ending) :=
        observed.spared (fun _ => rfl) rfl (.of_trace rfl)
      have sound₁ : ({ w₁ with awaiting := none } : World).Sound :=
        (beats.passes.sound ((sound.launching service).same rfl rfl rfl rfl)).same rfl rfl rfl rfl
      exact resolve_verdict tells observed₁ rfl sound₁ rfl _
    -- The process has exited during the race, so that nothing more is to be seen.
    · obtain ⟨ending, observed⟩ := raced beats
      exact ⟨ending, _, observed, .racing ending⟩

end Flow

end Warden.Supervision
