import Warden.Proofs.Supervision.Observing

/-!
The race of one start with its deadline: it has ended well exactly if it has reported that it is up.
-/

namespace Warden.Supervision

namespace World

variable {service : Placed} {id : TaskId} {w w' : World}

/-- A script that stands at its end has its task marked with the ending, whatever is written with
it. -/
theorem task?_finish {task : Task} (ending : Ending) (found : w.task? id = some task) :
    (w.finish id ending).task? id = some { task with ending := some ending } := by
  simp only [task?] at found
  simp [task?, finish, changeTask, List.getElem?_modify_eq, found]

/-- What a call leaves in the trace: itself, and that it was the first one or that it was not. -/
theorem cancel_written {run : RunId} (caller : Caller) (cause : Cause)
    (opened : run < w.runs.length) :
    (w.cancel caller run cause).2.trace = w.trace ++ [Event.cancelCall caller run cause,
      if (w.cancel caller run cause).1 then .count (.cancellation run cause)
      else .notice caller.origin (.cancelledAlready cause)].map (Stamped.mk w.now) := by
  unfold cancel
  rw [List.getElem?_eq_getElem opened]
  have now : (w.trip caller run cause w.runs[run]).now = w.now := by
    -- To trip the switch of a run wakes tasks and writes nothing.
    obtain ⟨ready, same⟩ := trip_eq caller run cause w.runs[run] w
    rw [same]
  dsimp only
  -- Both cases of the answer write one more event behind the call.
  split <;> simp [emit, notice, now]

end World

/-- What the start of a service writes when it comes from the one ending, if it has ended, to the
other: a start that is up says so, and that it is late unless it is heard; one that is refused says
so twice and calls off the run. -/
def Placed.reports (service : Placed) (heard : Bool) (run : RunId) :
    Option Ending → Option Ending → List Event
  | none, some .done =>
    .deed (.up service) :: if heard then [] else [.notice .task (.lateStart service)]
  | none, some (.refused error) =>
    [.deed (.startFailed service), .notice .task (.startFailed service error),
      .cancelCall .start run (.startFailed service.name error)]
  | _, _ => []

/-- A start that has ended, or has not yet, writes nothing of that kind. -/
theorem Placed.reports_same (service : Placed) (heard : Bool) (run : RunId)
    (ending : Option Ending) :
    service.reports heard run ending ending = [] := by
  rcases ending with _ | ending
  · rfl
  · cases ending <;> rfl

/-- Whether a start comes to such an ending by itself. -/
def Ending.ofStart : Ending → Bool
  | .done | .refused _ | .panicked _ => true
  | .failed _ | .dropped => false

/-- An observer who looks only at how starts end takes no notice of what scripts do, of starts that
are launched or begin, and of those that are dropped. -/
structure Event.Tells {α : Type} (view : Event → Option α) : Prop where
  plain : ∀ event : Event, event.isPlain = true → view event = none
  launched : ∀ service, view (.launched service) = none
  begun : ∀ service, view (.deed (.start service)) = none
  abandoned : ∀ service, view (.abandoned service) = none

namespace World

variable {α : Type} {view : Event → Option α} {service : Placed} {id : TaskId} {w w' : World}

/-- A start comes to its end: it writes the reports of that end, and nothing else that an observer
sees. -/
def Finishes (view : Event → Option α) (service : Placed) (id : TaskId) (run : RunId) (task : Task)
    (w w' : World) : Prop :=
  ∃ (events : List Event) (ending : Ending), w'.trace = w.trace ++ events.map (Stamped.mk w.now) ∧
    w'.task? id = some { task with ending := some ending } ∧ ending.ofStart = true ∧
    (service.reports (decide (w.awaiting = some id)) run none (some ending)).Sublist events ∧
    events.filterMap view =
      (service.reports (decide (w.awaiting = some id)) run none (some ending)).filterMap view

/-- A start that is refused also leaves what every call leaves, which is plain. -/
theorem fail_reports {task : Task} (service : Placed) (tells : Event.Tells view)
    (found : w.task? id = some task) {run : RunId} (opened : run < w.runs.length) (error : String) :
    Finishes view service id run task w (endStart.fail id run service w error) := by
  -- Two words of the start itself, then its call, and then what every call leaves.
  set told :=
    (w.emit (.deed (.startFailed service))).notice .task (.startFailed service error) with said
  have written := cancel_written (w := told) .start (.startFailed service.name error) opened
  generalize after : (if (told.cancel .start run (.startFailed service.name error)).1 then
    Event.count (.cancellation run (.startFailed service.name error))
    else .notice Caller.start.origin (.cancelledAlready (.startFailed service.name error))) =
      left at written
  have plain : left.isPlain = true := by
    rw [← after]
    split <;> rfl
  -- The ending is the refusal, and of the four events the first three are its reports.
  refine ⟨[.deed (.startFailed service), .notice .task (.startFailed service error),
    .cancelCall .start run (.startFailed service.name error), left], .refused error, ?_, ?_,
      rfl, ?_, ?_⟩
  · show (told.cancel .start run (.startFailed service.name error)).2.trace = _
    rw [written]
    simp [said, notice, emit]
  · exact task?_finish _ (by simpa [task?, said] using found)
  · exact List.prefix_append [_, _, _] [left] |>.sublist
  · simp [Placed.reports, List.filterMap_cons, tells.plain _ plain]

/-- A start whose script ends writes the reports of its end, and nothing else that tells how starts
end. -/
theorem endStart_reports {task : Task} (service : Placed) (tells : Event.Tells view)
    (found : w.task? id = some task) {run : RunId} (opened : run < w.runs.length)
    (outcome : Outcome) :
    Finishes view service id run task w (w.endStart id run service outcome) := by
  -- A start that is up says so, and also that it is late if nobody listens; a panic writes nothing.
  cases outcome with
  | done =>
    -- The word that it is late depends on whether the launcher still awaits this start.
    simp only [endStart]
    split
    · rename_i heard
      have heard : w.awaiting = some id := heard
      refine ⟨[.deed (.up service)], .done, rfl, task?_finish _ found, rfl, ?_, ?_⟩ <;>
        simp [Placed.reports, heard]
    · rename_i unheard
      have unheard : ¬ w.awaiting = some id := unheard
      refine ⟨[.deed (.up service), .notice .task (.lateStart service)], .done, ?_,
        task?_finish _ found, rfl, ?_, ?_⟩
      · simp [finish, changeTask, notice, emit]
      · simp [Placed.reports, unheard]
      · simp [Placed.reports, unheard]
  | panicked payload =>
    exact ⟨[], .panicked payload, (List.append_nil _).symm, task?_finish _ found, rfl,
      List.nil_sublist _, rfl⟩
  -- Both kinds of error are refusals; they differ in the text only.
  | failed error => exact fail_reports service tells found opened error
  | failedWith error => exact fail_reports service tells found opened error.text

/-- A start that has its turn goes on, or ends with the reports of its end. -/
theorem poll_start {task : Task} (tells : Event.Tells view) (found : w.task? id = some task)
    (live : task.ending = none) (unaborted : task.aborted = false)
    (duty : task.duty = .start service) (going : w.exited = none)
    (opened : task.actor.run < w.runs.length) :
    ∃ (events : List Event) (task' : Task),
      (w.poll id).trace = w.trace ++ events.map (Stamped.mk w.now) ∧
      (w.poll id).task? id = some task' ∧ task'.ending.all Ending.ofStart = true ∧
      (service.reports (decide (w.awaiting = some id)) task.actor.run none task'.ending).Sublist
        events ∧
      events.filterMap view =
        (service.reports (decide (w.awaiting = some id)) task.actor.run none task'.ending).filterMap
          view := by
  rw [poll_script found live going unaborted duty]
  -- Before the script ends, nothing is written that tells how starts end.
  have ran : Acts (fun event => view event = none) (.task id) w
      ((w.resume task).runSteps (.task id) task.actor task.steps).2 :=
    (resume_acts (fun event plain _ => tells.plain event plain) fun service _ =>
      tells.begun service).trans
      (runSteps_acts (fun event plain _ => tells.plain event plain) (tells.plain _ rfl) _)
  have tasks : ((w.resume task).runSteps (.task id) task.actor task.steps).2.tasks = w.tasks := by
    simp
  unfold pollScript
  -- Either its wait is over and the script runs, or it goes on waiting and writes nothing.
  split
  · generalize (w.resume task).runSteps (.task id) task.actor task.steps = reached at ran tasks
    obtain ⟨events, written, silent⟩ := ran.trace
    have unseen : events.filterMap view = [] := List.filterMap_eq_nil_iff.mpr silent
    have found₁ : reached.2.task? id = some task := by simpa [task?, tasks] using found
    rcases reached with ⟨⟨wait, left⟩ | outcome, w₁⟩ <;> dsimp only at written found₁ ran
    -- The script has to wait again, so that there is nothing to report yet.
    · refine ⟨events, { task with wait := wait, steps := left }, written, ?_, ?_, ?_, ?_⟩
      · simp only [task?] at found₁
        simp [task?, changeTask, List.getElem?_modify_eq, found₁]
      · simp [live]
      · simp [Placed.reports, live]
      · simp [Placed.reports, live, unseen]
    -- The script has ended, and its reports follow what it has written before.
    · have awaiting : w₁.awaiting = w.awaiting := ran.awaiting (by simp)
      obtain ⟨more, ending, written', found', natural, within, seen⟩ :=
        endStart_reports service tells found₁ (ran.runs.symm ▸ opened) outcome
      rw [awaiting] at within seen
      refine ⟨events ++ more, { task with ending := some ending }, ?_, ?_,
        by simpa using natural, ?_, ?_⟩
      · have now : w₁.now = w.now := ran.now
        simp only [endScript, duty, written', written, now, List.map_append, List.append_assoc]
      · simpa only [endScript, duty] using found'
      · exact within.trans (List.sublist_append_right events more)
      · rw [List.filterMap_append, unseen, List.nil_append, seen]
  · refine ⟨[], task, (List.append_nil _).symm, found, ?_, ?_, ?_⟩ <;> simp [Placed.reports, live]

/-- Of all starts that go on, only this one writes anything that an observer sees. -/
def Alone (view : Event → Option α) (id : TaskId) (w : World) : Prop :=
  ∀ (other : TaskId) (task : Task) (service : Placed), w.task? other = some task →
    task.ending = none → task.duty = .start service → task.aborted = false →
      other = id ∨ ∀ event, event.ByStart service false → view event = none

/-- No start begins while time passes, so that it stays the only one. -/
theorem Alone.passes (alone : w.Alone view id) (passes : Passes w w') : w'.Alone view id := by
  -- Whoever goes on now was going on before, with the same duty.
  intro other task' service found' live' duty unaborted
  obtain ⟨task, found, live, continues⟩ := passes.live found' live'
  exact alone other task service found live (continues.duty ▸ duty) (continues.aborted ▸ unaborted)

/-- A turn of somebody else shows nothing to an observer who looks only at this start. -/
theorem Alone.unseen {turn : TaskId} {task : Task} (alone : w.Alone view id)
    (tells : Event.Tells view) (found : w.task? turn = some task) (live : task.ending = none)
    (other : turn ≠ id) {event : Event} (writes : task.MayWrite event) : view event = none := by
  -- What it writes is plain, or the word of another start, of which the observer takes no notice.
  rcases writes with plain | ⟨service, duty, own⟩
  · exact tells.plain event plain
  -- Of a start that was asked to end at most the word is left that it was abandoned.
  · cases dropped : task.aborted with
    | false =>
      rw [dropped] at own
      exact (alone turn task service found live duty dropped).resolve_left other event own
    | true =>
      rw [dropped] at own
      cases own
      exact tells.abandoned service

/-- What a start writes during a wait is what it reports when it ends; an observer of this start
sees nothing else. -/
structure Reports (view : Event → Option α) (service : Placed) (id : TaskId) (task : Task)
    (w w' : World) : Prop where
  passes : Passes w w'
  awaiting : w'.awaiting = w.awaiting
  alone : w'.Alone view id
  own : ∃ (task' : Task) (later : Trace), w'.task? id = some task' ∧ task.Continues task' ∧
    (task.ending.all Ending.ofStart = true → task'.ending.all Ending.ofStart = true) ∧
    w'.trace = w.trace ++ later ∧
    (service.reports (decide (w.awaiting = some id)) task.actor.run task.ending
      task'.ending).Sublist (later.map (·.event)) ∧
    later.view view =
      (service.reports (decide (w.awaiting = some id)) task.actor.run task.ending
        task'.ending).filterMap view

section Turns

variable {task task₁ : Task} {w₁ : World} (reports : Reports view service id task w w₁)
  (tells : Event.Tells view)

include reports tells

/-- In its turn a start whose reports are still to come goes on, or writes them. -/
theorem Reports.ownTurn (duty : task.duty = .start service) (unaborted : task.aborted = false)
    (opened : task.actor.run < w.runs.length) (going : w₁.exited = none)
    (found : w₁.task? id = some task₁) (live : task₁.ending = none)
    (acts : Acts task₁.MayWrite (.task id) w₁ (w₁.poll id)) :
    Reports view service id task w (w₁.poll id) := by
  have passes := poll_passes id w₁
  obtain ⟨task₂, later, found₂, continues, natural, written, within, seen⟩ := reports.own
  cases found₂.symm.trans found
  obtain ⟨events, task', written', found', natural', within', seen'⟩ := poll_start tells found live
    (continues.aborted.trans unaborted) (continues.duty.trans duty) going
    (by rw [continues.actor, reports.passes.runs]; exact opened)
  obtain ⟨task'', found'', continues'⟩ := passes.own id task₁ found
  cases found'.symm.trans found''
  -- It goes on now, so that it went on when the wait began, and nothing was reported until now.
  have unended : task.ending = none := by
    cases ending : task.ending with
    | none => rfl
    | some _ => simp [continues.ended (by simp [ending]), ending] at live
  rw [reports.awaiting, continues.actor] at within' seen'
  rw [unended, live, Placed.reports_same] at seen
  refine ⟨reports.passes.trans passes, (acts.awaiting (by simp)).trans reports.awaiting,
    reports.alone.passes passes, task', later ++ events.map (Stamped.mk w₁.now), found',
    continues.trans continues', fun _ => natural',
    by rw [written', written, List.append_assoc], ?_, ?_⟩
  · rw [unended, List.map_append, List.map_map]
    refine within'.trans ?_
    simp [Function.comp_def]
  · rw [unended, Trace.view_append, seen, Trace.view_stamped, seen']
    rfl

/-- The turn of somebody else leaves the start as it is, and shows nothing to its observer. -/
theorem Reports.otherTurn {turn : TaskId} (other : turn ≠ id) (found : w₁.task? turn = some task₁)
    (live : task₁.ending = none) (acts : Acts task₁.MayWrite (.task turn) w₁ (w₁.poll turn)) :
    Reports view service id task w (w₁.poll turn) := by
  have passes := poll_passes turn w₁
  obtain ⟨task₂, later, found₂, continues, natural, written, within, seen⟩ := reports.own
  -- Whoever has the turn may write, but nothing that this observer looks at.
  obtain ⟨events, written', may⟩ := acts.trace
  have unseen : events.filterMap view = [] :=
    List.filterMap_eq_nil_iff.mpr fun event member =>
      reports.alone.unseen tells found live other (may event member)
  refine ⟨reports.passes.trans passes, (acts.awaiting (by simp)).trans reports.awaiting,
    reports.alone.passes passes, task₂, later ++ events.map (Stamped.mk w₁.now), ?_, continues,
    natural, by rw [written', written, List.append_assoc], ?_, ?_⟩
  · exact (acts.others id fun party => other (Party.task.inj party)).trans found₂
  · rw [List.map_append]
    exact within.trans (List.sublist_append_left _ _)
  · rw [Trace.view_append, Trace.view_stamped, unseen, List.append_nil, seen]

end Turns

/-- While the supervising flow waits, a start writes its reports and nobody else writes anything
that its observer sees. -/
theorem Beats.reports {goal : World → Bool} {alarm : Nat} {task : Task}
    (beats : Beats goal alarm w w') (tells : Event.Tells view) (found : w.task? id = some task)
    (duty : task.duty = .start service) (unaborted : task.aborted = false)
    (opened : task.actor.run < w.runs.length) (alone : w.Alone view id) :
    Reports view service id task w w' := by
  -- By the turns of the wait; where no task has one, nothing is written at all.
  refine Beats.invariant (I := Reports view service id task w) ?_ ?_ beats ?_
  · intro w₁ w₂ passes tasks trace awaiting before
    refine ⟨before.passes.trans passes, awaiting.trans before.awaiting,
      before.alone.passes passes, ?_⟩
    simp only [task?, tasks, trace]
    exact before.own
  · intro turn w₁ before
    rcases poll_acts turn w₁ with same | ⟨going, task₁, found₁, live, acts⟩
    · rw [same]
      exact before
    · by_cases own : turn = id
      · subst own
        exact before.ownTurn tells duty unaborted opened going found₁ live acts
      · exact before.otherTurn tells own found₁ live acts
  · refine ⟨.refl w, rfl, alone, task, [], found, .refl task, fun natural => natural,
      (List.append_nil _).symm, ?_, ?_⟩ <;>
      simp [Placed.reports_same]

/-- The observer who waits for the word that a service is up. -/
def upOf (service : Placed) (event : Event) : Option Unit :=
  if event = .deed (.up service) then some () else none

/-- This observer looks only at the end of a start. -/
theorem upOf_tells (service : Placed) : Event.Tells (upOf service) where
  plain := by
    intro event plain
    -- No plain event is the word of a start.
    refine if_neg fun up => ?_
    rw [up] at plain
    cases plain
  launched := fun _ => rfl
  begun := fun _ => rfl
  abandoned := fun _ => rfl

/-- A start takes part in its race: it has ended well exactly if it has reported so, and no other
start of the service goes on. -/
structure Contest (service : Placed) (id : TaskId) (before : Trace) (w : World) : Prop where
  own : ∃ (task : Task) (later : Trace), w.task? id = some task ∧ task.duty = .start service ∧
    task.aborted = false ∧ task.actor.run < w.runs.length ∧ w.trace = before ++ later ∧
    (task.ending = some .done ↔ ∃ time, ⟨time, .deed (.up service)⟩ ∈ later)
  alone : ∀ (other : TaskId) (task : Task), w.task? other = some task → task.ending = none →
    task.duty = .start service → task.aborted = false → other = id

variable {before : Trace}

/-- The start has ended well exactly if it has reported. -/
theorem Contest.endedWell_iff (contest : w.Contest service id before) {later : Trace}
    (written : w.trace = before ++ later) :
    w.endedWell id = true ↔ ∃ time, (⟨time, .deed (.up service)⟩ : Stamped) ∈ later := by
  obtain ⟨task, later', found, _, _, _, written', reported⟩ := contest.own
  -- What was written since is determined by the whole, so that both speak of the same part.
  cases List.append_cancel_left (written.symm.trans written')
  rw [← reported]
  simp [endedWell, found]

/-- Once the start that takes part has ended, no start of the service goes on. -/
theorem Contest.not_starting (contest : w.Contest service id before) (ended : w.isEnded id = true) :
    ¬ w.Starting service := by
  obtain ⟨task, _, found, _⟩ := contest.own
  rintro ⟨other, task', found', live, duty, unaborted⟩
  -- The start that goes on would be the one that takes part, and that has ended.
  cases contest.alone other task' found' live duty unaborted
  cases found.symm.trans found'
  simp [isEnded, found, live] at ended

/-- Nothing that happens while the supervising flow waits spoils the race. -/
theorem Contest.beats {goal : World → Bool} {alarm : Nat} (contest : w.Contest service id before)
    (beats : Beats goal alarm w w') : w'.Contest service id before := by
  obtain ⟨task, later, found, duty, unaborted, opened, written, reported⟩ := contest.own
  -- Only a start of the service itself could report that it is up, and no other one goes on.
  have alone : w.Alone (upOf service) id := by
    intro other task' service' found' live' duty' unaborted'
    by_cases same : service' = service
    · exact .inl (contest.alone other task' found' live' (same ▸ duty') unaborted')
    · refine .inr fun event own => if_neg fun up => ?_
      rw [up] at own
      cases own
      exact same rfl
  have reports := beats.reports (upOf_tells service) found duty unaborted opened alone
  obtain ⟨task', more, found', continues, -, written', within, seen⟩ := reports.own
  refine ⟨⟨task', later ++ more, found', continues.duty.trans duty,
    continues.aborted.trans unaborted, ?_, by rw [written', written, List.append_assoc], ?_⟩, ?_⟩
  · rw [continues.actor, reports.passes.runs]
    exact opened
  · -- What was reported before stays reported, and what is new is what the observer sees.
    have heard : (∃ time, (⟨time, .deed (.up service)⟩ : Stamped) ∈ more) ↔
      () ∈ more.view (upOf service) := by
      simp only [Trace.view, List.mem_filterMap, upOf]
      constructor
      · rintro ⟨time, member⟩
        exact ⟨_, member, if_pos rfl⟩
      · rintro ⟨⟨time, event⟩, member, up⟩
        split at up
        · rename_i same
          exact ⟨time, same ▸ member⟩
        · cases up
    simp only [List.mem_append, exists_or, ← reported, heard, seen]
    -- If it had ended before, there is nothing new; otherwise its reports are those of its ending
    -- now.
    cases ending : task.ending with
    | none => cases ending' : task'.ending with
      | none => simp [Placed.reports]
      | some ended => cases ended <;> simp [Placed.reports, upOf]
    | some ended =>
      rw [continues.ended (by simp [ending]), ending, Placed.reports_same]
      simp
  · intro other task₂ found₂ live₂ duty₂ unaborted₂
    obtain ⟨task₃, found₃, live₃, continues₃⟩ := reports.passes.live found₂ live₂
    exact contest.alone other task₃ found₃ live₃ (continues₃.duty ▸ duty₂)
      (continues₃.aborted ▸ unaborted₂)

end World

namespace Flow

open World

/-- Why a flow does not go on although no script panicked: the process is gone, or the horizon is
reached before the flow was to be called. -/
def Ceases (due : Nat) (halt : Halt) (w : World) : Prop :=
  (∃ code, halt = .exited code ∧ w.exited = some code) ∨ halt = .stuck ∧
    w.horizon ≤ w.now ∧ w.now < due

/-- A race ends before its deadline if the start has ended, and at its deadline if it has not. -/
theorem race_yields {service : Placed} {id : TaskId} {before : Trace} {due : Nat} {w : World}
    (contest : w.Contest service id before) (unended : w.isEnded id = false) (early : w.now ≤ due) :
    (race id due).Yields w
      (fun ended w' => w'.exited = none ∧ w'.Contest service id before ∧ ended = w'.isEnded id ∧
        w'.now ≤ due ∧ (ended = true → w'.now < due) ∧
        (ended = false → due ≤ w'.now ∨ w'.horizon ≤ w'.now))
      fun halt w' => ∃ code, halt = .exited code ∧ w'.exited = some code := by
  -- The wait has the end of the start as its goal, and that can only be met in a turn, before the
  -- alarm.
  have noted : ∀ {w : World} (awaiting : Option TaskId), w.Contest service id before →
      ({ w with awaiting } : World).Contest service id before :=
    fun _ contest => ⟨contest.own, contest.alone⟩
  simp only [race, yields_bind, yields_change, yields_pure]
  refine pause_yields (fun w' beats going unmet => ?_) fun w' code _ gone => ⟨code, rfl, gone⟩
  have limit : ({ w with awaiting := some id } : World).limit (some due) = min due w.horizon := rfl
  rw [limit] at beats unmet
  have atMost := beats.now_le
  refine ⟨going, noted none ((noted (some id) contest).beats beats), rfl, ?_, fun met => ?_,
    fun missed => ?_⟩
  · dsimp only at atMost ⊢
    omega
  -- The clock only moves while nobody has met the goal, so that a goal that is met was met in a
  -- turn.
  · have soon : w'.now < min due w.horizon :=
      beats.met_early (fun w w' tasks => by simp only [isEnded, task?, tasks])
        (fun met => absurd (unended.symm.trans met) (by simp)) met
    exact Nat.lt_of_lt_of_le soon (Nat.min_le_left _ _)
  -- A goal that was missed was missed until the alarm, which is the deadline or the horizon.
  · have reached := unmet missed
    have horizon : w'.horizon = w.horizon := beats.passes.horizon
    omega

/-- A flow that sleeps until a time wakes at that time. -/
theorem sleepUntil_yields (time : Nat) (w : World) :
    (sleepUntil time).Yields w
      (fun _ w' => Passes w w' ∧ w'.exited = none ∧ time ≤ w'.now ∧ w'.now ≤ max w.now time)
      fun halt w' => Passes w w' ∧ Ceases time halt w' := by
  -- Either the time has come when the wait ends, or the horizon lies before it.
  simp only [sleepUntil, yields_bind]
  refine pause_yields (fun w' beats going unmet => ?_) fun w' code beats gone =>
    ⟨beats.passes, .inl ⟨code, rfl, gone⟩⟩
  have limit : w.limit (some time) = min time w.horizon := rfl
  rw [limit] at beats unmet
  have atMost := beats.now_le
  have horizon := beats.passes.horizon
  -- Awake at the time or after it, or stuck before it.
  split
  · rename_i reached
    simp only [decide_eq_true_eq] at reached
    exact ⟨beats.passes, going, reached, by omega⟩
  · rename_i unreached
    simp only [decide_eq_true_eq, Nat.not_le] at unreached
    have reached := unmet (by simpa using unreached)
    exact ⟨beats.passes, .inr ⟨rfl, by omega, unreached⟩⟩

/-- A start that is held has cancelled its run, and is let go at its deadline. -/
theorem holdFailed_yields {run : RunId} {due : Nat} {w : World} (service : Placed) :
    (holdFailed run service due).Yields w
      (fun outcome w' => outcome = .failed ∧ Passes w w' ∧ w'.exited = none ∧ due ≤ w'.now ∧
        w'.now ≤ max w.now due ∧
        (w.Sound → run < w.runs.length → w'.isCancelled run = true))
      fun halt w' => Passes w w' ∧ Ceases due halt w' := by
  -- However the start has ended, the call comes first and the rest is sleep, during which nothing
  -- is called back.
  have slept : ∀ {w₁ : World}, Passes w w₁ → w₁.now = w.now →
      (run < w.runs.length → w₁.isCancelled run = true) →
      (sleepUntil due).Yields w₁
        (fun _ w' => Passes w w' ∧ w'.exited = none ∧ due ≤ w'.now ∧ w'.now ≤ max w.now due ∧
          (w.Sound → run < w.runs.length → w'.isCancelled run = true))
        fun halt w' => Passes w w' ∧ Ceases due halt w' := by
    intro w₁ before now cancelled
    refine (sleepUntil_yields due w₁).mono ?_ fun halt w' halted =>
      ⟨before.trans halted.1, halted.2⟩
    rintro _ w' ⟨passes, going, reached, atMost⟩
    refine ⟨before.trans passes, going, reached, now ▸ atMost, fun sound opened => ?_⟩
    exact passes.follows.grows.isCancelled (before.sound sound) (cancelled opened)
  have called : Acts (fun event => event.isQuiet = true) .main w
      (w.cancel .launcher run (.startFailed service.name startPanic)).2 := cancel_acts rfl rfl rfl
  have cancelled : run < w.runs.length →
      (w.cancel .launcher run (.startFailed service.name startPanic)).2.isCancelled run = true :=
    isCancelled_cancel .launcher (.startFailed service.name startPanic)
  unfold holdFailed
  simp only [yields_bind, yields_answer]
  -- Either the call was the first one, and the panic is told of, or it was not.
  split
  · simp only [yields_bind, yields_notice, yields_pure]
    have told : Acts (fun event => event.isQuiet = true) .main w
        ((w.cancel .launcher run (.startFailed service.name startPanic)).2.notice .main
          (.startPanicked service)) :=
      called.trans (emit_acts rfl rfl)
    exact (slept (told.quiet_passes) told.now cancelled).mono (fun _ _ slept => ⟨trivial, slept⟩)
      fun _ _ halt => halt
  · simp only [yields_bind, yields_pure]
    exact (slept (called.quiet_passes) called.now cancelled).mono
      (fun _ _ slept => ⟨trivial, slept⟩) fun _ _ halt => halt

/-- A start that is given up has cancelled its run. -/
theorem giveUp_yields {run : RunId} {w : World} (service : Placed) (deadline : Duration)
    {halts : Halt → World → Prop} :
    (giveUp run service deadline).Yields w
      (fun outcome w' => outcome = .timedOut ∧ Acts (fun event => event.isQuiet = true) .main w w' ∧
        w'.exited = w.exited ∧ (run < w.runs.length → w'.isCancelled run = true)) halts := by
  simp only [giveUp, yields_bind, yields_notice, yields_answer, yields_pure]
  -- The notice comes first, and then the call, by which the run is cancelled at the latest.
  have told :
    Acts (fun event => event.isQuiet = true) .main w
      (w.notice .main (.startTimedOut service deadline)) :=
    emit_acts rfl rfl
  refine ⟨trivial, told.trans (cancel_acts rfl rfl rfl), exited_cancel _ _ _ _, fun opened =>
    isCancelled_cancel _ _ ?_⟩
  rw [told.runs]
  exact opened

/-- How a race came out: it was won exactly if the start reported in time, and what is lost has
cancelled the run. -/
structure Judged (service : Placed) (run : RunId) (due : Nat) (before : Trace) (outcome : Launched)
    (w : World) : Prop where
  going : w.exited = none
  reported : ∃ later, w.trace = before ++ later ∧
    (outcome = .started ↔ ∃ time, time < due ∧ ⟨time, .deed (.up service)⟩ ∈ later)
  late : w.Starting service → due ≤ w.now
  soon : w.now ≤ due
  cancelled : outcome ≠ .started → w.isCancelled run = true

/-- A start that has ended, but not well, has lost once it is let go. -/
theorem holdFailed_judged {service : Placed} {run : RunId} {id : TaskId} {before : Trace}
    {due : Nat} {w : World} (sound : w.Sound) (opened : run < w.runs.length)
    (contest : w.Contest service id before) (ended : w.isEnded id = true)
    (ill : w.endedWell id ≠ true) (soon : w.now ≤ due) :
    (holdFailed run service due).Yields w (Judged service run due before) (Ceases due) := by
  obtain ⟨_, later, _, _, _, _, written, _⟩ := contest.own
  refine (holdFailed_yields service).mono ?_ fun _ _ halted => halted.2
  -- While it is held only quiet words come, and those of starts that go on.
  rintro outcome w' ⟨rfl, passes, going, reached, atMost, cancelled⟩
  obtain ⟨more, same, allowed⟩ := passes.trace
  refine ⟨going,
    ⟨later ++ more, by rw [same, written, List.append_assoc], by simp, fun timely => ?_⟩,
    fun _ => reached, by omega, fun _ => cancelled sound opened⟩
  obtain ⟨time, _, up⟩ := timely
  rcases List.mem_append.mp up with early | afterwards
  · exact absurd ((contest.endedWell_iff written).mpr ⟨time, early⟩) ill
  · -- Nobody is left to report while the start is held.
    rcases (allowed _ afterwards).2.2 with quiet | ⟨other, up, starting⟩
    · cases quiet
    · cases up
      exact absurd starting (contest.not_starting ended)

/-- A start that has not ended at its deadline has lost when it is given up. -/
theorem giveUp_judged {service : Placed} {run : RunId} {deadline : Duration} {id : TaskId}
    {before : Trace} {due : Nat} {w : World} (opened : run < w.runs.length)
    (going : w.exited = none) (contest : w.Contest service id before)
    (unended : w.isEnded id = false) (soon : w.now ≤ due) (late : due ≤ w.now) :
    (giveUp run service deadline).Yields w (Judged service run due before) (Ceases due) := by
  obtain ⟨task, later, found, _, _, _, written, reported⟩ := contest.own
  refine (giveUp_yields service deadline).mono ?_ fun _ _ halt => halt
  rintro outcome w' ⟨rfl, acts, still, cancelled⟩
  -- To give it up writes a notice and a call, neither of which is a report.
  obtain ⟨events, same, quiet⟩ := acts.trace
  have now : w'.now = w.now := acts.now
  refine ⟨still.trans going,
    ⟨later ++ events.map (Stamped.mk w.now), by rw [same, written, List.append_assoc], by simp,
    fun timely => ?_⟩, fun _ => by omega, by omega, fun _ => cancelled opened⟩
  obtain ⟨time, _, up⟩ := timely
  -- A start that had reported would have ended, and giving it up reports nothing.
  rcases List.mem_append.mp up with early | afterwards
  · have done := reported.mpr ⟨time, early⟩
    simp [isEnded, found, done] at unended
  · obtain ⟨event, listed, stamped⟩ := List.mem_map.mp afterwards
    cases stamped
    cases quiet _ listed

/-- The judgement follows the race: only a start that reported before its deadline has won. -/
theorem resolve_yields {service : Placed} {run : RunId} {deadline : Duration} {id : TaskId}
    {before : Trace} {due : Nat} {ended : Bool} {w : World} (sound : w.Sound)
    (opened : run < w.runs.length) (going : w.exited = none) (contest : w.Contest service id before)
    (same : ended = w.isEnded id) (soon : w.now ≤ due) (met : ended = true → w.now < due)
    (missed : ended = false → due ≤ w.now ∨ w.horizon ≤ w.now)
    (stamps : ∀ later, w.trace = before ++ later → ∀ stamped ∈ later, stamped.time ≤ w.now) :
    (resolve run service deadline due id ended).Yields w (Judged service run due before)
      (Ceases due) := by
  -- Three judgements: the start has ended well, it has ended otherwise and is held, or it has not
  -- ended and is given up.
  unfold resolve
  cases ended with
  | true =>
    simp only [if_true, yields_bind, yields_look]
    split
    · rename_i well
      -- It has reported since the launch, and the time of its report is before the deadline.
      obtain ⟨_, later, _, _, _, _, written, _⟩ := contest.own
      obtain ⟨time, up⟩ := (contest.endedWell_iff written).mp well
      have timely : time < due := Nat.lt_of_le_of_lt (stamps later written _ up) (met rfl)
      exact ⟨going, ⟨later, written, fun _ => ⟨time, timely, up⟩, fun _ => rfl⟩,
        fun starting => absurd starting (contest.not_starting same.symm), soon, fun lost =>
          absurd rfl lost⟩
    · rename_i ill
      exact holdFailed_judged sound opened contest same.symm ill soon
  | false =>
    simp only [Bool.false_eq_true, if_false, yields_bind, yields_look]
    split
    · rename_i past
      simp only [isPast, Option.any_some, decide_eq_true_eq] at past
      exact giveUp_judged opened going contest same.symm soon past
    · rename_i unpast
      simp only [isPast, Option.any_some, decide_eq_true_eq, Nat.not_le] at unpast
      have reached : w.horizon ≤ w.now := (missed rfl).resolve_left (Nat.not_le.mpr unpast)
      exact .inr ⟨rfl, reached, unpast⟩

end Flow

end Warden.Supervision
