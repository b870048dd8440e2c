import Warden.Proofs.Supervision.Metering
import Warden.Proofs.Supervision.Proceeding
import Warden.Proofs.Supervision.Verdict

/-! What the log says of starts, and what is left of it while other services are launched. -/

namespace Warden.Supervision

/-- What the log says of the start of a service. -/
inductive Saying
  | late
  | refused (error : String)
  | panicked
  | timedOut (deadline : Duration)
deriving Repr, DecidableEq, Inhabited

/-- What an event says of the start of this service. -/
def sayingOf (service : Placed) : Event → Option Saying
  | .notice _ (.lateStart other) => if other = service then some .late else none
  | .notice _ (.startFailed other error) => if other = service then some (.refused error) else none
  | .notice _ (.startPanicked other) => if other = service then some .panicked else none
  | .notice _ (.startTimedOut other deadline) =>
    if other = service then some (.timedOut deadline) else none
  | _ => none

/-- Whether a call comes from outside: from the owner of a run, from a script or from a listener. -/
def Caller.isOutside : Caller → Bool
  | .owner | .script | .listener => true
  | .start | .launcher | .group => false

/-- The cause with which this run is called off by one of its own: a start that was refused, its
launcher or its group. -/
def blameOf (run : RunId) : Event → Option Cause
  | .cancelCall caller called cause =>
    if caller.isOutside = false ∧ called = run then some cause else none
  | _ => none

/-- This observer takes no notice of anything but how starts end. -/
theorem sayingOf_tells (service : Placed) : Event.Tells (sayingOf service) where
  plain := by
    intro event plain
    cases event with
    | notice origin notice => cases notice <;> first | rfl | cases plain
    | _ => rfl
  launched := fun _ => rfl
  begun := fun _ => rfl
  abandoned := fun _ => rfl

/-- Nor does the one who looks for blame. -/
theorem blameOf_tells (run : RunId) : Event.Tells (blameOf run) where
  plain := by
    intro event plain
    cases event with
    | cancelCall caller called cause =>
      -- Of all calls only those from outside are plain.
      have outside : caller.isOutside = true := by cases caller <;> first | rfl | cases plain
      exact if_neg (by simp [outside])
    | _ => rfl
  launched := fun _ => rfl
  begun := fun _ => rfl
  abandoned := fun _ => rfl

/-- The start of one service says nothing of another one. -/
theorem sayingOf_byStart {service other : Placed} (different : other ≠ service) {dropped : Bool}
    {event : Event} (own : event.ByStart other dropped) : sayingOf service event = none := by
  cases own <;> simp [sayingOf, different]

/-- What the log says of a start, from how its launch came out and how it has ended: a start in time
is not spoken of, a failed one at most once, and of one that timed out it is said how it went on. -/
inductive Told (deadline : Duration) : Launched → Option Ending → List Saying → Prop
  | started : Told deadline .started (some .done) []
  | refused (error : String) : Told deadline .failed (some (.refused error)) [.refused error]
  | panicked (payload : Payload) : Told deadline .failed (some (.panicked payload)) [.panicked]
  | hushed (payload : Payload) : Told deadline .failed (some (.panicked payload)) []
  | unfinished : Told deadline .timedOut none [.timedOut deadline]
  | late : Told deadline .timedOut (some .done) [.timedOut deadline, .late]
  | refusedLate (error : String) :
    Told deadline .timedOut (some (.refused error)) [.timedOut deadline, .refused error]
  | panickedLate (payload : Payload) :
    Told deadline .timedOut (some (.panicked payload)) [.timedOut deadline]

/-- No start is said both to have been refused and to have panicked. -/
theorem Told.coherent {deadline : Duration} {outcome : Launched} {ending : Option Ending}
    {sayings : List Saying} (told : Told deadline outcome ending sayings) {error : String}
    (refused : .refused error ∈ sayings) :
    .panicked ∉ sayings := by
  cases told <;> simp_all

/-- What the log says of a start is read off its verdict. -/
theorem Verdict.told {service : Placed} {run : RunId} {deadline : Duration} {trace : Trace}
    {outcome : Launched} {ending : Option Ending} {events : List Event}
    (verdict : Verdict service run deadline trace outcome ending events)
    (natural : ending.all Ending.ofStart = true) :
    -- One case for each verdict; of a start that was given up the ending decides.
    Told deadline outcome ending (events.filterMap (sayingOf service)) := by
  cases verdict with
  | started => exact .started
  | refused error => simpa [Placed.reports, List.filterMap_cons, sayingOf] using Told.refused error
  | panicked payload => simpa [List.filterMap_cons, sayingOf] using Told.panicked payload
  | hushed payload hushed => exact .hushed payload
  | timedOut =>
    -- A start that was given up speaks for itself when it ends.
    rcases ending with _ | last
    · simpa [Placed.reports, List.filterMap_cons, sayingOf] using Told.unfinished
    · cases last with
      | done => simpa [Placed.reports, List.filterMap_cons, sayingOf] using Told.late
      | refused error =>
        simpa [Placed.reports, List.filterMap_cons, sayingOf] using Told.refusedLate error
      | panicked payload =>
        simpa [Placed.reports, List.filterMap_cons, sayingOf] using Told.panickedLate payload
      -- A start comes to no other ending.
      | failed error => cases natural
      | dropped => cases natural

namespace World

variable {α : Type} {view : Event → Option α} {group : GroupId} {service other : Placed}
  {run : RunId} {deadline : Duration} {id new : TaskId} {before : Trace} {outcome : Launched}
  {w w' : World}

/-- Of a start that is accounted for the log has said what it should. -/
theorem Accounted.told
    (accounted : w.Accounted (sayingOf service) service run deadline id before outcome) :
    ∃ task sayings, w.task? id = some task ∧ task.duty = .start service ∧ task.aborted = false ∧
      Told deadline outcome task.ending sayings ∧ w.Saw (sayingOf service) before sayings := by
  obtain ⟨-, ending, events, observed, verdict⟩ := accounted
  obtain ⟨task, later, found, duty, -, unaborted, rfl, written, -, seen⟩ := observed.own
  exact ⟨task, _, found, duty, unaborted, verdict.told observed.natural, later, written, seen⟩

/-- Where no start of a service goes on, nothing can be said of it. -/
theorem silent_of_idle (idle : ¬ w.Starting service) : w.Silent (sayingOf service) := by
  intro id task other found live duty unaborted event own
  exact sayingOf_byStart
    (fun same => idle ⟨id, task, found, live, duty.trans (congrArg _ same), unaborted⟩) own

/-- What the launcher does about one start, seen by somebody who takes no notice of its calls and
words. -/
theorem Attends.spares (attends : Attends run other deadline new w w')
    (calls : ∀ cause, view (.cancelCall .launcher run cause) = none)
    (panicked : view (.notice .main (.startPanicked other)) = none)
    (timedOut : view (.notice .main (.startTimedOut other deadline)) = none)
    (plain : ∀ event : Event, event.isPlain = true → view event = none) :
    (∀ id, w'.task? id = w.task? id) ∧ w'.runs.length = w.runs.length ∧ Unseen view w w' ∧
      ∀ id, id ≠ new → w.awaiting ≠ some id → w'.awaiting ≠ some id := by
  have acts := attends.does.acts
  refine ⟨fun id => acts.others id (by simp), acts.runs, ?_⟩
  -- One case for each thing that the launcher can do about the start.
  cases attends with
  | awaits awaiting own =>
    refine ⟨.of_trace rfl, fun id different _ same => different (own id same)⟩
  | blames cause =>
    exact ⟨cancel_unseen (calls cause) plain, fun id _ unheard => by simpa using unheard⟩
  | tells n own =>
    refine ⟨emit_unseen ?_, fun _ _ unheard => unheard⟩
    rcases own with rfl | rfl
    · exact panicked
    · exact timedOut

/-- A start that is accounted for remains so when another service is launched. -/
theorem Accounted.launching
    (accounted : w.Accounted (sayingOf service) service run deadline id before outcome)
    (different : other ≠ service) (group : GroupId) :
    id ≠ w.tasks.length ∧
      (w.launching group run other).Accounted (sayingOf service) service run deadline id before
        outcome := by
  obtain ⟨unheard, ending, events, observed, verdict⟩ := accounted
  obtain ⟨task, later, found, own⟩ := observed.own
  -- A task that there is has a number below that of the new one.
  have old : id ≠ w.tasks.length := Nat.ne_of_lt (List.getElem?_eq_some_iff.mp found).1
  refine ⟨old, unheard, ending, events,
    ⟨observed.opened, ?_, observed.natural, task, later ++ [⟨w.now, .launched other⟩], ?_⟩,
    verdict.append _⟩
  · -- The new start is one of another service, and so it says nothing of this one.
    intro id' task' service' found' live duty unaborted
    rw [task?_launching] at found'
    split at found'
    · cases found'
      cases duty
      exact .inr fun event own => sayingOf_byStart different own
    · exact observed.alone id' task' service' found' live duty unaborted
  -- Its own task is not the new one, and a launch is none of its words.
  · obtain ⟨duty, own, unaborted, ended, written, within, seen⟩ := own
    refine ⟨?_, duty, own, unaborted, ended, ?_, ?_, ?_⟩
    · rw [task?_launching, if_neg old, found]
    · rw [trace_launching, written, List.append_assoc]
    · rw [List.map_append]
      exact within.trans (List.sublist_append_left _ _)
    · rw [Trace.view_append, seen]
      exact List.append_nil _

end World

namespace Flow

open World

variable {α : Type} {view : Event → Option α} {group : GroupId} {service other : Placed}
  {run : RunId} {deadline : Duration} {id new : TaskId} {before : Trace} {outcome : Launched}
  {w : World}

/-- A start that is accounted for remains so while the launcher attends to another one. -/
theorem attends_accounted (different : other ≠ service) (old : id ≠ new) :
    Lasting (Attends run other deadline new) fun w w' =>
      w.Accounted (sayingOf service) service run deadline id before outcome →
        w'.Accounted (sayingOf service) service run deadline id before outcome where
  refl := fun _ accounted => accounted
  trans := fun first second accounted => second (first accounted)
  beats := fun beats accounted => accounted.beats (sayingOf_tells service) beats
  does := by
    -- What the launcher does is about another start, so that it touches neither this task nor its
    -- words.
    intro w w' attends accounted
    obtain ⟨tasks, runs, unseen, unheard⟩ :=
      attends.spares (fun _ => rfl) (if_neg different) (if_neg different)
      (sayingOf_tells service).plain
    exact accounted.spared tasks runs (unheard id old accounted.unheard) unseen

/-- Nothing is said of a service that is not started while the launcher attends to another one. -/
theorem attends_silent (different : other ≠ service) :
    Lasting (Attends run other deadline new) fun w w' =>
      w.Silent (sayingOf service) → w'.Silent (sayingOf service) ∧
        Unseen (sayingOf service) w w' where
  refl := fun w silent => ⟨silent, .refl w⟩
  trans := by
    intro w₁ w₂ w₃ first second silent
    obtain ⟨silent₂, unseen₂⟩ := first silent
    obtain ⟨silent₃, unseen₃⟩ := second silent₂
    exact ⟨silent₃, unseen₂.trans unseen₃⟩
  beats := fun beats silent => silent.beats (sayingOf_tells service) beats
  -- The launcher speaks of the other start only.
  does := by
    intro w w' attends silent
    have passes := steady_passes.does attends.does
    obtain ⟨-, -, unseen, -⟩ := attends.spares (fun _ => rfl) (if_neg different) (if_neg different)
      (sayingOf_tells service).plain
    exact ⟨silent.passes passes, unseen⟩

/-- Whoever takes no notice of what tasks write, of launches and of what launchers say and call sees
nothing of a launch. -/
theorem launch_unseen
    (tasks : ∀ (task : Task) (event : Event), task.MayWrite event → view event = none)
    (launched : view (.launched service) = none)
    (calls : ∀ cause, view (.cancelCall .launcher run cause) = none)
    (panicked : view (.notice .main (.startPanicked service)) = none)
    (timedOut : view (.notice .main (.startTimedOut service deadline)) = none) :
    (launch group run service deadline).Within (Unseen view) := by
  intro w
  -- Neither what tasks write meanwhile nor what the launcher does is seen, and the launch itself is
  -- not.
  have lasts : Lasting (Attends run service deadline w.tasks.length) (Unseen view) := {
    refl := .refl
    trans := .trans
    beats := (plays_unseen tasks).beats
    does := fun attends =>
      -- Whatever the launcher does, it is none of what the observer looks at.
      (attends.spares calls panicked timedOut fun event plain =>
        tasks default event (.inl plain)).2.2.1 }
  have noted : Unseen view w (w.launching group run service) :=
    ⟨_, trace_launching service, by simp [Trace.view, launched]⟩
  exact (launch_within lasts).mono (fun _ _ => noted.trans) fun _ _ => noted.trans

end Flow

end Warden.Supervision
