import Warden.Proofs.Supervision.Steady

/-!
What is left of a world when tasks are spawned and aborted and groups change: its trace grows and
its books stay.
-/

namespace Warden.Supervision

namespace World

/-- A later state of the same process: the trace has grown by what happened since, and the books are
still kept. -/
structure Grows (w w' : World) : Prop where
  now : w.now ≤ w'.now
  horizon : w'.horizon = w.horizon
  runs : w.runs.length ≤ w'.runs.length
  exited : w.exited.isSome → w'.exited.isSome
  trace : ∃ later : Trace, w'.trace = w.trace ++ later ∧
    ∀ stamped ∈ later, w.now ≤ stamped.time ∧ stamped.time ≤ w'.now
  sound : w.Sound → w'.Sound
  counted : w.Sound → w.Counted → w'.Counted

/-- What may be written while no service is launched and none is stopped. -/
def Allows (w : World) (event : Event) : Prop :=
  event.milestone? = none ∧ ∀ service, event = .deed (.up service) → w.Starting service

/-- A later state with no milestone in between and no start that was not under way before. -/
structure Follows (w w' : World) : Prop where
  now : w.now ≤ w'.now
  horizon : w'.horizon = w.horizon
  runs : w.runs.length ≤ w'.runs.length
  exited : w.exited.isSome → w'.exited.isSome
  starting : ∀ service, w'.Starting service → w.Starting service
  trace : ∃ later : Trace, w'.trace = w.trace ++ later ∧
    ∀ stamped ∈ later, w.now ≤ stamped.time ∧ stamped.time ≤ w'.now ∧ w.Allows stamped.event
  sound : w.Sound → w'.Sound
  counted : w.Sound → w.Counted → w'.Counted

variable {w w₁ w₂ : World}

/-- Every state is a later state of itself. -/
theorem Grows.refl (w : World) : Grows w w where
  now := Nat.le_refl _
  horizon := rfl
  runs := Nat.le_refl _
  exited := id
  trace := ⟨[], (List.append_nil _).symm, by simp⟩
  sound := id
  counted := fun _ counted => counted

/-- A later state of a later state is a later one. -/
theorem Grows.trans (first : Grows w w₁) (second : Grows w₁ w₂) : Grows w w₂ where
  now := Nat.le_trans first.now second.now
  horizon := second.horizon.trans first.horizon
  runs := Nat.le_trans first.runs second.runs
  exited := fun gone => second.exited (first.exited gone)
  trace := by
    obtain ⟨later₁, same₁, within₁⟩ := first.trace
    obtain ⟨later₂, same₂, within₂⟩ := second.trace
    refine ⟨later₁ ++ later₂, by rw [same₂, same₁, List.append_assoc], ?_⟩
    intro stamped member
    -- What happened first came before the second part began, and what happened then after the first
    -- ended.
    rcases List.mem_append.mp member with early | late
    · exact ⟨(within₁ stamped early).1, Nat.le_trans (within₁ stamped early).2 second.now⟩
    · exact ⟨Nat.le_trans first.now (within₂ stamped late).1, (within₂ stamped late).2⟩
  sound := fun sound => second.sound (first.sound sound)
  counted := fun sound counted => second.counted (first.sound sound) (first.counted sound counted)

/-- The first call for a run stays the first. -/
theorem Grows.firstCall (grows : Grows w w₁) {run : RunId} {call : Call}
    (first : w.trace.firstCall run = some call) :
    w₁.trace.firstCall run = some call := by
  obtain ⟨later, same, _⟩ := grows.trace
  rw [same, firstCall_of_prefix first]

/-- A run that is cancelled stays cancelled. -/
theorem Grows.isCancelled (grows : Grows w w₁) (sound : w.Sound) {run : RunId}
    (cancelled : w.isCancelled run = true) :
    w₁.isCancelled run = true := by
  -- In sound books a run is cancelled exactly if somebody has called, and calls are not taken back.
  rw [sound.isCancelled_iff] at cancelled
  obtain ⟨call, first⟩ := Option.isSome_iff_exists.mp cancelled
  rw [(grows.sound sound).isCancelled_iff, grows.firstCall first]
  rfl

/-- Nothing that happened has a time that is yet to come. -/
def Timed (w : World) : Prop :=
  ∀ stamped ∈ w.trace, stamped.time ≤ w.now

/-- As time does not run back, what was written is never in the future. -/
theorem Grows.timed (grows : Grows w w₁) (timed : w.Timed) : w₁.Timed := by
  obtain ⟨later, same, within⟩ := grows.trace
  intro stamped member
  rw [same] at member
  rcases List.mem_append.mp member with early | late
  · exact Nat.le_trans (timed stamped early) grows.now
  · exact (within stamped late).2

/-- The first call for a run has come by now. -/
theorem Timed.call_le (timed : w.Timed) {run : RunId} {call : Call}
    (first : w.trace.firstCall run = some call) :
    call.time ≤ w.now :=
  timed _ (mem_of_firstCall first)

namespace Follows

/-- Nothing at all may happen in between. -/
theorem refl (w : World) : Follows w w where
  now := Nat.le_refl _
  horizon := rfl
  runs := Nat.le_refl _
  exited := id
  starting := fun _ starting => starting
  trace := ⟨[], (List.append_nil _).symm, by simp⟩
  sound := id
  counted := fun _ counted => counted

/-- What follows step by step follows as a whole. -/
theorem trans (first : Follows w w₁) (second : Follows w₁ w₂) : Follows w w₂ where
  now := Nat.le_trans first.now second.now
  horizon := second.horizon.trans first.horizon
  runs := Nat.le_trans first.runs second.runs
  exited := fun gone => second.exited (first.exited gone)
  starting := fun service starting => first.starting service (second.starting service starting)
  trace := by
    obtain ⟨later₁, same₁, written₁⟩ := first.trace
    obtain ⟨later₂, same₂, written₂⟩ := second.trace
    refine ⟨later₁ ++ later₂, by rw [same₂, same₁, List.append_assoc], ?_⟩
    intro stamped member
    rcases List.mem_append.mp member with early | late
    · obtain ⟨lower, upper, allowed⟩ := written₁ stamped early
      exact ⟨lower, Nat.le_trans upper second.now, allowed⟩
    · obtain ⟨lower, upper, quiet, own⟩ := written₂ stamped late
      -- A start that was under way in the middle was so at the beginning.
      exact ⟨Nat.le_trans first.now lower, upper, quiet, fun service up =>
        first.starting service (own service up)⟩
  sound := fun sound => second.sound (first.sound sound)
  counted := fun sound counted => second.counted (first.sound sound) (first.counted sound counted)

/-- What follows is a later state. -/
theorem grows (follows : Follows w w₁) : Grows w w₁ where
  now := follows.now
  horizon := follows.horizon
  runs := follows.runs
  exited := follows.exited
  trace := by
    obtain ⟨later, same, written⟩ := follows.trace
    exact ⟨later, same, fun stamped member =>
      ⟨(written stamped member).1, (written stamped member).2.1⟩⟩
  sound := follows.sound
  counted := follows.counted

/-- No milestone lies in between. -/
theorem milestones (follows : Follows w w₁) : w₁.trace.milestones = w.trace.milestones := by
  obtain ⟨later, same, written⟩ := follows.trace
  rw [same, Trace.milestones_append, Trace.milestones_of_silent fun stamped member =>
    (written stamped member).2.2.1,
    List.append_nil]

end Follows

/-- What becomes of a world while the supervising flow waits follows from it. -/
theorem Passes.follows (passes : Passes w w₁) : Follows w w₁ where
  now := passes.now
  horizon := passes.horizon
  runs := Nat.le_of_eq passes.runs.symm
  exited := passes.exited
  starting := fun _ starting => passes.starting starting
  trace := by
    obtain ⟨later, same, written⟩ := passes.trace
    refine ⟨later, same, fun stamped member => ?_⟩
    obtain ⟨lower, upper, writes⟩ := written stamped member
    refine ⟨lower, upper, writes.milestone?, fun service up => ?_⟩
    -- What tasks write while the flow waits is quiet, or it is the word of a start that goes on.
    rcases writes with quiet | ⟨other, same, starting⟩
    · rw [up] at quiet
      simp [Event.isQuiet] at quiet
    · cases up.symm.trans same
      exact starting
  sound := passes.sound
  counted := passes.counted

section Operations

/-- A task that is spawned is live and comes after all others. -/
theorem task?_spawn (task : Task) (w : World) (id : TaskId) :
    (w.spawn task).2.task? id = if id = w.tasks.length then some task else w.task? id := by
  -- The new task has the next number, which no task had before.
  simp only [spawn, task?]
  split
  · rename_i same
    simp [same]
  · rename_i other
    rcases Nat.lt_or_gt_of_ne other with before | behind
    · simp [List.getElem?_append_left before]
    · have beyond : (w.tasks ++ [task]).length ≤ id := by
        rw [List.length_append]
        exact Nat.succ_le_of_lt behind
      rw [List.getElem?_eq_none_iff.mpr beyond, List.getElem?_eq_none_iff.mpr (Nat.le_of_lt behind)]

/-- A new task is live, so that the same tasks have ended. -/
theorem isEnded_spawn {task : Task} (live : task.ending = none) (w : World) (id : TaskId) :
    (w.spawn task).2.isEnded id = w.isEnded id := by
  rw [isEnded, task?_spawn]
  split
  · rename_i same
    simp [same, isEnded, task?, live]
  · rfl

/-- A spawned task is entered in no book before it ends. -/
theorem Sound.spawn {task : Task} (live : task.ending = none) (sound : w.Sound) :
    (w.spawn task).2.Sound :=
  Sound.congr (w := w) (fun _ => rfl) (fun _ => rfl) rfl (isEnded_spawn live w) sound

/-- To spawn a task that is no start follows, as nothing is written. -/
theorem spawn_follows {task : Task} (live : task.ending = none)
    (other : ∀ service, task.duty ≠ .start service) :
    Follows w (w.spawn task).2 := by
  -- The new task is no start, so that the starts that go on are those from before.
  have starts : ∀ service, (w.spawn task).2.Starting service → w.Starting service := by
    rintro service ⟨id, task', found, live', duty, unaborted⟩
    rw [task?_spawn] at found
    split at found
    · cases found
      exact absurd duty (other service)
    · exact ⟨id, task', found, live', duty, unaborted⟩
  exact { Follows.refl w with starting := starts, sound := Sound.spawn live }

/-- To change a group follows, as the books say nothing of groups. -/
theorem changeGroup_follows (group : GroupId) (change : Group → Group) :
    Follows w (w.changeGroup group change) :=
  { Follows.refl w with sound := fun sound => sound.same rfl rfl rfl rfl }

/-- To open a group follows. -/
theorem openGroup_follows (run : RunId) : Follows w (w.openGroup run).2 :=
  { Follows.refl w with sound := fun sound => sound.same rfl rfl rfl rfl }

/-- To note which services are kept follows. -/
theorem setStarted_follows (started : List Placed) : Follows w { w with started } :=
  { Follows.refl w with sound := fun sound => sound.same rfl rfl rfl rfl }

/-- A run that is opened stands as nobody has called for it. -/
theorem openRun_follows (w : World) : Follows w w.openRun.2 := by
  have kept : w.Sound → w.openRun.2.Sound := by
    intro sound
    -- The new run has the number of which nobody has spoken yet.
    refine ⟨fun run r found => ?_, fun run missing => ?_, sound.finished, sound.once⟩
    · simp only [openRun, List.getElem?_append] at found
      split at found
      · exact sound.recorded run r found
      · rename_i behind
        have fresh : r = {} := by
          rw [List.getElem?_singleton] at found
          split at found
          · exact (Option.some.inj found).symm
          · cases found
        rw [fresh]
        have uncalled := sound.unopened run (List.getElem?_eq_none_iff.mpr (Nat.not_lt.mp behind))
        show ({} : CancelState) = .after (w.trace.firstCall run)
        rw [uncalled]
        rfl
    · refine sound.unopened run ?_
      simp only [openRun, List.getElem?_eq_none_iff, List.length_append] at missing ⊢
      omega
  exact { Follows.refl w with runs := by simp [openRun], sound := kept }

/-- A task that is asked to end is marked, unless it has ended. -/
theorem task?_abort (id : TaskId) (w : World) (other : TaskId) :
    (w.abort id).task? other =
      (w.task? other).map fun t =>
        { t with aborted := t.aborted || (decide (other = id) && t.ending.isNone) } := by
  have ended : w.isEnded id = (w.task? id).any (·.ending.isSome) := rfl
  unfold abort
  rw [ended]
  -- Only the task itself is marked, unless it has ended, and waking it changes no task.
  by_cases same : other = id
  · subst same
    cases found : w.task? other with
    | none => simp_all [task?, changeTask]
    | some task =>
      cases ending : task.ending <;> simp_all [task?, changeTask, List.getElem?_modify_eq]
      rw [← ending]
  · split
    · simp [same]
    · simp only [task?, tasks_wake, changeTask, List.getElem?_modify_ne _ _ (Ne.symm same)]
      simp [same]

/-- Of the tasks only those that are asked to end and have not ended are marked. -/
theorem task?_abortAll (ids : List TaskId) (w : World) (id : TaskId) :
    (w.abortAll ids).task? id =
      (w.task? id).map fun t =>
        { t with aborted := t.aborted || (decide (id ∈ ids) && t.ending.isNone) } := by
  -- By induction on those that are asked: a mark that was made once is kept by the others.
  induction ids generalizing w with
  | nil => simp [abortAll]
  | cons first ids ih =>
    have step : w.abortAll (first :: ids) = (w.abort first).abortAll ids := rfl
    rw [step, ih, task?_abort, Option.map_map]
    congr 1
    funext task
    -- Two marks come to one mark, which is what `or` does.
    obtain ⟨duty, actor, steps, wait, ending, aborted⟩ := task
    cases ending <;> simp [Bool.or_assoc]

/-- A task that goes on unmarked is none of those that were asked to end. -/
theorem task?_of_unaborted {ids : List TaskId} {id : TaskId} {task : Task}
    (found : (w.abortAll ids).task? id = some task) (live : task.ending = none)
    (unaborted : task.aborted = false) : w.task? id = some task ∧ id ∉ ids := by
  rw [task?_abortAll] at found
  -- Whoever is asked to end is marked unless it has ended, and this one has not.
  obtain ⟨⟨duty, actor, steps, wait, ending, aborted⟩, found', rfl⟩ :=
    Option.map_eq_some_iff.mp found
  simp only [Bool.or_eq_false_iff] at live unaborted
  obtain ⟨rfl, other⟩ := unaborted
  subst live
  have other : id ∉ ids := by simpa using other
  exact ⟨by simpa [other] using found', other⟩

/-- Asking tasks to end changes tasks and due turns, and nothing else. -/
theorem abortAll_eq (ids : List TaskId) (w : World) :
    ∃ tasks ready, w.abortAll ids = { w with tasks, ready } := by
  -- By induction on those that are asked to end: each is marked and woken, or nothing happens.
  induction ids generalizing w with
  | nil => exact ⟨w.tasks, w.ready, rfl⟩
  | cons id ids ih =>
    obtain ⟨tasks, ready, same⟩ := ih (w.abort id)
    refine ⟨tasks, ready,
      (show w.abortAll (id :: ids) = (w.abort id).abortAll ids from rfl).trans (same.trans ?_)⟩
    unfold abort
    split
    · rfl
    · unfold wake
      split <;> rfl

/-- To ask tasks to end follows: it starts nothing and ends nothing at once. -/
theorem abortAll_follows (ids : List TaskId) (w : World) : Follows w (w.abortAll ids) := by
  -- A start that goes on unmarked was there before, and nobody ends by being asked to.
  have starts : ∀ service, (w.abortAll ids).Starting service → w.Starting service := by
    rintro service ⟨other, task, found, live, duty, unaborted⟩
    exact ⟨other, task, (task?_of_unaborted found live unaborted).1, live, duty, unaborted⟩
  have ended : ∀ id, (w.abortAll ids).isEnded id = w.isEnded id := by
    intro id
    rw [isEnded, task?_abortAll, isEnded]
    cases w.task? id <;> rfl
  obtain ⟨tasks, ready, same⟩ := abortAll_eq ids w
  have kept : w.Sound → (w.abortAll ids).Sound :=
    Sound.congr (fun _ => by rw [same]) (fun _ => by rw [same]) (by rw [same]) ended
  rw [same] at starts kept ⊢
  exact { Follows.refl w with starting := starts, sound := kept }

/-- The same for one task. -/
theorem abort_follows (id : TaskId) (w : World) : Follows w (w.abort id) :=
  abortAll_follows [id] w

/-- To drop a group follows, as all that happens is that its tasks are asked to end. -/
theorem dropGroup_follows (group : GroupId) (w : World) : Follows w (w.dropGroup group) := by
  unfold dropGroup
  split
  · exact .refl w
  · exact (changeGroup_follows _ _).trans (abortAll_follows _ _)

/-- What the supervising flow does at once, with no milestone and no word of a start, follows. -/
theorem Acts.follows {may : Event → Prop} (acts : Acts may .main w w₁)
    (silent : ∀ event, may event → event.milestone? = none ∧
      ∀ service, event ≠ .deed (.up service)) :
    Follows w w₁ where
  now := Nat.le_of_eq acts.now.symm
  horizon := acts.horizon
  runs := Nat.le_of_eq acts.runs.symm
  exited := acts.exited
  starting := by
    rintro service ⟨id, task, found, goes⟩
    -- No task at all is changed by what the supervising flow does at once.
    exact ⟨id, task, (acts.others id (by simp)).symm.trans found, goes⟩
  trace := by
    obtain ⟨events, same, written⟩ := acts.trace
    refine ⟨events.map (Stamped.mk w.now), same, fun stamped member => ?_⟩
    obtain ⟨event, listed, rfl⟩ := List.mem_map.mp member
    obtain ⟨quiet, noUp⟩ := silent event (written event listed)
    exact ⟨Nat.le_refl _, Nat.le_of_eq acts.now.symm, quiet, fun service up =>
      absurd up (noUp service)⟩
  sound := acts.sound
  counted := acts.counted

/-- A cancellation leaves no milestone, whoever calls for it. -/
theorem cancel_follows (caller : Caller) (run : RunId) (cause : Cause) (w : World) :
    Follows w (w.cancel caller run cause).2 := by
  -- The three things that a cancellation writes: the call, its count, and a word to late callers.
  have acts :
    Acts (fun event => event.milestone? = none ∧ ∀ service, event ≠ .deed (.up service)) .main w
      (w.cancel caller run cause).2 :=
    cancel_acts ⟨rfl, by simp⟩ ⟨rfl, by simp⟩ ⟨rfl, by simp⟩
  exact acts.follows fun _ silent => silent

/-- After a call the run is cancelled. -/
theorem isCancelled_cancel (caller : Caller) {run : RunId} (cause : Cause)
    (opened : run < w.runs.length) :
    (w.cancel caller run cause).2.isCancelled run = true := by
  -- The switch is tripped whether the call was the first one or not.
  have tripped : ∀ r, (w.trip caller run cause r).isCancelled run = true := fun r => by
    simp [isCancelled, List.getElem?_modify_eq, List.getElem?_eq_getElem opened]
  unfold cancel
  rw [List.getElem?_eq_getElem opened]
  dsimp only
  split <;> exact tripped _

/-- A notice follows, as none is a milestone. -/
theorem notice_follows (origin : Origin) (n : Notice) : Follows w (w.notice origin n) := by
  have acts : Acts (fun event => event = .notice origin n) .main w (w.notice origin n) :=
    emit_acts rfl rfl
  exact acts.follows fun event same => same ▸ ⟨rfl, by simp⟩

/-- What is kept in the books of the supervisor alone is a later state. -/
theorem record_grows (started : List Placed) {later : Trace}
    (quiet : ∀ stamped ∈ later, stamped.time = w.now ∧ stamped.event.isCall = false) :
    Grows w { w with started, trace := w.trace ++ later } where
  now := Nat.le_refl _
  horizon := rfl
  runs := Nat.le_refl _
  exited := fun gone => gone
  trace := ⟨later, rfl, fun stamped member =>
    ⟨Nat.le_of_eq (quiet stamped member).1.symm, Nat.le_of_eq (quiet stamped member).1⟩⟩
  sound := fun sound =>
    -- What is written holds no call, so that the books of calls stay as they are.
    Sound.congr (w := w) (fun _ => rfl)
      (fun run => firstCall_append_quiet run w.trace fun stamped member => (quiet stamped member).2)
      rfl (fun _ => rfl) sound
  counted := fun _ => Counted.congr
    (fun run => firstCall_append_quiet run w.trace fun stamped member => (quiet stamped member).2)
    fun run => cancellations_append_quiet run w.trace fun stamped member => (quiet stamped member).2

end Operations

end World

namespace Flow

open World

/-- What follows may be composed along any flow. -/
theorem steady_follows : Steady Follows where
  refl := .refl
  trans := .trans
  beats := fun beats => beats.passes.follows
  does := fun does => (steady_passes.does does).follows

/-- So may later states. -/
theorem steady_grows : Steady Grows where
  refl := .refl
  trans := .trans
  beats := fun beats => beats.passes.follows.grows
  does := fun does => (steady_passes.does does).follows.grows

/-- Whatever a flow does at once keeps the relation if each of its effects does. -/
theorem change_follows {edit : World → World} (follows : ∀ w, Follows w (edit w)) :
    (change edit).Within Follows :=
  follows

/-- The same for an operation with an answer. -/
theorem answer_follows {α : Type} {operation : World → α × World}
    (follows : ∀ w, Follows w (operation w).2) :
    (answer operation).Within Follows :=
  follows

/-- The starts that a group tracks and that have not ended. -/
def unfinished (group : GroupId) (w : World) : List (String × TaskId) :=
  (w.detached group).filter fun start => !w.isEnded start.2

/-- The word that a start is abandoned, under its name. -/
def abandoning (start : String × TaskId) : Event := .notice .main (.abandoning start.1)

/-- What is told of starts that are abandoned is told of one after another. -/
theorem tellAbandoned (starts : List (String × TaskId)) (w : World) :
    starts.foldl (fun w start => w.notice .main (.abandoning start.1)) w =
      w.emitAll (starts.map abandoning) ∧
      Follows w (w.emitAll (starts.map abandoning)) := by
  -- By induction on the starts, each of which adds its own notice at the end.
  induction starts generalizing w with
  | nil =>
    have same : w.emitAll ([].map abandoning) = w := by simp [emitAll]
    rw [same]
    exact ⟨rfl, .refl w⟩
  | cons start starts ih =>
    obtain ⟨told, follows⟩ := ih (w.notice .main (.abandoning start.1))
    have same : (w.notice .main (.abandoning start.1)).emitAll (starts.map abandoning) =
        w.emitAll ((start :: starts).map abandoning) := by
      simp [emitAll, World.notice, World.emit, abandoning]
    rw [same] at told follows
    exact ⟨told, (notice_follows _ _).trans follows⟩

/-- Abandoning starts first tells of those that have not ended, and then asks all of them to end. -/
theorem abandonDetached_told (group : GroupId) (w : World) :
    Follows w (w.emitAll ((unfinished group w).map abandoning)) ∧
    w.abandonDetached group =
      ((w.emitAll ((unfinished group w).map abandoning)).changeGroup group fun g =>
        { g with detached := [] }).abortAll
        ((w.detached group).map (·.2)) := by
  obtain ⟨told, follows⟩ := tellAbandoned (unfinished group w) w
  refine ⟨follows, ?_⟩
  rw [← told]
  rfl

/-- All that is written is which starts are abandoned. -/
theorem trace_abandonDetached (group : GroupId) (w : World) :
    (w.abandonDetached group).trace = w.trace ++
      ((unfinished group w).map abandoning).map (Stamped.mk w.now) := by
  obtain ⟨-, told⟩ := abandonDetached_told group w
  obtain ⟨tasks, ready, same⟩ := abortAll_eq ((w.detached group).map (·.2))
    ((w.emitAll ((unfinished group w).map abandoning)).changeGroup group fun g =>
      { g with detached := [] })
  rw [told, same]
  rfl

/-- Of the tasks that a group tracks those that have not ended are asked to end. -/
theorem task?_abandonDetached (group : GroupId) (w : World) (id : TaskId) :
    (w.abandonDetached group).task? id = (w.task? id).map fun t =>
      { t with
        aborted := t.aborted ||
          (decide (id ∈ (w.detached group).map (·.2)) && t.ending.isNone) } := by
  rw [(abandonDetached_told group w).2, task?_abortAll]
  rfl

/-- Abandoning starts leaves the clock, the process and the services that are kept as they are. -/
theorem abandonDetached_eq (group : GroupId) (w : World) :
    ∃ tasks ready groups trace, w.abandonDetached group =
      { w with tasks, ready, groups, trace } := by
  obtain ⟨-, told⟩ := abandonDetached_told group w
  obtain ⟨tasks, ready, same⟩ := abortAll_eq ((w.detached group).map (·.2))
    ((w.emitAll ((unfinished group w).map abandoning)).changeGroup group fun g =>
      { g with detached := [] })
  exact ⟨tasks, ready, w.groups.modify group fun g => { g with detached := [] }, _, told.trans same⟩

/-- To abandon starts follows. -/
theorem abandonDetached_follows (group : GroupId) (w : World) :
    Follows w (w.abandonDetached group) := by
  obtain ⟨follows, told⟩ := abandonDetached_told group w
  rw [told]
  exact (follows.trans (changeGroup_follows _ _)).trans (abortAll_follows _ _)

/-- To wait for a group follows. -/
theorem waitGroup_follows (group : GroupId) : (waitGroup group).Within Follows :=
  waitGroup_within steady_follows (fun _ _ => changeGroup_follows _ _)
    (fun _ _ => notice_follows _ _)
    (fun _ _ _ => cancel_follows _ _ _ _) (abandonDetached_follows group)

/-- The notice of how a run ended follows. -/
theorem noticeEnd_follows (result : Option RunError) : (noticeEnd result).Within Follows := by
  unfold noticeEnd
  split
  · exact notice_within steady_follows _
  · exact pure_within steady_follows _

/-- To begin to forward signals follows. -/
theorem forwardSignals_follows (wanted : Bool) : (forwardSignals wanted).Within Follows := by
  -- Where the forwarder runs is in no book.
  have noted : ∀ (w : World) (forwarder : Option TaskId), Follows w { w with forwarder } :=
    fun w _ => { Follows.refl w with sound := fun sound => sound.same rfl rfl rfl rfl }
  refine bind_within steady_follows (look_within steady_follows _) fun known => ?_
  split
  · exact bind_within steady_follows (answer_follows fun w => spawn_follows rfl (by simp)) fun id =>
      change_follows fun w => noted w _
  · exact pure_within steady_follows _

/-- To prepare a run follows. -/
theorem prepare_follows (supervisor : Supervisor) : (prepare supervisor).Within Follows := by
  -- Each effect of the preparation follows: what it spawns is no start, and what it aborts goes on
  -- no more.
  refine bind_within steady_follows (answer_follows openRun_follows) fun run => ?_
  refine bind_within steady_follows (forwardSignals_follows _) fun _ => ?_
  refine bind_within steady_follows (answer_follows fun w => spawn_follows rfl (by simp))
    fun listener => ?_
  refine bind_within steady_follows (change_follows fun w => ?_) fun _ => ?_
  · cases supervisor.listener with
    | none => exact .refl w
    | some stale => exact abort_follows stale w
  refine bind_within steady_follows (change_follows fun w => ?_) fun _ => ?_
  · cases supervisor.group with
    | none => exact .refl w
    | some unused => exact dropGroup_follows unused w
  refine bind_within steady_follows (answer_follows fun w => openGroup_follows run) fun group => ?_
  exact bind_within steady_follows (notice_within steady_follows _) fun _ =>
    pure_within steady_follows _

end Flow

end Warden.Supervision
