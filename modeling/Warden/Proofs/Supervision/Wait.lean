import Mathlib.Logic.Relation
import Warden.Proofs.Supervision.Effort
import Warden.Proofs.Supervision.Milestone

/-!
What happens while the supervising flow waits: turns of tasks, and time that passes when none of
them can run.
-/

namespace Warden.Supervision.World

/-- What can become of a world while the supervising flow waits. -/
structure Passes (w w' : World) : Prop where
  now : w.now ≤ w'.now
  horizon : w'.horizon = w.horizon
  groups : w'.groups = w.groups
  started : w'.started = w.started
  forwarder : w'.forwarder = w.forwarder
  runs : w'.runs.length = w.runs.length
  count : w'.tasks.length = w.tasks.length
  own : ∀ id task, w.task? id = some task → ∃ task', w'.task? id = some task' ∧ task.Continues task'
  finished : ∃ more, w'.finished = w.finished ++ more
  exited : w.exited.isSome → w'.exited.isSome
  trace : ∃ later : Trace, w'.trace = w.trace ++ later ∧
    ∀ stamped ∈ later, w.now ≤ stamped.time ∧ stamped.time ≤ w'.now ∧ w.MayWrite stamped.event
  sound : w.Sound → w'.Sound
  counted : w.Sound → w.Counted → w'.Counted

namespace Passes

variable {w w₁ w₂ : World}

/-- A wait that has not begun has changed nothing. -/
theorem refl (w : World) : Passes w w where
  now := Nat.le_refl _
  horizon := rfl
  groups := rfl
  started := rfl
  forwarder := rfl
  runs := rfl
  count := rfl
  own := fun _ task found => ⟨task, found, .refl task⟩
  finished := ⟨[], (List.append_nil _).symm⟩
  exited := id
  trace := ⟨[], (List.append_nil _).symm, by simp⟩
  sound := id
  counted := fun _ counted => counted

/-- A task that has not ended has not ended before either. -/
theorem live (passes : Passes w w₁) {id : TaskId} {task₁ : Task} (found : w₁.task? id = some task₁)
    (live : task₁.ending = none) :
    ∃ task, w.task? id = some task ∧ task.ending = none ∧ task.Continues task₁ := by
  -- No task is new, and none that has ended goes on again.
  have within : id < w.tasks.length := by
    rw [← passes.count]
    exact (List.getElem?_eq_some_iff.mp found).1
  obtain ⟨task', found', continues⟩ := passes.own id _ (List.getElem?_eq_getElem within)
  obtain rfl : task' = task₁ := Option.some.inj (found'.symm.trans found)
  refine ⟨_, List.getElem?_eq_getElem within, ?_, continues⟩
  cases ending : w.tasks[id].ending with
  | none => rfl
  | some _ => simp [continues.ended (by simp [ending]), ending] at live

/-- A start that goes on later did so before. -/
theorem starting (passes : Passes w w₁) {service : Placed} (starting : w₁.Starting service) :
    w.Starting service := by
  obtain ⟨id, task₁, found₁, live₁, duty, unaborted⟩ := starting
  obtain ⟨task, found, live, continues⟩ := passes.live found₁ live₁
  exact ⟨id, task, found, live, continues.duty ▸ duty, continues.aborted ▸ unaborted⟩

/-- What may be written later might have been written before. -/
theorem mayWrite (passes : Passes w w₁) {event : Event} (writes : w₁.MayWrite event) :
    w.MayWrite event := by
  rcases writes with quiet | ⟨service, up, starting⟩
  · exact .inl quiet
  · exact .inr ⟨service, up, passes.starting starting⟩

/-- Waits follow one another. -/
theorem trans (first : Passes w w₁) (second : Passes w₁ w₂) : Passes w w₂ where
  now := Nat.le_trans first.now second.now
  horizon := second.horizon.trans first.horizon
  groups := second.groups.trans first.groups
  started := second.started.trans first.started
  forwarder := second.forwarder.trans first.forwarder
  runs := second.runs.trans first.runs
  count := second.count.trans first.count
  -- A task is followed from one wait into the next; it ends at most once.
  own := fun id task found => by
    obtain ⟨task₁, found₁, continues₁⟩ := first.own id task found
    obtain ⟨task₂, found₂, continues₂⟩ := second.own id task₁ found₁
    exact ⟨task₂, found₂, continues₁.trans continues₂⟩
  finished := by
    obtain ⟨more₁, same₁⟩ := first.finished
    obtain ⟨more₂, same₂⟩ := second.finished
    exact ⟨more₁ ++ more₂, by rw [same₂, same₁, List.append_assoc]⟩
  exited := fun gone => second.exited (first.exited gone)
  trace := by
    obtain ⟨later₁, same₁, written₁⟩ := first.trace
    obtain ⟨later₂, same₂, written₂⟩ := second.trace
    refine ⟨later₁ ++ later₂, by rw [same₂, same₁, List.append_assoc], ?_⟩
    -- An event belongs to the first wait or to the second, and is allowed by how things stood
    -- before.
    intro stamped member
    rcases List.mem_append.mp member with early | late
    · obtain ⟨lower, upper, writes⟩ := written₁ stamped early
      exact ⟨lower, Nat.le_trans upper second.now, writes⟩
    · obtain ⟨lower, upper, writes⟩ := written₂ stamped late
      exact ⟨Nat.le_trans first.now lower, upper, first.mayWrite writes⟩
  sound := fun sound => second.sound (first.sound sound)
  counted := fun sound counted => second.counted (first.sound sound) (first.counted sound counted)

end Passes

/-- An act of a party is one way for a world to pass. -/
theorem Acts.passes {may : Event → Prop} {party : Party} {w w' : World} (acts : Acts may party w w')
    (allowed : ∀ event, may event → w.MayWrite event) : Passes w w' where
  now := Nat.le_of_eq acts.now.symm
  horizon := acts.horizon
  groups := acts.groups
  started := acts.started
  forwarder := acts.forwarder
  runs := acts.runs
  count := acts.count
  own := acts.own
  finished := acts.finished.imp fun _ found => found.1
  exited := acts.exited
  trace := by
    obtain ⟨events, same, written⟩ := acts.trace
    refine ⟨events.map (Stamped.mk w.now), same, ?_⟩
    intro stamped member
    obtain ⟨event, listed, rfl⟩ := List.mem_map.mp member
    exact ⟨Nat.le_refl _, Nat.le_of_eq acts.now.symm, allowed event (written event listed)⟩
  sound := acts.sound
  counted := acts.counted

/-- A turn keeps the law of a wait, whoever takes it. -/
theorem poll_passes (id : TaskId) (w : World) : Passes w (w.poll id) := by
  rcases poll_acts id w with same | ⟨_, task, found, live, acts⟩
  · rw [same]
    exact .refl w
  · exact acts.passes fun event writes => mayWrite_of_task found live writes

/-- Waking is no more than an act that writes nothing. -/
theorem wake_passes (id : TaskId) (w : World) : Passes w (w.wake id) := by
  have acts : Acts (fun _ => False) .main w (w.wake id) := wake_acts id
  exact acts.passes fun _ nothing => nothing.elim

/-- So does waking. -/
theorem wakeAll_passes (ids : List TaskId) (w : World) : Passes w (w.wakeAll ids) := by
  have acts : Acts (fun _ => False) .main w (w.wakeAll ids) := wakeAll_acts ids
  exact acts.passes fun _ nothing => nothing.elim

/-- One thing that happens while the supervising flow waits: a turn, signals that come in, a return
of those who stepped back, or the passing of time. -/
inductive Beat (goal : World → Bool) (alarm : Nat) : World → World → Prop
  | turn (w : World) (id : TaskId) (rest : List TaskId) (first : w.ready = id :: rest)
    (early : w.now < alarm) :
    Beat goal alarm w (({ w with ready := rest }).poll id)
  | arrive (w : World) : Beat goal alarm w w.admitRaised
  | resume (w : World) : Beat goal alarm w w.wakeYielded
  | tick (w : World) (idle : w.ready = []) (still : w.yielded = []) (unmet : goal w = false)
    (early : w.now < alarm) :
    Beat goal alarm w (w.advance alarm)

/-- Everything that happens during one wait. -/
def Beats (goal : World → Bool) (alarm : Nat) : World → World → Prop :=
  Relation.ReflTransGen (Beat goal alarm)

/-- Signals that come in keep it. -/
theorem admitRaised_passes (w : World) : Passes w w.admitRaised := by
  -- Signals are moved from one list to another, and the forwarder that waits for them is woken.
  have quiet : ∀ w' : World, w' = { w with arrived := w'.arrived, raised := w'.raised } →
    Passes w w' := by
    intro w' same
    rw [same]
    exact { Passes.refl w with sound := fun sound => sound.same rfl rfl rfl rfl }
  unfold admitRaised
  split
  · exact (quiet _ rfl).trans (wake_passes _ _)
  · exact quiet _ rfl

/-- So does the return of those who have yielded. -/
theorem wakeYielded_passes (w : World) : Passes w w.wakeYielded := by
  have emptied : Passes w { w with yielded := [], mainYielded := false } :=
    { Passes.refl w with sound := fun sound => sound.same rfl rfl rfl rfl }
  exact emptied.trans (wakeAll_passes _ _)

/-- So does the clock. -/
theorem advance_passes (alarm : Nat) (w : World) : Passes w (w.advance alarm) := by
  -- The clock moves on, never back, and those whose time has come are woken.
  have moved : ∀ (now : Nat) (timers : List Timer), w.now ≤ now → Passes w { w with now, timers } :=
    fun now timers later =>
      { Passes.refl w with
        now := later
        trace := ⟨[], (List.append_nil _).symm, by simp⟩
        sound := fun sound => sound.same rfl rfl rfl rfl }
  exact (moved _ _ (Nat.le_max_left _ _)).trans (wakeAll_passes _ _)

/-- Every beat of a wait keeps it. -/
theorem Beat.passes {goal : World → Bool} {alarm : Nat} {w w' : World}
    (beat : Beat goal alarm w w') :
    Passes w w' := by
  -- One case for each beat, each by the law of what happens in it.
  cases beat with
  | turn id rest first early =>
    have popped : Passes w { w with ready := rest } :=
      { Passes.refl w with sound := fun sound => sound.same rfl rfl rfl rfl }
    exact popped.trans (poll_passes id _)
  | arrive => exact admitRaised_passes w
  | resume => exact wakeYielded_passes w
  | tick idle still unmet early => exact advance_passes alarm w

/-- A wait keeps its law. -/
theorem Beats.passes {goal : World → Bool} {alarm : Nat} {w w' : World}
    (beats : Beats goal alarm w w') :
    Passes w w' := by
  induction beats with
  | refl => exact .refl w
  | tail _ beat ih => exact ih.trans beat.passes

/-- What holds throughout a wait if every turn keeps it, and if it lasts where nothing but the
clock, the due turns and the lists of those who wait changes. -/
theorem Beats.invariant {I : World → Prop} {goal : World → Bool} {alarm : Nat} {w w' : World}
    (still : ∀ {w w' : World}, Passes w w' → w'.tasks = w.tasks → w'.trace = w.trace →
      w'.awaiting = w.awaiting → I w → I w')
    (turn : ∀ (id : TaskId) {w : World}, I w → I (w.poll id)) (beats : Beats goal alarm w w')
    (holds : I w) : I w' := by
  -- Waking changes the list of due turns and nothing else.
  have woken : ∀ (ids : List TaskId) (w : World), (w.wakeAll ids).awaiting = w.awaiting := by
    intro ids w
    obtain ⟨ready, same⟩ := wakeAll_eq (w := w) ids
    rw [same]
  induction beats with
  | refl => exact holds
  | @tail w₁ _ _ beat ih =>
    cases beat with
    -- The turn is taken from the list first, and then it is the task's own.
    | turn id rest first early =>
      have popped : Passes w₁ { w₁ with ready := rest } :=
        { Passes.refl w₁ with sound := fun sound => sound.same rfl rfl rfl rfl }
      exact turn id (still popped rfl rfl rfl ih)
    | arrive =>
      -- Nobody but the forwarder is woken when signals come in.
      have same : w₁.admitRaised.tasks = w₁.tasks ∧ w₁.admitRaised.trace = w₁.trace ∧
          w₁.admitRaised.awaiting = w₁.awaiting := by
        unfold admitRaised
        split
        · rename_i id _ _ _ _
          refine ⟨by simp, ?_, woken [id] _⟩
          exact trace_wakeAll [id] { w₁ with arrived := w₁.arrived ++ w₁.raised, raised := [] }
        · exact ⟨rfl, rfl, rfl⟩
      exact still (admitRaised_passes _) same.1 same.2.1 same.2.2 ih
    | resume =>
      exact still (wakeYielded_passes _) (by simp [wakeYielded]) (by simp [wakeYielded])
        (by simp [wakeYielded, woken]) ih
    -- Where the clock moves, the tasks are those that were there, and nobody says anything.
    | tick idle calm unmet early =>
      exact still (advance_passes _ _) (by simp [advance]) (by simp [advance])
        (by simp [advance, woken]) ih

@[simp] theorem now_admitRaised (w : World) : w.admitRaised.now = w.now := by
  unfold admitRaised
  split <;> simp

@[simp] theorem tasks_admitRaised (w : World) : w.admitRaised.tasks = w.tasks := by
  unfold admitRaised
  split <;> simp

/-- No time passes in a turn. -/
@[simp] theorem now_poll (id : TaskId) (w : World) : (w.poll id).now = w.now := by
  rcases poll_acts id w with same | ⟨_, _, _, _, acts⟩
  · rw [same]
  · exact acts.now

@[simp] theorem now_pollNext (w : World) : w.pollNext.now = w.now := by
  unfold pollNext
  split
  · rfl
  · exact now_poll _ _

/-- A task that has its turn is the first of those whose turns are due. -/
theorem pollNext_beat {goal : World → Bool} {alarm : Nat} {w : World} (runnable : w.ready ≠ [])
    (early : w.now < alarm) :
    Beat goal alarm w w.pollNext := by
  obtain ⟨id, rest, first⟩ := List.exists_cons_of_ne_nil runnable
  have next : w.pollNext = ({ w with ready := rest }).poll id := by simp only [pollNext, first]
  rw [next]
  exact .turn w id rest first early

/-- Between two rounds signals come in, and after that at most one other thing happens. -/
theorem rest_beats (goal : World → Bool) (alarm : Nat) (dry : Bool) {w : World}
    (early : w.now < alarm) :
    Beats goal alarm w (w.rest goal alarm dry) := by
  -- The arrival of signals is a beat even where none has come.
  have admitted : Beats goal alarm w w.admitRaised := .single (.arrive w)
  unfold rest
  dsimp only
  split
  · exact admitted.tail (.resume _)
  · rename_i nobody
    simp only [not_or, Decidable.not_not] at nobody
    split
    · -- The clock moves only when nobody can run and the goal is still to be met.
      rename_i idle
      exact admitted.tail
        (.tick _ idle.2.1 nobody.2 (by simpa using idle.2.2) (by simpa using early))
    · exact admitted

/-- The rounds of a wait are made of beats. -/
theorem settle_beats (goal : World → Bool) (alarm fuel turns : Nat) (w : World)
    (early : turns ≠ 0 → w.now < alarm) :
    Beats goal alarm w (w.settle goal alarm fuel turns) := by
  -- Each unit of fuel is one turn or one rest, and within a round the alarm is still ahead.
  induction fuel generalizing turns w with
  | zero => exact .refl
  | succ fuel ih =>
    unfold settle
    split
    · exact .refl
    · rename_i uncalled
      have early : w.now < alarm := by
        by_cases first : turns = 0
        · simp only [first, true_and, not_or, Nat.not_le] at uncalled
          exact uncalled.2.2
        · exact early first
      split
      · rename_i runnable
        refine .head (pollNext_beat runnable.2 early) (ih _ _ fun _ => ?_)
        rw [now_pollNext]
        exact early
      · exact (rest_beats goal alarm _ early).trans (ih _ _ fun zero => absurd rfl zero)

/-- Time never passes the alarm of a wait, unless it was past it from the beginning. -/
theorem Beats.now_le {goal : World → Bool} {alarm : Nat} {w w' : World}
    (beats : Beats goal alarm w w') :
    w'.now ≤ max w.now alarm := by
  -- By induction on the beats; only a tick moves the clock, and never past the alarm.
  induction beats with
  | refl => exact Nat.le_max_left _ _
  | tail _ beat ih =>
    cases beat with
    -- A turn takes no time.
    | turn id rest first _ =>
      rw [now_poll]
      exact ih
    | arrive =>
      rw [now_admitRaised]
      exact ih
    | resume => simpa [wakeYielded] using ih
    -- A tick goes to the next deadline, of which none counts that lies behind the alarm.
    | tick idle still unmet _ =>
      have next := (nextDeadline_spec alarm ‹World›).2.1
      simp only [advance, now_wakeAll]
      omega

/-- A goal that only tasks can meet is met before the alarm, since time does not pass once it is
met. -/
theorem Beats.met_early {goal : World → Bool} {alarm : Nat} {w w' : World}
    (beats : Beats goal alarm w w') (steady : ∀ w w' : World, w'.tasks = w.tasks → goal w' = goal w)
    (early : goal w = true → w.now < alarm) (met : goal w' = true) : w'.now < alarm := by
  -- By induction on the beats; what meets the goal is a turn, and turns come only before the alarm.
  induction beats with
  | refl => exact early met
  | tail _ beat ih =>
    cases beat with
    -- It was a turn before the alarm, as every turn is.
    | turn id rest first early =>
      rw [now_poll]
      exact early
    | arrive =>
      rename_i w₁ _
      rw [now_admitRaised]
      exact ih (steady _ _ (tasks_admitRaised w₁) ▸ met)
    | resume =>
      rename_i w₁ _
      have same : w₁.wakeYielded.tasks = w₁.tasks := by simp [wakeYielded]
      have now : w₁.wakeYielded.now = w₁.now := by simp [wakeYielded]
      rw [now]
      exact ih (steady _ _ same ▸ met)
    -- A tick comes only while the goal is unmet, and it changes no task.
    | tick idle still unmet early =>
      rename_i w₁ _
      have same : (w₁.advance alarm).tasks = w₁.tasks := by simp [advance]
      rw [steady _ _ same, unmet] at met
      contradiction

end Warden.Supervision.World
