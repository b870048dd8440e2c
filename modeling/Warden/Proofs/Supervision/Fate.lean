import Warden.Proofs.Supervision.Race

/-!
Starts that wait for nobody else: when each of them ends, and how, is decided by its script alone.
-/

namespace Warden.Supervision

/-- After how many milliseconds something ends and how, if it ends at all. -/
abbrev Fate := Option (Nat × Outcome)

/-- The fate of what begins only after so many milliseconds. -/
def Fate.after (millis : Nat) (fate : Fate) : Fate :=
  fate.map fun (taken, outcome) => (millis + taken, outcome)

/-- Whether a step waits for nobody else: neither for a cancellation nor for room in the signal
channel. -/
def Step.isSelfTimed : Step → Bool
  | .awaitCancel | .signal _ => false
  | _ => true

/-- The fate of a script that waits for nobody else. -/
def Script.fate : Script → Fate
  | [] => some (0, .done)
  | .sleep millis :: rest => (fate rest).after millis
  | .fail error :: _ => some (0, .failed error)
  | .failWith error :: _ => some (0, .failedWith error)
  | .panic payload :: _ => some (0, .panicked payload)
  | .hang :: _ => none
  | _ :: rest => fate rest

@[simp] theorem Fate.after_zero (fate : Fate) : fate.after 0 = fate := by
  cases fate <;> simp [after]

@[simp] theorem Fate.after_after (first second : Nat) (fate : Fate) :
    (fate.after second).after first = fate.after (first + second) := by
  cases fate <;> simp [after, Nat.add_assoc]

namespace World

/-- Where a start waits whose script has these steps left and whose fate, by the clock, is this
one. -/
def Stands (id : TaskId) (wait : Wait) (steps : Script) (fate : Fate) (w : World) : Prop :=
  match wait with
  | .fresh => id ∈ w.ready ∧ fate = steps.fate.after w.now
  | .yielded => (id ∈ w.ready ∨ id ∈ w.yielded) ∧ fate = steps.fate.after w.now
  | .timer deadline =>
    w.now ≤ deadline ∧ (⟨deadline, id⟩ ∈ w.timers ∨ w.now = deadline ∧ id ∈ w.ready) ∧
      fate = steps.fate.after deadline
  | .never => fate = none
  | _ => False

/-- The start of a service is on its way to its fate, or it has ended just as that says; the process
may be gone before. -/
def OnCourse (service : Placed) (id : TaskId) (fate : Fate) (w : World) : Prop :=
  w.exited.isSome ∨ ∃ task, w.task? id = some task ∧ task.duty = .start service ∧
    task.aborted = false ∧
    (task.ending = none ∧ (∀ step ∈ task.steps, step.isSelfTimed = true) ∧
      w.Stands id task.wait task.steps fate ∨
      ∃ outcome, fate = some (w.now, outcome) ∧ task.ending.isSome ∧
        (task.ending = some .done ↔ outcome = .done))

variable {service : Placed} {id : TaskId} {wait : Wait} {steps : Script} {fate : Fate}
  {w w' : World}

/-- What has not ended yet does not end before now. -/
theorem Stands.now_le {time : Nat} {outcome : Outcome} (stands : w.Stands id wait steps fate)
    (ends : fate = some (time, outcome)) : w.now ≤ time := by
  -- Wherever it waits, its fate is that of its rest, which begins now or at its timer.
  subst ends
  have later : ∀ first, some (time, outcome) = Fate.after first steps.fate → first ≤ time := by
    intro first same
    obtain ⟨⟨taken, _⟩, _, same⟩ := Option.map_eq_some_iff.mp same.symm
    cases same
    exact Nat.le_add_right _ _
  cases wait with
  | fresh => exact later _ stands.2
  | yielded => exact later _ stands.2
  | timer deadline => exact Nat.le_trans stands.1 (later _ stands.2.2)
  | never => cases stands
  | _ => exact stands.elim

/-- A start waits where it waited as long as it is on the lists on which it has to be. -/
theorem Stands.mono (stands : w.Stands id wait steps fate) (now : w'.now = w.now)
    (ready : id ∈ w.ready → id ∈ w'.ready)
    (timers : ∀ deadline, ⟨deadline, id⟩ ∈ w.timers → ⟨deadline, id⟩ ∈ w'.timers)
    (yielded : id ∈ w.yielded → id ∈ w'.ready ∨ id ∈ w'.yielded) :
    w'.Stands id wait steps fate := by
  -- One case for each thing that a start can wait for.
  cases wait with
  | fresh => exact ⟨ready stands.1, now ▸ stands.2⟩
  | yielded => exact ⟨stands.1.elim (fun due => .inl (ready due)) yielded, now ▸ stands.2⟩
  | timer deadline =>
    obtain ⟨early, listed, same⟩ := stands
    exact ⟨now ▸ early, listed.imp (timers deadline) (And.imp (fun due => now ▸ due) ready), same⟩
  | never => exact stands
  | _ => exact stands.elim

/-- A start stays on course while it is on the lists on which it has to be. -/
theorem OnCourse.mono (course : w.OnCourse service id fate) (same : w'.task? id = w.task? id)
    (exited : w.exited.isSome → w'.exited.isSome) (now : w'.now = w.now)
    (ready : id ∈ w.ready → id ∈ w'.ready)
    (timers : ∀ deadline, ⟨deadline, id⟩ ∈ w.timers → ⟨deadline, id⟩ ∈ w'.timers)
    (yielded : w.isLive id = true → id ∈ w.yielded → id ∈ w'.ready ∨ id ∈ w'.yielded) :
    w'.OnCourse service id fate := by
  refine course.imp exited ?_
  rintro ⟨task, found, duty, unaborted, ⟨live, own, stands⟩ | ⟨outcome, ends, ended, well⟩⟩
  · have unended : w.isLive id = true := by simp [isLive, found, live]
    exact ⟨task, same.trans found, duty, unaborted,
      .inl ⟨live, own, stands.mono now ready timers (yielded unended)⟩⟩
  · exact ⟨task, same.trans found, duty, unaborted, .inr ⟨outcome, now ▸ ends, ended, well⟩⟩

/-- What others do keeps a start on course. -/
theorem OnCourse.acts {may : Event → Prop} {party : Party} (course : w.OnCourse service id fate)
    (acts : Acts may party w w') (other : party ≠ .task id) : w'.OnCourse service id fate :=
  course.mono (acts.others id other) acts.exited acts.now (fun due => acts.ready due)
    (fun _ member => acts.timers _ member other) fun _ member => .inr (acts.yielded member)

/-- A step that waits for nobody else either lets the script go on at once, or makes it wait or end
as its fate says. -/
theorem act_stands (id : TaskId) (actor : Actor) {step : Step} (own : step.isSelfTimed = true)
    (rest : Script) (w : World) :
    match w.act (.task id) actor step with
    | (.proceed, _) => Script.fate (step :: rest) = rest.fate
    | (.block wait, w₁) => w₁.Stands id wait rest ((Script.fate (step :: rest)).after w.now)
    | (.finish outcome, _) => Script.fate (step :: rest) = some (0, outcome) := by
  -- One case for each step, against the equation of the fate for that step.
  cases step with
  | sleep millis =>
    -- A sleep of no time is none.
    by_cases none_ : millis = 0
    · simp [act, none_, Script.fate]
    · simp [act, none_, block, enlist, Stands, Script.fate]
  | yield => simp [act, block, enlist, Stands, Script.fate]
  | cancel cause => simp [act, Script.fate]
  | trySignal signal =>
    -- Room in the channel or none, the start goes on at once.
    simp only [act]
    split
    · rename_i same
      split at same <;> cases same <;> rfl
    · rename_i same
      split at same <;> cases same
    · rename_i same
      split at same <;> cases same
  | awaitCancel => cases own
  | signal signal => cases own
  | _ => simp [act, Script.fate, Stands, Fate.after]

/-- A script that waits for nobody else comes to a wait or to its end as its fate says. -/
theorem runSteps_stands (id : TaskId) (actor : Actor) {script : Script}
    (own : ∀ step ∈ script, step.isSelfTimed = true) (w : World) :
    match w.runSteps (.task id) actor script with
    | (.inl (wait, rest), w₁) => (∀ step ∈ rest, step.isSelfTimed = true) ∧
        w₁.Stands id wait rest (script.fate.after w.now)
    | (.inr outcome, _) => script.fate = some (0, outcome) := by
  -- By induction on the script: steps that go on at once take no time, so that the fate is that of
  -- the rest.
  induction script generalizing w with
  | nil => rfl
  | cons step rest ih =>
    obtain ⟨first, others⟩ := List.forall_mem_cons.mp own
    have acted : Acts (fun _ => True) (.task id) w (w.act (.task id) actor step).2 :=
      act_acts (fun _ _ _ => trivial) trivial step
    have stands := act_stands id actor first rest w
    unfold runSteps
    generalize w.act (.task id) actor step = reached at acted stands
    -- A step that proceeds leaves its fate to the rest, at the same moment.
    rcases reached with ⟨_ | wait | outcome, w₁⟩
    · have now : w₁.now = w.now := acted.now
      dsimp only at stands
      rw [stands, ← now]
      exact ih others w₁
    -- One that waits has left the rest of the script, and one that ends has none.
    · exact ⟨others, stands⟩
    · exact stands

/-- The end of a start's script is the end of its task, and a good one exactly if the script
succeeded. -/
theorem endStart_ends {task : Task} (service : Placed) (found : w.task? id = some task)
    (run : RunId) (outcome : Outcome) : ∃ ending,
      (w.endStart id run service outcome).task? id = some { task with ending := some ending } ∧
        (ending = .done ↔ outcome = .done) := by
  -- A refusal is one ending, however the error was given.
  have refused : ∀ error, (endStart.fail id run service w error).task? id =
      some { task with ending := some (.refused error) } := fun error =>
    task?_finish _ (by simpa [task?] using found)
  cases outcome with
  | done =>
    -- The service is up or was given up meanwhile; the start has ended well either way.
    refine ⟨.done, ?_, by simp⟩
    simp only [endStart]
    split <;> exact task?_finish _ found
  | panicked payload => exact ⟨.panicked payload, task?_finish _ found, by simp⟩
  | failed error => exact ⟨.refused error, refused error, by simp⟩
  | failedWith error => exact ⟨.refused error.text, refused error.text, by simp⟩

/-- In the turn of a start its wait is over, unless it waits for a timer that is still to come, or
for ever. -/
theorem Stands.turn (stands : w.Stands id wait steps fate) (actor : Actor) (rest : List TaskId) :
    ({ w with ready := rest } : World).isOver (.task id) actor wait = true ∧
      fate = steps.fate.after w.now ∨
      ({ w with ready := rest } : World).isOver (.task id) actor wait = false ∧
        ({ w with ready := rest } : World).Stands id wait steps fate := by
  -- A turn may come to a start that has not asked for it; only then is its timer still to come.
  cases wait with
  | fresh => exact .inl ⟨rfl, stands.2⟩
  | yielded => exact .inl ⟨rfl, stands.2⟩
  -- A timer that is due is over, and the rest begins at its deadline; one that is not is still
  -- listed.
  | timer deadline =>
    obtain ⟨early, listed, ends⟩ := stands
    rcases Nat.eq_or_lt_of_le early with due | later
    · exact .inl ⟨by simp [isOver, due], due ▸ ends⟩
    · refine .inr ⟨by simpa [isOver] using later, early, .inl ?_, ends⟩
      exact listed.resolve_right fun both => absurd both.1 (Nat.ne_of_lt later)
  | never => exact .inr ⟨rfl, stands⟩
  | _ => exact stands.elim

/-- A start that is asked to go on with its script does so, or ends, as its fate says. -/
theorem Stands.pollScript {task : Task} (stands : w.Stands id task.wait task.steps fate)
    (rest : List TaskId) (found : w.task? id = some task) (duty : task.duty = .start service)
    (unaborted : task.aborted = false) (live : task.ending = none)
    (own : ∀ step ∈ task.steps, step.isSelfTimed = true) :
    (({ w with ready := rest } : World).pollScript id task).OnCourse service id fate := by
  set w₁ : World := { w with ready := rest } with popped
  have found₁ : w₁.task? id = some task := found
  have now : (w₁.pollScript id task).now = w.now := (pollScript_acts found₁ live unaborted).now
  unfold World.pollScript at now ⊢
  rcases stands.turn task.actor rest with ⟨ripe, ends⟩ | ⟨waiting, stands⟩
  · rw [if_pos ripe] at now ⊢
    -- The script runs from where it waited to its next wait or to its end, and leaves all tasks as
    -- they are.
    have ran := runSteps_stands id task.actor own (w₁.resume task)
    have resumed : Acts (fun _ => True) (.task id) w₁ (w₁.resume task) :=
      resume_acts (fun _ _ _ => trivial) fun _ _ => trivial
    have tasks : ((w₁.resume task).runSteps (.task id) task.actor task.steps).2.tasks =
      w.tasks := by simp [popped]
    generalize (w₁.resume task).runSteps (.task id) task.actor task.steps = reached at ran tasks now
    have found₂ : reached.2.task? id = some task := by simpa [task?, tasks] using found
    rw [resumed.now] at ran
    rcases reached with ⟨⟨wait, left⟩ | outcome, w₂⟩ <;> dsimp only at ran now found₂ ⊢
    -- It waits again, with a shorter script, and stands where this says.
    · refine .inr ⟨{ task with wait, steps := left }, ?_, duty, unaborted,
        .inl ⟨live, ran.1, ends ▸ ran.2⟩⟩
      simp only [task?] at found₂
      simp [task?, changeTask, List.getElem?_modify_eq, found₂]
    -- It has come to its end, which is now.
    · simp only [endScript, duty] at now ⊢
      obtain ⟨ending, found₃, well⟩ := endStart_ends service found₂ task.actor.run outcome
      refine .inr ⟨_, found₃, duty, unaborted, .inr ⟨outcome, ?_, rfl, by simpa using well⟩⟩
      rw [ends, ran, now]
      rfl
  -- Its timer is still to come, and the turn finds it waiting as before.
  · rw [if_neg (by simp [popped, waiting])]
    exact .inr ⟨task, found₁, duty, unaborted, .inl ⟨live, own, stands⟩⟩

/-- In its own turn a start goes on, or ends, as its fate says. -/
theorem OnCourse.turn (course : w.OnCourse service id fate) (rest : List TaskId) :
    (({ w with ready := rest }).poll id).OnCourse service id fate := by
  -- A process that is gone takes no turns, and a start that has ended has none.
  by_cases gone : w.exited.isSome
  · exact .inl ((poll_passes id { w with ready := rest }).exited gone)
  obtain ⟨task, found, duty, unaborted, standing⟩ := course.resolve_left gone
  have found₁ : ({ w with ready := rest } : World).task? id = some task := found
  rcases standing with ⟨live, own, stands⟩ | ⟨outcome, ends, ended, well⟩
  · rw [poll_script found₁ live (by simpa using gone) unaborted duty]
    exact stands.pollScript rest found duty unaborted live own
  · rw [poll_idle (w := { w with ready := rest }) (by simp [found₁, ended])]
    exact .inr ⟨task, found₁, duty, unaborted, .inr ⟨outcome, ends, ended, well⟩⟩

/-- Time passes only up to the timer for which a start waits, and wakes it there. -/
theorem Stands.advance {alarm : Nat} (stands : w.Stands id wait steps fate)
    (alive : w.isLive id = true) (idle : w.ready = []) (still : w.yielded = []) :
    (w.advance alarm).Stands id wait steps fate := by
  have now : (w.advance alarm).now = max w.now (w.nextDeadline alarm) := by simp [World.advance]
  cases wait with
  | fresh => simp [Stands, idle] at stands
  | yielded => simp [Stands, idle, still] at stands
  | timer deadline =>
    obtain ⟨early, listed | ⟨_, due⟩, ends⟩ := stands
    -- The clock goes no further than the earliest timer, hence not beyond this one.
    · have next : w.nextDeadline alarm ≤ deadline := (nextDeadline_spec alarm w).2.2 _ listed
      refine ⟨by rw [now]; exact Nat.max_le.mpr ⟨early, next⟩, ?_, ends⟩
      by_cases due : max w.now (w.nextDeadline alarm) = deadline
      · refine .inr ⟨now.trans due, mem_ready_wakeAll ?_ alive⟩
        refine List.mem_map.mpr ⟨⟨deadline, id⟩, List.mem_filter.mpr ⟨listed, ?_⟩, rfl⟩
        simp [due]
      · -- The timer is still to come, so that it is one of those that are kept.
        have later : max w.now (w.nextDeadline alarm) < deadline := by omega
        obtain ⟨ready, woken⟩ := wakeAll_eq (w := { w with
          now := max w.now (w.nextDeadline alarm)
          timers :=
            w.timers.filter fun timer =>
              decide (max w.now (w.nextDeadline alarm) < timer.deadline) })
          ((w.timers.filter fun timer =>
            decide (timer.deadline ≤ max w.now (w.nextDeadline alarm))).map Timer.task)
        refine .inl ?_
        unfold World.advance
        dsimp only
        rw [woken]
        exact List.mem_filter.mpr ⟨listed, by simpa using later⟩
    · simp [idle] at due
  | never => exact stands
  -- No other wait is one of a start that depends on time alone.
  | _ => exact stands.elim

/-- A start that is waited for stays on course when time passes. -/
theorem OnCourse.advance {alarm : Nat} (course : w.OnCourse service id fate) (idle : w.ready = [])
    (still : w.yielded = []) (unended : w.isEnded id = false) :
    (w.advance alarm).OnCourse service id fate := by
  refine course.imp (fun gone => by simpa [World.advance] using gone) ?_
  rintro ⟨task, found, duty, unaborted, ⟨live, own, stands⟩ | ⟨outcome, _, ended, _⟩⟩
  · have found' : (w.advance alarm).task? id = some task := by
      simpa [task?, World.advance] using found
    have alive : w.isLive id = true := by simp [isLive, found, live]
    exact ⟨task, found', duty, unaborted, .inl ⟨live, own, stands.advance alive idle still⟩⟩
  · simp [isEnded, found, ended] at unended

/-- While a start is waited for, it stays on course; and once it has ended, time stands still. -/
theorem OnCourse.beats {alarm : Nat} (course : w.OnCourse service id fate)
    (beats : Beats (·.isEnded id) alarm w w') :
    w'.OnCourse service id fate := by
  -- Waking changes the list of due turns and nothing else.
  have woken : ∀ (w : World) (ids : List TaskId), w.OnCourse service id fate →
    (w.wakeAll ids).OnCourse service id fate := by
    intro w ids course
    have acts : Acts (fun _ => False) .main w (w.wakeAll ids) := wakeAll_acts ids
    exact course.acts acts (by simp)
  -- The induction is on the beats; a turn of another party neither wakes the start nor moves its
  -- timer.
  induction beats with
  | refl => exact course
  | @tail w₁ w₂ _ beat ih =>
    cases beat with
    | turn turn rest first early =>
      by_cases own : turn = id
      -- Its own turn takes it along its course.
      · subst own
        exact ih.turn rest
      · have popped : ({ w₁ with ready := rest } : World).OnCourse service id fate := by
          refine ih.mono rfl (fun gone => gone) rfl (fun member => ?_) (fun _ member => member)
            fun _ member => .inr member
          rw [first] at member
          exact (List.mem_cons.mp member).resolve_left fun same => own same.symm
        -- Somebody else's turn takes nothing out of the list of due turns but itself.
        rcases poll_acts turn { w₁ with ready := rest } with same | ⟨_, _, _, _, acts⟩
        · rw [same]
          exact popped
        · exact popped.acts acts fun same => own (by simpa using same)
    | arrive =>
      unfold admitRaised
      split
      · exact woken _ [_]
          (ih.mono rfl (fun gone => gone) rfl (fun due => due) (fun _ member => member)
            fun _ member => .inr member)
      · exact ih.mono rfl (fun gone => gone) rfl (fun due => due) (fun _ member => member)
          fun _ member => .inr member
    -- Whoever has yielded is woken before the clock moves.
    | resume =>
      have acts :
        Acts (fun _ => False) .main ({ w₁ with yielded := [], mainYielded := false } : World)
          w₁.wakeYielded :=
        wakeAll_acts _
      exact ih.mono (by simp [task?, wakeYielded]) (fun gone => acts.exited gone) acts.now
        (fun due => acts.ready due)
        (fun _ member => acts.timers _ member (by simp))
        fun live member => .inl (mem_ready_wakeAll member (by simpa [isLive, task?] using live))
    -- The clock moves only when nobody has a turn, so that the start waits for its timer.
    | tick idle still unmet early => exact ih.advance idle still unmet

end World

end Warden.Supervision
