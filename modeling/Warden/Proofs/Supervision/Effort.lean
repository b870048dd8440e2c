import Mathlib.Tactic.Common
import Warden.Proofs.Supervision.Frame

/-!
The tasks cannot keep the supervising flow waiting: every turn uses up effort, and no turn adds any.
-/

namespace Warden.Supervision

/-- Changing one element of a list changes the sum of a measure by what that element gains or
loses. -/
theorem sum_map_modify {α : Type} (measure : α → Nat) (change : α → α) {items : List α}
    {place : Nat} {item : α} (found : items[place]? = some item) :
    ((items.modify place change).map measure).foldr (· + ·) 0 + measure item =
      (items.map measure).foldr (· + ·) 0 + measure (change item) := by
  -- The place is walked to from the front, and everything before it stays.
  induction items generalizing place with
  | nil => simp at found
  | cons head tail ih =>
    cases place with
    | zero =>
      simp only [List.getElem?_cons_zero, Option.some.injEq] at found
      -- The place is the head, which is the element that changes.
      subst found
      simp only [List.modify_zero_cons, List.map_cons, List.foldr_cons]
      omega
    | succ place =>
      simp only [List.getElem?_cons_succ] at found
      -- The place lies behind the head, which counts the same on both sides.
      have tailSum := ih found
      simp only [List.modify_succ_cons, List.map_cons, List.foldr_cons]
      omega

namespace World

@[simp] theorem pending_emit (event : Event) (w : World) : (w.emit event).pending = w.pending := rfl

@[simp] theorem pending_notice (origin : Origin) (n : Notice) (w : World) :
    (w.notice origin n).pending = w.pending := rfl

@[simp] theorem pending_changeTask (id : TaskId) (change : Task → Task) (w : World) :
    (w.changeTask id change).pending = w.pending := rfl

/-- Waking a task adds at most its turn. -/
theorem pending_wake_le (id : TaskId) (w : World) : (w.wake id).pending ≤ w.pending + 1 := by
  unfold wake
  split
  · omega
  · simp only [pending, List.length_append, List.length_singleton]
    omega

/-- Waking several tasks adds at most a turn for each. -/
theorem pending_wakeAll_le (ids : List TaskId) (w : World) :
    (w.wakeAll ids).pending ≤ w.pending + ids.length := by
  -- Each task of the list is woken in the world that the one before it left.
  induction ids generalizing w with
  | nil => simp [wakeAll]
  | cons id ids ih =>
    have first := pending_wake_le id w
    have others := ih (w.wake id)
    simp only [wakeAll, List.foldl_cons, List.length_cons] at others ⊢
    omega

/-- At most one turn is added. -/
theorem pending_wakeParty_le (party : Party) (w : World) :
    (w.wakeParty party).pending ≤ w.pending + 1 := by
  cases party with
  | main => exact Nat.le_succ w.pending
  | task id => exact pending_wake_le id w

/-- Whoever waits for a cancellation has paid for the turn that it brings. -/
theorem pending_cancel_le (caller : Caller) (run : RunId) (cause : Cause) (w : World) :
    (w.cancel caller run cause).2.pending ≤ w.pending := by
  unfold cancel
  split
  · exact Nat.le_refl _
  · rename_i r found
    -- The waiters leave their list before they are woken, and each of them weighed more than a
    -- turn.
    have emptied :=
      sum_map_modify (fun r : Run => r.waiters.length)
        (fun _ => ⟨(r.state.cancel cause).2, []⟩) found
    have woken := pending_wakeAll_le r.waiters
      ((w.emit (.cancelCall caller run cause)).changeRun run fun _ =>
        ⟨(r.state.cancel cause).2, []⟩)
    have tripped : (w.trip caller run cause r).pending ≤ w.pending := by
      refine Nat.le_trans woken ?_
      simp only [pending, changeRun, emit, List.length_nil, Nat.add_zero] at emptied ⊢
      omega
    split
    · -- First or not, the call is noted and trips the switch, and only what is written about it
      -- differs.
      exact tripped
    · exact tripped

/-- A signal that is put into the channel wakes at most one listener. -/
theorem pending_deliver_le (signal : Signal) (w : World) :
    (w.deliver signal).pending ≤ w.pending + 1 := by
  -- The slot is filled first, which adds nothing that was not paid for.
  have filled :
    ((w.changeChannel fun c => { c with slot := .full signal }).emit (.accepted signal)).pending
      ≤ w.pending := by
    simp only [pending, emit, changeChannel, Channel.effort, Slot.effort]
    omega
  dsimp only [deliver]
  split
  · omega
  · exact Nat.le_trans (pending_wake_le _ _) (by omega)

/-- A promise that is kept pays for the turn of the listener. -/
theorem pending_deliver_lt {party : Party} (signal : Signal) {w : World}
    (promised : w.channel.slot = .promised party) : (w.deliver signal).pending < w.pending := by
  -- The promise weighed more than the full slot, by more than the turn of the listener that is
  -- woken.
  have filled :
    ((w.changeChannel fun c => { c with slot := .full signal }).emit (.accepted signal)).pending
      + 2 = w.pending := by
    simp only [pending, emit, changeChannel, Channel.effort, Slot.effort, promised]
    omega
  dsimp only [deliver]
  split
  · omega
  · exact Nat.lt_of_le_of_lt (pending_wake_le _ _) (by omega)

/-- A sender that is promised the place has paid for its turn by waiting. -/
theorem pending_vacate_le (w : World) : w.vacate.pending ≤ w.pending := by
  unfold vacate
  split
  · simp only [pending, changeChannel, Channel.effort, Slot.effort]
    omega
  · -- The sender leaves the line, and the turn that it gets weighs less than its place there.
    rename_i party rest waiting
    refine Nat.le_trans (pending_wakeParty_le _ _) ?_
    simp only [pending, changeChannel, Channel.effort, Slot.effort, waiting, List.length_cons]
    omega

/-- Passing the receiving end on costs no more than the place that becomes free. -/
theorem pending_passReceiver_le (w : World) : w.passReceiver.pending ≤ w.pending := by
  unfold passReceiver
  split
  · exact Nat.le_refl _
  · -- The next listener leaves the line, which pays for its turn.
    rename_i id rest waiting
    refine Nat.le_trans (pending_wake_le _ _) ?_
    simp only [pending, changeChannel, Channel.effort, waiting, List.length_cons]
    omega

/-- A wait that begins adds one entry to one list. -/
theorem pending_enlist_le (party : Party) (actor : Actor) (wait : Wait) (w : World) :
    (w.enlist party actor wait).pending ≤ w.pending + 3 := by
  -- Each kind of wait has a list of its own, and no entry in any of them weighs more than three.
  unfold enlist
  split
  · simp only [pending, List.length_append, List.length_singleton]
    omega
  · simp only [pending, List.length_cons]
    omega
  · have := Bool.toNat_le w.mainYielded
    simp only [pending, Bool.toNat_true]
    omega
  · -- A run that does not exist has no list that could grow.
    rename_i id
    cases found : w.runs[actor.run]? with
    | none => simp [changeRun, List.modify_eq_self, List.getElem?_eq_none_iff.mp found]
    | some r =>
      have longer := sum_map_modify (fun r : Run => r.waiters.length)
        (fun r => { r with waiters := r.waiters ++ [id] }) found
      simp only [pending, changeRun, List.length_append, List.length_singleton] at longer ⊢
      omega
  · simp only [pending, changeChannel, Channel.effort, List.length_append, List.length_singleton]
    omega
  · omega

/-- What a script does when its wait is over costs no more than the wait weighed. -/
theorem pending_settleWait_le {party : Party} {actor : Actor} {wait : Wait} {w : World}
    (ripe : w.isOver party actor wait = true) : (w.settleWait actor wait).pending ≤ w.pending := by
  -- Only a sender that got its room does anything when its wait is over.
  cases wait with
  | room signal =>
    have promised : w.channel.slot = .promised party := by simpa [isOver] using ripe
    exact Nat.le_of_lt (pending_deliver_lt signal promised)
  | _ => exact Nat.le_refl _

/-- A wait that is over weighs at least what its end costs. -/
theorem pending_resume_le {party : Party} {task : Task} {w : World}
    (ripe : w.isOver party task.actor task.wait = true) : (w.resume task).pending ≤ w.pending := by
  unfold resume
  split
  · exact Nat.le_refl _
  · exact pending_settleWait_le ripe

/-- Giving up a wait adds nothing. -/
theorem pending_forsake_le (party : Party) (actor : Actor) (wait : Wait) (w : World) :
    (w.forsake party actor wait).pending ≤ w.pending := by
  -- Whoever gives up a wait leaves the list that the wait entered, and a list that loses entries
  -- weighs no more.
  unfold forsake
  split
  · have := List.length_filter_le (fun t : Timer => t.task != ‹TaskId›) w.timers
    simp only [pending]
    omega
  · simp only [pending, Bool.toNat_false]
    omega
  · rename_i id
    cases found : w.runs[actor.run]? with
    | none => simp [changeRun, List.modify_eq_self, List.getElem?_eq_none_iff.mp found]
    | some r =>
      have shorter := sum_map_modify (fun r : Run => r.waiters.length)
        (fun r => { r with waiters := r.waiters.filter (· != id) }) found
      have := List.length_filter_le (· != id) r.waiters
      simp only [pending, changeRun] at shorter ⊢
      omega
  · split
    · -- A sender that gives up the room it was promised passes it to the next one.
      exact pending_vacate_le w
    · have := List.length_filter_le (· != party) w.channel.senders
      simp only [pending, changeChannel, Channel.effort]
      omega
  · exact Nat.le_refl _

/-- A step that blocks begins a wait of its own. -/
theorem act_block_ne_fresh {party : Party} {actor : Actor} {step : Step} {w w' : World}
    {wait : Wait} (acted : w.act party actor step = (.block wait, w')) : wait ≠ .fresh := by
  -- Every step that blocks names the wait that it begins.
  cases step <;> simp only [act, block, Prod.mk.injEq] at acted
  all_goals (try split at acted) <;> simp_all <;> grind

/-- No step sets more going than it weighed. -/
theorem pending_act_le (party : Party) (actor : Actor) (step : Step) (w : World) :
    (w.act party actor step).2.pending ≤ w.pending + 6 := by
  -- A signal that is raised weighs six until it is let through; all other steps add less.
  cases step with
  | sleep millis =>
    simp only [act, block]
    split
    · exact Nat.le_add_right _ _
    · exact Nat.le_trans (pending_enlist_le _ _ _ _) (by omega)
  | yield => exact Nat.le_trans (pending_enlist_le _ _ _ _) (by omega)
  | cancel cause => exact Nat.le_trans (pending_cancel_le _ _ _ _) (by omega)
  | awaitCancel =>
    simp only [act, block]
    split
    · exact Nat.le_add_right _ _
    · exact Nat.le_trans (pending_enlist_le _ _ _ _) (by omega)
  | signal signal =>
    simp only [act, block]
    split
    · exact Nat.le_trans (pending_deliver_le signal w) (by omega)
    · exact Nat.le_trans (pending_enlist_le _ _ _ _) (by omega)
  | trySignal signal =>
    simp only [act]
    split
    · exact Nat.le_trans (pending_deliver_le signal w) (by omega)
    · exact Nat.le_add_right _ _
  | raise signal =>
    simp only [act]
    split
    · omega
    · simp only [pending, List.length_append, List.length_singleton]
      omega
  | _ => exact Nat.le_add_right _ _

/-- A script pays with the steps that it has taken, and a wait at which it stops is not its
first. -/
theorem pending_runSteps_le (party : Party) (actor : Actor) (script : Script) (w : World) :
    match w.runSteps party actor script with
    | (.inl (wait, left), w') =>
      w'.pending + 8 * left.length ≤ w.pending + 8 * script.length ∧ wait ≠ .fresh
    | (.inr _, w') => w'.pending ≤ w.pending + 8 * script.length := by
  -- By induction on the script, of which every step weighs eight and adds at most six.
  induction script generalizing w with
  | nil => exact Nat.le_refl _
  | cons step rest ih =>
    have cost := pending_act_le party actor step w
    unfold runSteps
    rcases acted : w.act party actor step with ⟨_ | wait | outcome, w₁⟩
    all_goals simp only [acted, List.length_cons] at cost ⊢
    · -- A step that proceeds leaves the rest to pay for itself.
      have later := ih w₁
      generalize w₁.runSteps party actor rest = reached at later ⊢
      rcases reached with ⟨⟨wait, left⟩ | outcome, w₂⟩
      · exact ⟨by have := later.1; omega, later.2⟩
      · dsimp only at later ⊢
        omega
    · -- The step that blocks is the last one that is taken.
      exact ⟨by omega, act_block_ne_fresh acted⟩
    · omega

@[simp] theorem effort_notice (origin : Origin) (n : Notice) (w : World) :
    (w.notice origin n).effort = w.effort := rfl

/-- Where the tasks stay as they are, effort moves with what is pending. -/
theorem effort_le_of_pending_le {w w' : World} (tasks : w'.tasks = w.tasks)
    (pending : w'.pending ≤ w.pending) :
    w'.effort ≤ w.effort := by
  simp only [effort, tasks]
  omega

/-- A change of a task costs what the task gains by it. -/
theorem effort_changeTask {id : TaskId} {task : Task} {w : World} (change : Task → Task)
    (found : w.task? id = some task) :
    (w.changeTask id change).effort + task.effort = w.effort + (change task).effort := by
  -- The effort of the tasks is a sum, of which only the one entry changes.
  have sums := sum_map_modify Task.effort change found
  simp only [effort, pending_changeTask]
  simp only [changeTask]
  omega

/-- A task that has ended sets nothing more going. -/
theorem effort_finish {id : TaskId} {task : Task} {w : World} (ending : Ending)
    (found : w.task? id = some task) :
    (w.finish id ending).effort + task.effort = w.effort := by
  -- A task that has ended weighs nothing, whatever it was about to do.
  have changed := effort_changeTask (fun t => { t with ending := some ending }) found
  have nothing : ({ task with ending := some ending } : Task).effort = 0 := by simp [Task.effort]
  rw [nothing] at changed
  exact changed

/-- A new wait, other than the first, weighs nothing by itself. -/
theorem effort_changeWait_le (id : TaskId) (wait : Wait) (later : wait ≠ .fresh) (w : World) :
    (w.changeTask id fun t => { t with wait }).effort ≤ w.effort := by
  -- Only the first wait weighs anything, so that every other one weighs at most as much.
  cases found : w.task? id with
  | none =>
    have same : w.changeTask id (fun t => { t with wait }) = w := by
      simp [changeTask, List.modify_eq_self, List.getElem?_eq_none_iff.mp found]
    exact Nat.le_of_eq (congrArg effort same)
  | some task =>
    have changed := effort_changeTask (fun t => { t with wait }) found
    have lighter : ({ task with wait } : Task).effort ≤ task.effort := by
      simp only [Task.effort, later, if_false]
      split <;> omega
    omega

/-- A task that has begun to wait for the first time no longer owes its first turn. -/
theorem effort_changeWait_fresh {id : TaskId} {task : Task} (wait : Wait) (later : wait ≠ .fresh)
    {w : World} (found : w.task? id = some task) (live : task.ending = none)
    (fresh : task.wait = .fresh) :
    (w.changeTask id fun t => { t with wait }).effort + 4 = w.effort := by
  have changed := effort_changeTask (fun t => { t with wait }) found
  simp only [Task.effort, live, fresh, later, Option.isSome_none, if_true, if_false,
    Bool.false_eq_true] at changed
  omega

/-- A script that ends takes its task with it, and with the task all that was still before it. -/
theorem effort_endScript_le {id : TaskId} {task : Task} {outcome : Outcome} {w w₂ : World}
    (found : w.task? id = some task) (live : task.ending = none) (same : w₂.tasks = w.tasks)
    (cost : w₂.pending ≤ w.pending + 8 * task.steps.length) :
    (w₂.endScript id task outcome).effort ≤ w.effort := by
  have weight : 8 * task.steps.length ≤ task.effort := by
    simp only [Task.effort, live, Option.isSome_none, Bool.false_eq_true, if_false]
    omega
  -- However the script ends, the task is finished in a world that has nothing more pending.
  have finished : ∀ (w₃ : World) (ending : Ending), w₃.tasks = w₂.tasks → w₃.pending ≤ w₂.pending →
      (w₃.finish id ending).effort ≤ w.effort := by
    intro w₃ ending tasks pending
    have found₃ : w₃.task? id = some task := by simpa [task?, tasks, same] using found
    have ended := effort_finish ending found₃
    simp only [effort, tasks, same] at ended ⊢
    omega
  -- A start that returns an error cancels its run before it ends, which the waiters of that run
  -- have paid for.
  have refused : ∀ (service : Placed) (error : String),
      (endStart.fail id task.actor.run service w₂ error).effort ≤ w.effort := by
    intro service error
    refine finished _ _ (by simp) (Nat.le_trans (pending_cancel_le _ _ _ _) (by simp))
  unfold endScript
  split
  · rename_i service _
    cases outcome with
    | done =>
      simp only [endStart]
      split
      · exact finished _ _ rfl (Nat.le_refl _)
      · exact finished _ _ rfl (Nat.le_refl _)
    | panicked payload => exact finished _ _ rfl (Nat.le_refl _)
    | failed error => exact refused service error
    | failedWith error => exact refused service error.text
  · exact finished _ _ rfl (Nat.le_refl _)
  · exact finished _ _ rfl (Nat.le_refl _)

/-- A task whose script goes on has paid with the steps that it has taken. -/
theorem effort_pollScript_le {id : TaskId} {task : Task} {w : World}
    (found : w.task? id = some task) (live : task.ending = none) :
    (w.pollScript id task).effort ≤ w.effort := by
  unfold pollScript
  split
  · rename_i ripe
    have opening := pending_resume_le ripe
    have tasks := tasks_runSteps (.task id) task.actor task.steps (w.resume task)
    have paid := pending_runSteps_le (.task id) task.actor task.steps (w.resume task)
    rcases ran :
      (w.resume task).runSteps (.task id) task.actor task.steps with ⟨⟨wait, left⟩ | outcome, w₂⟩
    all_goals
      have same : w₂.tasks = w.tasks := by simpa [ran] using tasks
      rw [ran] at paid
      dsimp only at paid ⊢
    · -- The script stops to wait: what is left of it is all that its task still weighs.
      obtain ⟨cost, later⟩ := paid
      have found₂ : w₂.task? id = some task := by simpa [task?, same] using found
      have changed := effort_changeTask (fun t => { t with wait, steps := left }) found₂
      simp only [Task.effort, live, later, Option.isSome_none, if_false,
        Bool.false_eq_true] at changed
      have before : w₂.effort = w₂.pending + (w.tasks.map Task.effort).foldr (· + ·) 0 := by
        simp only [effort, same]
      simp only [effort] at before changed ⊢
      omega
    · -- The script ends, and its task with it.
      exact effort_endScript_le found live same (by omega)
  · exact Nat.le_refl _

/-- A watcher weighs no more after its turn. -/
theorem effort_pollWatcher_le {id : TaskId} {task : Task} {w : World}
    (found : w.task? id = some task) (live : task.ending = none) :
    (w.pollWatcher id task).effort ≤ w.effort := by
  unfold pollWatcher
  split
  · -- The run is cancelled, so that the watcher ends.
    have ended :=
      effort_finish (w := w.notice .task (.contextDone ((w.cause? task.actor.run).getD .requested)))
      (.failed (.cancelled ((w.cause? task.actor.run).getD .requested))) found
    simp only [effort_notice] at ended
    dsimp only
    omega
  · split
    · -- The one place in the list of waiters is paid by the first wait.
      rename_i fresh
      have found₁ : (w.enlist (.task id) task.actor .cancellation).task? id = some task := by
        simpa [task?] using found
      have waiting := effort_changeWait_fresh .cancellation (by simp) found₁ live fresh
      have entered := pending_enlist_le (.task id) task.actor .cancellation w
      simp only [effort, tasks_enlist] at waiting ⊢
      omega
    · exact Nat.le_refl _

/-- Asking the policy costs nothing. -/
theorem effort_escalate (policy : Escalation) (signal : Signal) (w : World) :
    (w.escalate policy signal).effort = w.effort := by
  cases policy <;> rfl

/-- A listener that takes a signal makes room for a sender that has paid for it. -/
theorem effort_listen_le (id : TaskId) (run : RunId) (policy : Escalation) (heard : Bool)
    (w : World) :
    (w.listen id run policy heard).effort ≤ w.effort := by
  -- To take a signal, to vacate its slot and to cancel the run are each free of charge.
  unfold listen
  split
  · refine Nat.le_trans (effort_changeWait_le id _ (by simp) _) ?_
    have vacated : (w.vacate.emit (.handled id ‹Signal›)).effort ≤ w.effort :=
      effort_le_of_pending_le (by simp) (by simpa using pending_vacate_le w)
    refine Nat.le_trans ?_ vacated
    split
    · exact Nat.le_of_eq (effort_escalate _ _ _)
    · exact effort_le_of_pending_le (by simp) (Nat.le_trans (pending_cancel_le _ _ _ _) (by simp))
  · exact effort_changeWait_le id _ (by simp) w

/-- Nor does a listener weigh more after its turn. -/
theorem effort_pollListener_le {id : TaskId} {task : Task} {w : World} (policy : Escalation)
    (found : w.task? id = some task) (live : task.ending = none) :
    (w.pollListener id task policy).effort ≤ w.effort := by
  -- Every way in which the listener comes to listen costs the same, so that only its first wait is
  -- left to pay for.
  unfold pollListener
  split
  · exact effort_listen_le _ _ _ _ _
  · split
    · exact effort_listen_le _ _ _ _ _
    · split
      · exact effort_listen_le _ _ _ _ _
      · split
        · -- The one place in the line for the receiving end is paid by the first wait.
          rename_i fresh
          have found₁ :
            (w.changeChannel fun c => { c with listeners := c.listeners ++ [id] }).task? id =
              some task :=
            found
          have waiting := effort_changeWait_fresh .receiver (by simp) found₁ live fresh
          have entered :
            (w.changeChannel fun c => { c with listeners := c.listeners ++ [id] }).pending
              = w.pending + 3 := by
            simp only [pending, changeChannel, Channel.effort, List.length_append,
              List.length_singleton]
            omega
          simp only [effort, tasks_changeChannel] at waiting ⊢
          omega
        · exact Nat.le_refl _

/-- Every signal of the system that has arrived pays for its way into the channel. -/
theorem effort_forward_le (id : TaskId) (actor : Actor) (signals : List Signal) (w : World) :
    (w.forward id actor signals).effort + 4 * w.arrived.length ≤ w.effort + 4 * signals.length := by
  -- Signals that have arrived leave the list one by one, and the weight of each covers its way into
  -- the channel.
  induction signals generalizing w with
  | nil =>
    have settled := effort_changeWait_le id .system (by simp) { w with arrived := [] }
    simp only [forward, effort, pending, List.length_nil] at settled ⊢
    omega
  | cons signal rest ih =>
    unfold forward
    split
    · -- There is room in the channel, so that the signal is put there and the next one follows.
      have later := ih (w.deliver signal)
      have arrived : (w.deliver signal).arrived = w.arrived := by
        dsimp only [deliver]
        split
        · rfl
        · unfold wake
          split <;> rfl
      have cost := pending_deliver_le signal w
      simp only [arrived, effort, tasks_deliver, List.length_cons] at later ⊢
      omega
    · -- There is no room, so that the forwarder waits in the line of the senders.
      have settled := effort_changeWait_le id (.room signal) (by simp)
        (({ w with arrived := rest }).enlist (.task id) actor (.room signal))
      have entered := pending_enlist_le (.task id) actor (.room signal) { w with arrived := rest }
      simp only [effort, tasks_enlist, List.length_cons] at settled ⊢
      simp only [pending] at entered settled ⊢
      omega

/-- Nor does the forwarder. -/
theorem effort_pollForwarder_le (id : TaskId) (task : Task) (w : World) :
    (w.pollForwarder id task).effort ≤ w.effort := by
  unfold pollForwarder
  split
  · split
    · -- The forwarder had to wait for room, which it has been promised now.
      rename_i signal _ promised
      have cost := pending_deliver_lt signal promised
      have delivered : (w.deliver signal).effort ≤ w.effort :=
        effort_le_of_pending_le (by simp) (Nat.le_of_lt cost)
      have forwarded :=
        effort_forward_le id task.actor (w.deliver signal).arrived (w.deliver signal)
      dsimp only
      omega
    · exact Nat.le_refl _
  · have forwarded := effort_forward_le id task.actor w.arrived w
    omega

/-- Leaving the line adds nothing. -/
theorem pending_leaveReceiver_le (id : TaskId) (w : World) :
    (w.leaveReceiver id).pending ≤ w.pending := by
  unfold leaveReceiver
  split
  · exact pending_passReceiver_le w
  · have := List.length_filter_le (· != id) w.channel.listeners
    simp only [pending, changeChannel, Channel.effort]
    omega

/-- A word costs nothing. -/
theorem pending_noteAbandoned (task : Task) (w : World) :
    (w.noteAbandoned task).pending = w.pending := by
  unfold noteAbandoned
  split
  · split <;> rfl
  · rfl

/-- A task that is dropped leaves nothing behind but the receiving end, which the next listener has
waited for. -/
theorem effort_dropTask_le {id : TaskId} {task : Task} {w : World}
    (found : w.task? id = some task) :
    (w.dropTask id task).effort ≤ w.effort := by
  -- What the task held is let go first, none of which adds anything, and then the task ends.
  set w₁ :=
    ((w.forsake (.task id) task.actor task.wait).leaveReceiver id).noteAbandoned task with left
  have same : w₁.tasks = w.tasks := by simp [left]
  have cost : w₁.pending ≤ w.pending := by
    rw [left, pending_noteAbandoned]
    exact Nat.le_trans (pending_leaveReceiver_le id _) (pending_forsake_le _ _ _ w)
  have ended :=
    effort_finish .dropped (show w₁.task? id = some task by simpa [task?, same] using found)
  have dropped : w.dropTask id task = w₁.finish id .dropped := rfl
  simp only [effort, same] at ended
  simp only [dropped, effort]
  omega

/-- No turn adds to what the tasks can still do. -/
theorem effort_poll_le (id : TaskId) (w : World) : (w.poll id).effort ≤ w.effort := by
  -- A task that has ended or that is to end has no duty any more; otherwise its duty says what its
  -- turn does.
  unfold poll
  split
  · exact Nat.le_refl _
  · rename_i task found
    split
    · exact Nat.le_refl _
    · rename_i open_
      have live : task.ending = none := by
        cases ended : task.ending <;> simp_all
      split
      · exact effort_dropTask_le found
      · split
        · exact effort_pollScript_le found live
        · exact effort_pollScript_le found live
        · exact effort_pollScript_le found live
        · exact effort_pollWatcher_le found live
        · exact effort_pollListener_le _ found live
        · exact effort_pollForwarder_le id task w

/-- A turn uses up itself. -/
theorem effort_pollNext_lt {w : World} (some_ : w.ready ≠ []) : w.pollNext.effort < w.effort := by
  -- The turn is taken from the list of those that are due, and what happens in it adds nothing.
  unfold pollNext
  split
  · contradiction
  · rename_i id rest first
    refine Nat.lt_of_le_of_lt (effort_poll_le id _) ?_
    simp only [effort, pending, first, List.length_cons]
    omega

/-- The next deadline is the alarm or the deadline of a timer, and none of these comes earlier. -/
theorem nextDeadline_spec (alarm : Nat) (w : World) :
    (w.nextDeadline alarm = alarm ∨ ∃ timer ∈ w.timers, w.nextDeadline alarm = timer.deadline) ∧
      w.nextDeadline alarm ≤ alarm ∧ ∀ timer ∈ w.timers, w.nextDeadline alarm ≤ timer.deadline := by
  unfold nextDeadline
  -- The fold carries the earliest time so far, which starts as the alarm.
  induction w.timers generalizing alarm with
  | nil => simp
  | cons timer timers ih =>
    obtain ⟨source, first, others⟩ := ih (min alarm timer.deadline)
    simp only [List.foldl_cons, List.mem_cons]
    refine ⟨?_, by omega, ?_⟩
    · rcases source with same | ⟨other, member, same⟩
      · rcases Nat.le_total alarm timer.deadline with early | early
        · exact .inl (by omega)
        · exact .inr ⟨timer, .inl rfl, by omega⟩
      · exact .inr ⟨other, .inr member, same⟩
    · rintro other (rfl | member)
      · omega
      · exact others other member

/-- Signals of the system weigh more before they are let through than after. -/
theorem effort_admitRaised (w : World) :
    w.admitRaised.effort ≤ w.effort ∧
      (w.ready = [] → w.admitRaised.ready ≠ [] → w.admitRaised.effort < w.effort) := by
  unfold admitRaised
  split
  · -- The forwarder is woken by the first signal that comes in, and six pay for its turn and for
    -- the four that remain.
    rename_i id signal rest _ raised
    have cost := pending_wake_le id { w with arrived := w.arrived ++ w.raised, raised := [] }
    have admitted :
      (({ w with arrived := w.arrived ++ w.raised, raised := [] } : World).wake id).effort <
        w.effort := by
      simp only [effort, tasks_wake] at cost ⊢
      simp only [pending, raised, List.length_append, List.length_cons, List.length_nil] at cost ⊢
      omega
    exact ⟨Nat.le_of_lt admitted, fun _ _ => admitted⟩
  · refine ⟨?_, fun idle busy => absurd idle busy⟩
    simp only [effort, pending, List.length_nil]
    omega

/-- Those who stepped back weigh more than their turns. -/
theorem effort_wakeYielded_lt {w : World} (waiting : w.mainYielded = true ∨ w.yielded ≠ []) :
    w.wakeYielded.effort < w.effort := by
  -- Each of them weighed three and gets a turn, which weighs one; the supervising flow gets no turn
  -- of a task.
  have cost := pending_wakeAll_le w.yielded { w with yielded := [], mainYielded := false }
  have some_ : 0 < w.yielded.length + w.mainYielded.toNat := by
    rcases waiting with main | tasks
    · simp [main]
    · exact Nat.lt_of_lt_of_le (List.length_pos_iff.mpr tasks) (Nat.le_add_right _ _)
  simp only [wakeYielded, effort, tasks_wakeAll]
  simp only [pending, List.length_nil, Bool.toNat_false] at cost ⊢
  omega

/-- When the clock moves, a timer is used up or the alarm is reached. -/
theorem effort_advance (alarm : Nat) (w : World) :
    (w.advance alarm).effort < w.effort ∨
      alarm ≤ (w.advance alarm).now ∧ (w.advance alarm).effort ≤ w.effort := by
  set now := max w.now (w.nextDeadline alarm) with clock
  set due := w.timers.filter fun timer => decide (timer.deadline ≤ now) with dueTimers
  set later := w.timers.filter fun timer => decide (now < timer.deadline) with laterTimers
  have moved :
    w.advance alarm = ({ w with now := now, timers := later }).wakeAll (due.map Timer.task) := rfl
  -- Each timer is either due or kept.
  have split : due.length + later.length = w.timers.length := by
    have sum :=
      (List.filter_append_perm (fun timer : Timer => decide (timer.deadline ≤ now))
        w.timers).length_eq
    simpa only [List.length_append, ← dueTimers, ← decide_not, Nat.not_le, ← laterTimers] using sum
  have cost := pending_wakeAll_le (due.map Timer.task) { w with now := now, timers := later }
  have effort_le : (w.advance alarm).effort + 2 * due.length ≤ w.effort := by
    simp only [moved, effort, tasks_wakeAll]
    simp only [pending, List.length_map] at cost ⊢
    omega
  rcases due.length.eq_zero_or_pos with none_ | some_
  · refine .inr ⟨?_, by omega⟩
    have time : (w.advance alarm).now = now := by
      rw [moved]
      exact now_wakeAll _ _
    rw [time]
    -- No timer is due, so that the clock has moved to the alarm.
    rcases (nextDeadline_spec alarm w).1 with same | ⟨timer, member, same⟩
    · omega
    · have isDue : timer ∈ due := by
        simp only [dueTimers, List.mem_filter, decide_eq_true_eq]
        exact ⟨member, by omega⟩
      simp [List.length_eq_zero_iff.mp none_] at isDue
  · exact .inl (by omega)

/-- Whether the supervising flow has its turn. -/
def Calls (goal : World → Bool) (alarm : Nat) (w : World) : Prop :=
  w.exited.isSome ∨ goal w ∨ alarm ≤ w.now

/-- A rest does not add to the effort. -/
theorem effort_rest_le (goal : World → Bool) (alarm : Nat) (dry : Bool) (w : World) :
    (w.rest goal alarm dry).effort ≤ w.effort := by
  -- Signals come in at no cost, and whatever else a rest does uses up effort or moves the clock.
  have admitted := (effort_admitRaised w).1
  unfold rest
  dsimp only
  split
  · rename_i waiting
    exact Nat.le_trans (Nat.le_of_lt (effort_wakeYielded_lt waiting)) admitted
  · split
    · rcases effort_advance alarm w.admitRaised with less | ⟨_, same⟩ <;> omega
    · exact admitted

/-- When nobody can run, the time between two rounds uses up effort or calls the supervising
flow. -/
theorem effort_rest_lt (goal : World → Bool) (alarm : Nat) {w : World} (idle : w.ready = []) :
    (w.rest goal alarm true).effort < w.effort ∨ Calls goal alarm (w.rest goal alarm true) := by
  -- If nobody has stepped back and no signal comes in, either the goal is met already or the clock
  -- moves.
  have admitted := effort_admitRaised w
  unfold rest
  dsimp only
  split
  · rename_i waiting
    exact .inl (Nat.lt_of_lt_of_le (effort_wakeYielded_lt waiting) admitted.1)
  · split
    · rcases effort_advance alarm w.admitRaised with less | ⟨reached, _⟩
      · exact .inl (by omega)
      · exact .inr (.inr (.inr reached))
    · rename_i busy
      by_cases met : goal w.admitRaised = true
      · exact .inr (.inr (.inl met))
      · exact .inl (admitted.2 idle fun none_ => busy ⟨rfl, none_, met⟩)

/-- Where the flow is called already nothing is settled. -/
theorem settle_of_calls {goal : World → Bool} {alarm fuel : Nat} {w : World}
    (calls : Calls goal alarm w) :
    w.settle goal alarm fuel 0 = w := by
  cases fuel with
  | zero => rfl
  | succ fuel =>
    unfold settle
    exact if_pos ⟨rfl, calls⟩

/-- With twice the effort as fuel the tasks go on until the supervising flow is called. -/
theorem settle_calls {goal : World → Bool} {alarm fuel turns : Nat} {w : World}
    (enough : 2 * w.effort + (if turns = 0 then 1 else 2) ≤ fuel) :
    Calls goal alarm (w.settle goal alarm fuel turns) := by
  -- A turn uses up effort; a rest between two turns may not, and costs the fuel that the turn has
  -- left.
  induction fuel generalizing turns w with
  | zero => split at enough <;> omega
  | succ fuel ih =>
    unfold settle
    split
    · rename_i called
      exact called.2
    · split
      · rename_i runnable
        -- Somebody can run, and a turn uses up what the fuel needs.
        have less := effort_pollNext_lt runnable.2
        refine ih ?_
        split at enough <;> simp <;> omega
      · rename_i round
        by_cases first : turns = 0
        · -- No turn was taken since the last rest, so that nobody can run and this rest has to use
          -- up effort itself.
          subst first
          have idle : w.ready = [] := by
            by_contra busy
            exact round ⟨by decide, busy⟩
          rw [show decide (0 < turnsPerRound) = true from rfl]
          rcases effort_rest_lt goal alarm idle with less | calls
          · refine ih ?_
            simp only [if_true] at enough ⊢
            omega
          · rw [settle_of_calls calls]
            exact calls
        · -- Turns were taken since the last rest, and they have paid for this one.
          have less := effort_rest_le goal alarm (decide (turns < turnsPerRound)) w
          refine ih ?_
          simp only [first, if_true, if_false] at enough ⊢
          omega

end World

end Warden.Supervision
