import Warden.Supervision.Flow

/-! What the operations on a world leave alone: only a change of a task changes the tasks. -/

namespace Warden.Supervision.World

@[simp] theorem tasks_emit (event : Event) (w : World) : (w.emit event).tasks = w.tasks := rfl

@[simp] theorem tasks_notice (origin : Origin) (n : Notice) (w : World) :
    (w.notice origin n).tasks = w.tasks := rfl

@[simp] theorem tasks_changeRun (run : RunId) (change : Run → Run) (w : World) :
    (w.changeRun run change).tasks = w.tasks := rfl

@[simp] theorem tasks_changeChannel (change : Channel → Channel) (w : World) :
    (w.changeChannel change).tasks = w.tasks := rfl

@[simp] theorem tasks_wake (id : TaskId) (w : World) : (w.wake id).tasks = w.tasks := by
  unfold wake
  split <;> rfl

@[simp] theorem tasks_wakeAll (ids : List TaskId) (w : World) :
    (w.wakeAll ids).tasks = w.tasks := by
  -- The tasks are woken one after another, each in the world that the one before it left.
  induction ids generalizing w with
  | nil => rfl
  | cons id ids ih => exact (ih (w.wake id)).trans (tasks_wake id w)

@[simp] theorem now_wake (id : TaskId) (w : World) : (w.wake id).now = w.now := by
  unfold wake
  split <;> rfl

@[simp] theorem now_wakeAll (ids : List TaskId) (w : World) : (w.wakeAll ids).now = w.now := by
  -- As for the tasks, one wake after another.
  induction ids generalizing w with
  | nil => rfl
  | cons id ids ih => exact (ih (w.wake id)).trans (now_wake id w)

@[simp] theorem tasks_wakeParty (party : Party) (w : World) :
    (w.wakeParty party).tasks = w.tasks := by
  cases party with
  | main => rfl
  | task id => exact tasks_wake id w

@[simp] theorem tasks_cancel (caller : Caller) (run : RunId) (cause : Cause) (w : World) :
    (w.cancel caller run cause).2.tasks = w.tasks := by
  -- First or not, a call changes the run and wakes those who wait for it.
  unfold cancel
  split
  · rfl
  · split <;> simp [trip]

@[simp] theorem exited_wakeAll (ids : List TaskId) (w : World) :
    (w.wakeAll ids).exited = w.exited := by
  induction ids generalizing w with
  | nil => rfl
  | cons id ids ih =>
    refine (ih (w.wake id)).trans ?_
    -- A wake enters a turn or does nothing.
    unfold wake
    split <;> rfl

@[simp] theorem exited_cancel (caller : Caller) (run : RunId) (cause : Cause) (w : World) :
    (w.cancel caller run cause).2.exited = w.exited := by
  unfold cancel
  split
  · rfl
  · split <;> simp [trip, emit, notice, changeRun]

@[simp] theorem tasks_deliver (signal : Signal) (w : World) :
    (w.deliver signal).tasks = w.tasks := by
  -- Whoever holds the receiving end is woken, and waking changes no task.
  dsimp only [deliver]
  split <;> simp

@[simp] theorem tasks_vacate (w : World) : w.vacate.tasks = w.tasks := by
  unfold vacate
  split <;> simp

@[simp] theorem tasks_passReceiver (w : World) : w.passReceiver.tasks = w.tasks := by
  unfold passReceiver
  split <;> simp

@[simp] theorem tasks_enlist (party : Party) (actor : Actor) (wait : Wait) (w : World) :
    -- A wait is entered in a list of its own, never at the task.
    (w.enlist party actor wait).tasks = w.tasks := by
  unfold enlist
  split <;> simp

@[simp] theorem tasks_settleWait (actor : Actor) (wait : Wait) (w : World) :
    (w.settleWait actor wait).tasks = w.tasks := by
  unfold settleWait
  split <;> simp

@[simp] theorem tasks_forsake (party : Party) (actor : Actor) (wait : Wait) (w : World) :
    (w.forsake party actor wait).tasks = w.tasks := by
  unfold forsake
  split
  · rfl
  · rfl
  · rfl
  -- Leaving the channel may hand a promised place on, which wakes its next sender.
  · split <;> simp
  · rfl

@[simp] theorem tasks_act (party : Party) (actor : Actor) (step : Step) (w : World) :
    (w.act party actor step).2.tasks = w.tasks := by
  -- Whatever a step does, it does to the clock, to a run, to the channel or to a list of those who
  -- wait.
  cases step <;> simp only [act, block] <;> (try split) <;> simp

@[simp] theorem tasks_runSteps (party : Party) (actor : Actor) (script : Script) (w : World) :
    (w.runSteps party actor script).2.tasks = w.tasks := by
  -- Steps are taken one after another, and none of them changes a task.
  induction script generalizing w with
  | nil => rfl
  | cons step rest ih =>
    have taken := tasks_act party actor step w
    unfold runSteps
    split <;> simp_all

@[simp] theorem tasks_resume (task : Task) (w : World) : (w.resume task).tasks = w.tasks := by
  unfold resume
  split <;> simp

@[simp] theorem tasks_leaveReceiver (id : TaskId) (w : World) :
    (w.leaveReceiver id).tasks = w.tasks := by
  unfold leaveReceiver
  split <;> simp

@[simp] theorem tasks_noteAbandoned (task : Task) (w : World) :
    (w.noteAbandoned task).tasks = w.tasks := by
  unfold noteAbandoned
  split
  · split <;> rfl
  · rfl

end Warden.Supervision.World
