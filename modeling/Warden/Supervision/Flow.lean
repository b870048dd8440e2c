import Warden.Supervision.Task

/-!
The supervising flow: it runs by itself, and while it waits the tasks have their turns and time
passes.
-/

namespace Warden.Supervision

/-- How many turns the tasks have before the supervising flow is looked at again. -/
def turnsPerRound : Nat := 61

/-- What a task that has not ended can still set going: each step before it, and the wait that it
begins with. -/
def Task.effort (task : Task) : Nat :=
  if task.ending.isSome then 0
  else 8 * task.steps.length + (if task.wait = .fresh then 4 else 0)

/-- A promised place leads to one more signal, and with it to a turn of the listener. -/
def Slot.effort : Slot → Nat
  | .promised _ => 2
  | .free | .full _ => 0

/-- What the channel can still set going: everyone who waits at it, and a place that is promised. -/
def Channel.effort (channel : Channel) : Nat :=
  3 * (channel.senders.length + channel.listeners.length) + channel.slot.effort

namespace World

/-- Gives the first of the ready tasks its turn. -/
def pollNext (w : World) : World :=
  match w.ready with
  | [] => w
  | id :: rest => ({ w with ready := rest }).poll id

/-- Lets the signals of the system through to the task that forwards them. -/
def admitRaised (w : World) : World :=
  match w.forwarder, w.raised with
  | some id, _ :: _ => ({ w with arrived := w.arrived ++ w.raised, raised := [] }).wake id
  | _, _ => { w with raised := [] }

/-- Wakes all who have stepped back, the last one first. -/
def wakeYielded (w : World) : World :=
  ({ w with yielded := [], mainYielded := false }).wakeAll w.yielded

/-- The earliest deadline among the timers and the given time. -/
def nextDeadline (alarm : Nat) (w : World) : Nat :=
  w.timers.foldl (fun earliest timer => min earliest timer.deadline) alarm

/-- Moves the clock to the next deadline and wakes the tasks whose timers are due, in the order of
their timers. -/
def advance (alarm : Nat) (w : World) : World :=
  let now := max w.now (w.nextDeadline alarm)
  let due := (w.timers.filter fun timer => decide (timer.deadline ≤ now)).map Timer.task
  let later := w.timers.filter fun timer => decide (now < timer.deadline)
  ({ w with now := now, timers := later }).wakeAll due

/-- Between rounds signals come in and those who stepped back return; time passes only when nobody
can run. -/
def rest (goal : World → Bool) (alarm : Nat) (dry : Bool) (w : World) : World :=
  let w := w.admitRaised
  if w.mainYielded ∨ w.yielded ≠ [] then w.wakeYielded
  else if dry ∧ w.ready = [] ∧ ¬ goal w then w.advance alarm
  else w

/-- The turns that are due, and those to which everything that waits somewhere can still lead. -/
def pending (w : World) : Nat :=
  w.ready.length +
    3 * (w.timers.length + w.yielded.length + (w.runs.map (·.waiters.length)).foldr (· + ·) 0) +
    4 * w.arrived.length + 6 * w.raised.length + w.channel.effort + w.mainYielded.toNat

/-- A bound on the turns that the tasks can still have without the supervising flow: whatever can
wake a task later weighs more than the turn that follows. -/
def effort (w : World) : Nat :=
  w.pending + (w.tasks.map Task.effort).foldr (· + ·) 0

/-- Rounds of turns until the goal is met, the alarm is reached or the process is gone; `turns`
counts those of this round. -/
def settle (goal : World → Bool) (alarm : Nat) : Nat → Nat → World → World
  | 0, _, w => w
  | fuel + 1, turns, w =>
    -- The goal is looked at between rounds only; the turns of a round are not cut short by it.
    if turns = 0 ∧ (w.exited.isSome ∨ goal w ∨ alarm ≤ w.now) then w
    else if turns < turnsPerRound ∧ w.ready ≠ [] then settle goal alarm fuel (turns + 1) w.pollNext
    else settle goal alarm fuel 0 (w.rest goal alarm (turns < turnsPerRound))

end World

/-- Why the supervising flow does not go on. -/
inductive Halt
  /-- A panic unwinds the flow. -/
  | panicked (message : String)
  /-- The horizon came while it still waited. -/
  | stuck
  /-- The process exited under it. -/
  | exited (code : Nat)
deriving Repr, DecidableEq, Inhabited

/-- The supervising flow. -/
abbrev Flow := ExceptT Halt (StateM World)

namespace Flow

/-- Reads something off the state. -/
def look {α : Type} (view : World → α) : Flow α := do return view (← get)

/-- Changes the state. -/
def change (edit : World → World) : Flow Unit := modify edit

/-- Adds an event that happens now. -/
def emit (event : Event) : Flow Unit := change (·.emit event)

/-- Writes a notice of the supervising flow. -/
def notice (n : Notice) : Flow Unit := change (·.notice .main n)

/-- Runs an operation that answers something. -/
def answer {α : Type} (operation : World → α × World) : Flow α := modifyGet operation

/-- Waits until the goal is met or the deadline is reached, and tells whether the goal is met. -/
def pause (goal : World → Bool) (deadline : Option Nat) : Flow Bool := do
  let w ← get
  -- Every wait ends at the horizon, also one that was given no deadline.
  let alarm := match deadline with
    | none => w.horizon
    | some d => min d w.horizon
  -- `settle` needs at most that much fuel: each turn and each rest takes from the effort.
  let w := w.settle goal alarm (2 * w.effort + 2) 0
  set w
  match w.exited with
  | some code => throw (.exited code)
  | none => return goal w

/-- Waits until the goal is met; a flow that would wait beyond the horizon is stuck. -/
def await (goal : World → Bool) : Flow Unit := do
  unless ← pause goal none do throw .stuck

/-- Waits until a time. -/
def sleepUntil (time : Nat) : Flow Unit := do
  unless ← pause (time ≤ ·.now) (some time) do throw .stuck

/-- Waits for some time. -/
def sleep (millis : Nat) : Flow Unit := do
  sleepUntil ((← look (·.now)) + millis)

/-- Whether a deadline has been reached. -/
def isPast (deadline : Option Nat) (w : World) : Bool :=
  deadline.any (· ≤ w.now)

/-- The earlier of a deadline and the end of a wait. -/
def alarm (deadline : Option Nat) : Wait → Option Nat
  | .timer time => some (deadline.elim time (min time))
  | _ => deadline

/-- Plays a script as part of the supervising flow; nothing comes back if the deadline passes while
it waits. -/
def play (actor : Actor) (deadline : Option Nat) : Script → Flow (Option Outcome)
  | [] => return some .done
  | step :: rest => do
    match ← answer (·.act .main actor step) with
    | .proceed => play actor deadline rest
    | .finish outcome => return some outcome
    | .block wait =>
      -- A wait that a deadline cuts short is left before the script is given up.
      if ← pause (·.isOver .main actor wait) (alarm deadline wait) then
        change (·.settleWait actor wait)
        play actor deadline rest
      else
        change (·.forsake .main actor wait)
        -- Neither the wait nor the deadline came, so that it was the horizon.
        if ← look (isPast deadline) then return none else throw .stuck

/-- The longest time that a flow is given, in milliseconds. -/
def patience : Nat := 30 * 24 * 60 * 60 * 1000

/-- Runs a flow with the whole patience before it. -/
def bounded {α : Type} (flow : Flow α) : Flow α := do
  change fun w => { w with horizon := w.now + patience }
  flow

end Flow

end Warden.Supervision
