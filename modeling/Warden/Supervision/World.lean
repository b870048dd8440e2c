import Warden.Supervision.Event

/-!
The state of a process under a clock of its own: tasks, timers, runs, groups and the signal channel.
-/

namespace Warden.Supervision

/-- The place of a group in the list of all groups. -/
abbrev GroupId := Nat

/-- Where the notices of a party come from. -/
def Party.origin : Party → Origin
  | .main => .main
  | .task _ => .task

/-- As whom a party cancels when its script says so. -/
def Party.caller : Party → Caller
  | .main => .owner
  | .task _ => .script

/-- What a task waits for. -/
inductive Wait
  | fresh
  | timer (deadline : Nat)
  | yielded
  | cancellation
  | room (signal : Signal)
  | receiver
  | delivery (heard : Bool)
  | system
  | never
deriving Repr, DecidableEq, Inhabited

/-- What a task is there for. -/
inductive Duty
  /-- The start of a service; its group only tracks it. -/
  | start (service : Placed)
  /-- A script beside the services that nobody waits for. -/
  | action
  /-- A script that its group waits for. -/
  | member
  /-- Turns the cancellation of a run into the error with which its group ends. -/
  | watcher
  /-- Takes signals for its run, and escalates all but the first. -/
  | listener (policy : Escalation)
  /-- Passes the signals of the system on to the channel. -/
  | forwarder
deriving Repr, DecidableEq, Inhabited

/-- How a task ended; `refused` is a start that returned an error. -/
inductive Ending
  | done
  | failed (error : RunError)
  | refused (error : String)
  | panicked (payload : Payload)
  | dropped
deriving Repr, DecidableEq, Inhabited

/-- A task with the steps that are still before it. -/
structure Task where
  duty : Duty
  actor : Actor
  steps : Script := []
  wait : Wait := .fresh
  ending : Option Ending := none
  aborted : Bool := false
deriving Repr, DecidableEq, Inhabited

/-- A run: its cancellation, and the tasks that wait for it in the order in which they began. -/
structure Run where
  state : CancelState := {}
  waiters : List TaskId := []
deriving Repr, DecidableEq, Inhabited

/-- The one place in the signal channel; a place that was freed is promised to the next sender. -/
inductive Slot
  | free
  | promised (party : Party)
  | full (signal : Signal)
deriving Repr, DecidableEq, Inhabited

/-- The signal channel: its place, the senders that wait for it, and the listeners that take turns
at it. -/
structure Channel where
  slot : Slot := .free
  senders : List Party := []
  holder : Option TaskId := none
  listeners : List TaskId := []
deriving Repr, DecidableEq, Inhabited

/-- The tasks of one run: those that are waited for, and the starts that are only tracked. -/
structure Group where
  run : RunId
  awaited : List TaskId := []
  detached : List (String × TaskId) := []
deriving Repr, DecidableEq, Inhabited

/-- A timer that wakes a task. -/
structure Timer where
  deadline : Nat
  task : TaskId
deriving Repr, DecidableEq, Inhabited

/-- The whole state of the process. -/
structure World where
  now : Nat := 0
  /-- The time at which a flow that still waits is given up. -/
  horizon : Nat := 0
  tasks : List Task := []
  ready : List TaskId := []
  timers : List Timer := []
  /-- Those who stepped back, the last one first. -/
  yielded : List TaskId := []
  mainYielded : Bool := false
  /-- The tasks that ended, in that order; a join finds the first of its group here. -/
  finished : List TaskId := []
  runs : List Run := []
  groups : List Group := []
  /-- The services to be stopped, in the order in which they were started. -/
  started : List Placed := []
  /-- The start that the launcher races; any other start that succeeds is late. -/
  awaiting : Option TaskId := none
  channel : Channel := {}
  forwarder : Option TaskId := none
  /-- The signals of the system, each at most once, until the next round lets them in. -/
  raised : List Signal := []
  arrived : List Signal := []
  exited : Option Nat := none
  trace : Trace := []
deriving Repr, DecidableEq, Inhabited

namespace World

/-- Adds an event that happens now. -/
def emit (event : Event) (w : World) : World :=
  { w with trace := w.trace ++ [⟨w.now, event⟩] }

/-- Adds events that happen at the same time. -/
def emitAll (events : List Event) (w : World) : World :=
  { w with trace := w.trace ++ events.map fun event => ⟨w.now, event⟩ }

/-- Writes a notice. -/
def notice (origin : Origin) (n : Notice) (w : World) : World :=
  w.emit (.notice origin n)

/-- The task at a place of the list. -/
def task? (id : TaskId) (w : World) : Option Task := w.tasks[id]?

/-- Changes one task. -/
def changeTask (id : TaskId) (change : Task → Task) (w : World) : World :=
  { w with tasks := w.tasks.modify id change }

/-- Changes one run. -/
def changeRun (run : RunId) (change : Run → Run) (w : World) : World :=
  { w with runs := w.runs.modify run change }

/-- Changes one group. -/
def changeGroup (group : GroupId) (change : Group → Group) (w : World) : World :=
  { w with groups := w.groups.modify group change }

/-- Changes the channel. -/
def changeChannel (change : Channel → Channel) (w : World) : World :=
  { w with channel := change w.channel }

/-- Whether there is such a task and it has ended. -/
def isEnded (id : TaskId) (w : World) : Bool :=
  (w.task? id).any (·.ending.isSome)

/-- Whether there is such a task and it has not ended. -/
def isLive (id : TaskId) (w : World) : Bool :=
  (w.task? id).any (·.ending.isNone)

/-- Puts a live task behind those that are ready, unless it is among them. -/
def wake (id : TaskId) (w : World) : World :=
  if id ∈ w.ready ∨ ¬ w.isLive id then w else { w with ready := w.ready ++ [id] }

/-- Wakes tasks in order. -/
def wakeAll (ids : List TaskId) (w : World) : World :=
  ids.foldl (fun w id => w.wake id) w

/-- The supervising flow looks at its own state whenever it runs, so that only tasks are woken. -/
def wakeParty : Party → World → World
  | .main, w => w
  | .task id, w => w.wake id

/-- Adds a task behind those that are ready. -/
def spawn (task : Task) (w : World) : TaskId × World :=
  (w.tasks.length, { w with tasks := w.tasks ++ [task], ready := w.ready ++ [w.tasks.length] })

/-- Adds a run that is not cancelled. -/
def openRun (w : World) : RunId × World :=
  (w.runs.length, { w with runs := w.runs ++ [{}] })

/-- Adds an empty group of a run. -/
def openGroup (run : RunId) (w : World) : GroupId × World :=
  (w.groups.length, { w with groups := w.groups ++ [{ run }] })

/-- The reason with which a run was cancelled, if it was. -/
def cause? (run : RunId) (w : World) : Option Cause :=
  w.runs[run]?.bind (·.state.cause)

/-- Whether the switch of a run is tripped. -/
def isCancelled (run : RunId) (w : World) : Bool :=
  w.runs[run]?.any (·.state.tripped)

/-- Notes a call that cancels a run, trips its switch and wakes all who wait for it. -/
def trip (caller : Caller) (run : RunId) (cause : Cause) (r : Run) (w : World) : World :=
  ((w.emit (.cancelCall caller run cause)).changeRun run fun _ =>
    ⟨(r.state.cancel cause).2, []⟩).wakeAll r.waiters

/-- Cancels a run: the first call records its cause and is counted. -/
def cancel (caller : Caller) (run : RunId) (cause : Cause) (w : World) : Bool × World :=
  match w.runs[run]? with
  | none => (false, w)
  | some r =>
    if (r.state.cancel cause).1 then
      (true, (w.trip caller run cause r).emit (.count (.cancellation run cause)))
    else (false, (w.trip caller run cause r).notice caller.origin (.cancelledAlready cause))

/-- Puts a signal into the place of the channel and wakes the listener that waits for it. -/
def deliver (signal : Signal) (w : World) : World :=
  -- The place is filled before the listener is woken, so that it never looks at an empty one.
  let w := (w.changeChannel fun c => { c with slot := .full signal }).emit (.accepted signal)
  match w.channel.holder with
  | none => w
  | some id => w.wake id

/-- Frees the place of the channel, or promises it to the sender that has waited longest. -/
def vacate (w : World) : World :=
  match w.channel.senders with
  | [] => w.changeChannel fun c => { c with slot := .free }
  | party :: rest =>
    (w.changeChannel fun c => { c with slot := .promised party, senders := rest }).wakeParty party

/-- Passes the receiving end of the channel to the listener that has waited longest. -/
def passReceiver (w : World) : World :=
  match w.channel.listeners with
  | [] => w.changeChannel fun c => { c with holder := none }
  | id :: rest =>
    (w.changeChannel fun c => { c with holder := some id, listeners := rest }).wake id

/-- Enters a party that begins to wait where it will be found. -/
def enlist (party : Party) (actor : Actor) (wait : Wait) (w : World) : World :=
  match wait, party with
  | .timer deadline, .task id => { w with timers := w.timers ++ [⟨deadline, id⟩] }
  | .yielded, .task id => { w with yielded := id :: w.yielded }
  | .yielded, .main => { w with mainYielded := true }
  -- The run wakes those who wait for it in the order in which they began to.
  | .cancellation, .task id =>
    w.changeRun actor.run fun r => { r with waiters := r.waiters ++ [id] }
  | .room _, party => w.changeChannel fun c => { c with senders := c.senders ++ [party] }
  | _, _ => w

/-- Whether what a party waits for has come. -/
def isOver (party : Party) (actor : Actor) (wait : Wait) (w : World) : Bool :=
  match wait with
  | .fresh => true
  | .timer deadline => deadline ≤ w.now
  | .yielded => party != .main || !w.mainYielded
  | .cancellation => w.isCancelled actor.run
  | .room _ => w.channel.slot == .promised party
  | .receiver | .delivery _ | .system | .never => false

/-- What a script does first when its wait is over. -/
def settleWait (actor : Actor) (wait : Wait) (w : World) : World :=
  match wait with
  | .cancellation => w.emit (.deed (.sawCancel actor.who))
  | .room signal => (w.deliver signal).emit (.deed (.sent actor.who))
  | _ => w

/-- Takes a party that gives up its wait off the list where it stands. -/
def forsake (party : Party) (actor : Actor) (wait : Wait) (w : World) : World :=
  match wait, party with
  -- A timer that is left standing would only wake a task that has moved on.
  | .timer _, .task id => { w with timers := w.timers.filter (·.task != id) }
  | .yielded, .main => { w with mainYielded := false }
  | .cancellation, .task id =>
    w.changeRun actor.run fun r => { r with waiters := r.waiters.filter (· != id) }
  | .room _, party =>
    -- A promise that is not kept passes to the next sender; the place is not lost with the one who
    -- left.
    if w.channel.slot = .promised party then w.vacate
    else w.changeChannel fun c => { c with senders := c.senders.filter (· != party) }
  | _, _ => w

/-- Ends a task. -/
def finish (id : TaskId) (ending : Ending) (w : World) : World :=
  { w.changeTask id fun t => { t with ending := some ending } with finished := w.finished ++ [id] }

/-- Asks a task to end; it is dropped when its turn comes. -/
def abort (id : TaskId) (w : World) : World :=
  if w.isEnded id then w else (w.changeTask id fun t => { t with aborted := true }).wake id

/-- Asks tasks to end, in order. -/
def abortAll (ids : List TaskId) (w : World) : World :=
  ids.foldl (fun w id => w.abort id) w

/-- Drops a group with all its tasks. -/
def dropGroup (group : GroupId) (w : World) : World :=
  match w.groups[group]? with
  | none => w
  | some g =>
    (w.changeGroup group fun g => { g with awaited := [], detached := [] }).abortAll
      (g.awaited ++ g.detached.map (·.2))

end World

end Warden.Supervision
