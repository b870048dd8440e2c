import Warden.Supervision.World

/-! One turn of a task: it acts until it has to wait or ends. -/

namespace Warden.Supervision

/-- What a step leads to. -/
inductive Reaction
  /-- The next step follows in the same turn. -/
  | proceed
  | block (wait : Wait)
  | finish (outcome : Outcome)
deriving Repr, DecidableEq, Inhabited

namespace World

/-- Begins a wait. -/
def block (party : Party) (actor : Actor) (wait : Wait) (w : World) : Reaction × World :=
  (.block wait, w.enlist party actor wait)

/-- Takes one step. -/
def act (party : Party) (actor : Actor) (step : Step) (w : World) : Reaction × World :=
  match step with
  | .sleep millis =>
    -- A sleep that is over at once gives nobody else a turn.
    if millis = 0 then (.proceed, w) else w.block party actor (.timer (w.now + millis))
  | .yield => w.block party actor .yielded
  | .note text => (.proceed, w.emit (.deed (.noted actor.who text)))
  | .log entry => (.proceed, w.notice party.origin (.other entry))
  | .cancel cause =>
    let (first, w) := w.cancel party.caller actor.run cause
    (.proceed, w.emit (.deed (.cancelled actor.who first)))
  | .awaitCancel =>
    if w.isCancelled actor.run then (.proceed, w.emit (.deed (.sawCancel actor.who)))
    else w.block party actor .cancellation
  | .signal signal =>
    if w.channel.slot = .free then
      (.proceed, (w.deliver signal).emit (.deed (.sent actor.who)))
    else w.block party actor (.room signal)
  | .trySignal signal =>
    if w.channel.slot = .free then
      (.proceed, (w.deliver signal).emit (.deed (.tried actor.who true)))
    else (.proceed, w.emit (.deed (.tried actor.who false)))
  | .raise signal =>
    -- The system keeps one pending signal of each kind.
    (.proceed, if signal ∈ w.raised then w else { w with raised := w.raised ++ [signal] })
  | .probe => (.proceed, w.emit (.deed (.probed party actor)))
  | .fail error => (.finish (.failed error), w)
  | .failWith error => (.finish (.failedWith error), w)
  | .panic payload => (.finish (.panicked payload), w)
  | .hang => (.block .never, w)

/-- Takes steps until one has to wait or the script ends. -/
def runSteps (party : Party) (actor : Actor) : Script → World → (Wait × Script ⊕ Outcome) × World
  | [], w => (.inr .done, w)
  | step :: rest, w =>
    match w.act party actor step with
    | (.proceed, w) => runSteps party actor rest w
    | (.block wait, w) => (.inl (wait, rest), w)
    | (.finish outcome, w) => (.inr outcome, w)

/-- What follows the end of a service's start: it is reported, or it cancels the run. -/
def endStart (id : TaskId) (run : RunId) (service : Placed) (outcome : Outcome) (w : World) :
    World :=
  match outcome with
  | .done =>
    let w := w.emit (.deed (.up service))
    -- The launcher has stopped listening to any other start, so that nobody else reports its
    -- success.
    (if w.awaiting = some id then w else w.notice .task (.lateStart service)).finish id .done
  -- A panic is reported by the launcher, which sees the reporting end go away.
  | .panicked payload => w.finish id (.panicked payload)
  | .failed error => fail error
  | .failedWith error => fail error.text
where
  fail (error : String) : World :=
    let w := (w.emit (.deed (.startFailed service))).notice .task (.startFailed service error)
    (w.cancel .start run (.startFailed service.name error)).2.finish id (.refused error)

/-- The ending of a task that a group waits for. -/
def memberEnding : Outcome → Ending
  | .done => .done
  | .failed error => .failed (.taskPanicked error)
  | .failedWith error => .failed error
  | .panicked payload => .panicked payload

/-- The ending of a task that nobody waits for. -/
def actionEnding : Outcome → Ending
  | .panicked payload => .panicked payload
  | _ => .done

/-- What follows the end of a task's script. -/
def endScript (id : TaskId) (task : Task) (outcome : Outcome) (w : World) : World :=
  match task.duty with
  | .start service => w.endStart id task.actor.run service outcome
  | .member => w.finish id (memberEnding outcome)
  | _ => w.finish id (actionEnding outcome)

/-- What a task with a script does first when its wait is over; a start says that it has begun. -/
def resume (task : Task) (w : World) : World :=
  match task.duty, task.wait with
  | .start service, .fresh => w.emit (.deed (.start service))
  | _, wait => w.settleWait task.actor wait

/-- Continues a task's script where it stood. -/
def pollScript (id : TaskId) (task : Task) (w : World) : World :=
  if w.isOver (.task id) task.actor task.wait then
    match (w.resume task).runSteps (.task id) task.actor task.steps with
    | (.inl (wait, rest), w) => w.changeTask id fun t => { t with wait, steps := rest }
    | (.inr outcome, w) => w.endScript id task outcome
  else w

/-- The watcher of a run ends with its cause once it is cancelled. -/
def pollWatcher (id : TaskId) (task : Task) (w : World) : World :=
  if w.isCancelled task.actor.run then
    -- A run that is cancelled has a cause: the switch and the first cause are set together.
    let cause := (w.cause? task.actor.run).getD .requested
    (w.notice .task (.contextDone cause)).finish id (.failed (.cancelled cause))
  else if task.wait = .fresh then
    (w.enlist (.task id) task.actor .cancellation).changeTask id fun t =>
      { t with wait := .cancellation }
  else w

/-- What a run does with a signal that is not its first. -/
def escalate (policy : Escalation) (signal : Signal) (w : World) : World :=
  match policy with
  | .forceExit =>
    { w.notice .task (.forcingExit signal) with exited := some (exitCode signal) }
  | .ignore => w.notice .task (.signalIgnored signal)
  | .hook => (w.notice .task (.signalEscalated signal)).emit (.deed (.escalated signal))

/-- The listener that holds the receiving end takes the signal that lies there. -/
def listen (id : TaskId) (run : RunId) (policy : Escalation) (heard : Bool) (w : World) : World :=
  match w.channel.slot with
  | .full signal =>
    let w := w.vacate.emit (.handled id signal)
    let w :=
      if heard then w.escalate policy signal
      -- The first signal cancels and is not escalated, whatever the policy.
      else ((w.notice .task (.signalReceived signal)).cancel .listener run (.signal signal)).2
    w.changeTask id fun t => { t with wait := .delivery true }
  | _ => w.changeTask id fun t => { t with wait := .delivery heard }

/-- A listener waits for the receiving end, then for signals. -/
def pollListener (id : TaskId) (task : Task) (policy : Escalation) (w : World) : World :=
  match task.wait with
  | .delivery heard => w.listen id task.actor.run policy heard
  | _ =>
    if w.channel.holder = some id then w.listen id task.actor.run policy false
    else if w.channel.holder = none then
      -- A free receiving end is taken and looked at in the same turn.
      (w.changeChannel fun c => { c with holder := some id }).listen id task.actor.run policy false
    else if task.wait = .fresh then
      (w.changeChannel fun c => { c with listeners := c.listeners ++ [id] }).changeTask id fun t =>
        { t with wait := .receiver }
    else w

/-- Puts the signals of the system into the channel, one after another. -/
def forward (id : TaskId) (actor : Actor) : List Signal → World → World
  | [], w => ({ w with arrived := [] }).changeTask id fun t => { t with wait := .system }
  | signal :: rest, w =>
    if w.channel.slot = .free then forward id actor rest (w.deliver signal)
    else
      (({ w with arrived := rest }).enlist (.task id) actor (.room signal)).changeTask id fun t =>
        { t with wait := .room signal }

/-- The forwarder first fills the place that was promised to it, then goes on as before. -/
def pollForwarder (id : TaskId) (task : Task) (w : World) : World :=
  match task.wait with
  | .room signal =>
    if w.channel.slot = .promised (.task id) then
      let w := w.deliver signal
      w.forward id task.actor w.arrived
    else w
  | _ => w.forward id task.actor w.arrived

/-- Leaves the receiving end of the channel, or the line for it, to the others. -/
def leaveReceiver (id : TaskId) (w : World) : World :=
  if w.channel.holder = some id then w.passReceiver
  else w.changeChannel fun c => { c with listeners := c.listeners.filter (· != id) }

/-- Notes that a start is given up, if it had begun. -/
def noteAbandoned (task : Task) (w : World) : World :=
  match task.duty with
  | .start service => if task.wait = Wait.fresh then w else w.emit (.abandoned service)
  | _ => w

/-- Drops a task that was asked to end, with all that it holds. -/
def dropTask (id : TaskId) (task : Task) (w : World) : World :=
  -- What a task holds is handed on before it ends, so that nobody waits for a task that is gone.
  (((w.forsake (.task id) task.actor task.wait).leaveReceiver id).noteAbandoned task).finish id
    .dropped

/-- Gives a task its turn. -/
def poll (id : TaskId) (w : World) : World :=
  match w.task? id with
  | none => w
  | some task =>
    -- A process that has exited takes no more turns, whatever is still ready.
    if task.ending.isSome ∨ w.exited.isSome then w
    else if task.aborted then w.dropTask id task
    else match task.duty with
      | .start _ | .action | .member => w.pollScript id task
      | .watcher => w.pollWatcher id task
      | .listener policy => w.pollListener id task policy
      | .forwarder => w.pollForwarder id task

end World

end Warden.Supervision
