import Warden.Supervision.Group

/-!
Launching services: one after another, each start on a task of its own that races its deadline.
-/

namespace Warden.Supervision

/-- The first second that the clock cannot show. -/
def clockLimit : Nat := 0x7fffffffffffffff

/-- The message when a deadline lies beyond what the clock can show. -/
def clockOverflow : String := "overflow when adding duration to instant"

/-- Whether the clock cannot show the time that lies so far ahead. Time is counted from the start of
the process; a clock that counts from the start of the machine comes to its limit sooner, by as much
as the machine was up before. -/
def isBeyondClock (now : Nat) (ahead : Duration) : Bool :=
  clockLimit ≤ ((Duration.ofMillis now).nanos + ahead.nanos) / 1000000000

/-- The cause recorded for a start that panicked. -/
def startPanic : String := "start task panicked"

/-- The task on which a service is started. -/
def startTask (run : RunId) (service : Placed) : Task :=
  ⟨.start service, ⟨service.name, run, some run⟩, service.service.start, .fresh, none, false⟩

/-- Whether a task has ended and all went well. -/
def World.endedWell (id : TaskId) (w : World) : Bool :=
  (w.task? id).any (·.ending == some .done)

namespace Flow

/-- Holds the flow until a deadline because a start ended without success. -/
def holdFailed (run : RunId) (service : Placed) (due : Nat) : Flow Launched := do
  -- Only the call that was the first is answered with a notice of the panic.
  if ← answer (·.cancel .launcher run (.startFailed service.name startPanic)) then
    notice (.startPanicked service)
  -- A start that panicked reports nothing; only the deadline ends its launch.
  sleepUntil due
  return .failed

/-- Gives up waiting for a start whose deadline has come. -/
def giveUp (run : RunId) (service : Placed) (deadline : Duration) : Flow Launched := do
  notice (.startTimedOut service deadline)
  let _ ← answer (·.cancel .launcher run (.startTimeout service.name deadline))
  return .timedOut

/-- Waits until a start has ended or its deadline comes, and tells whether it has ended. -/
def race (id : TaskId) (due : Nat) : Flow Bool := do
  change fun w => { w with awaiting := some id }
  let ended ← pause (·.isEnded id) (some due)
  change fun w => { w with awaiting := none }
  return ended

/-- What follows a race: a start that ended without success is held, one that has not ended is given
up. -/
def resolve (run : RunId) (service : Placed) (deadline : Duration) (due : Nat) (id : TaskId)
    (ended : Bool) : Flow Launched := do
  if ended then
    if ← look (·.endedWell id) then return .started else holdFailed run service due
  else if ← look (isPast (some due)) then giveUp run service deadline
  else throw .stuck

/-- Starts one service on a task of its own and waits until it is up or its deadline comes. -/
def launch (group : GroupId) (run : RunId) (service : Placed) (deadline : Duration) :
    Flow Launched := do
  let id ← answer (·.spawnDetached group service.name (startTask run service))
  emit (.launched service)
  let now ← look (·.now)
  -- The start is on its task already when the deadline cannot be computed.
  if isBeyondClock now deadline then throw (.panicked clockOverflow)
  else
    let due := now + deadline.ceilMillis
    resolve run service deadline due id (← race id due)

/-- Keeps a service that has started on top of those before it. -/
def keepStarted (service : Placed) : Flow Unit := do
  change fun w => { w with started := w.started ++ [service] }
  emit (.running (← look (·.started.length)))

/-- Counts how a launch came out, and keeps the service if it has started. -/
def book (service : Placed) (outcome : Launched) : Flow Unit := do
  emit (.count (.start service outcome))
  if outcome = .started then
    notice (.serviceStarted service)
    keepStarted service

/-- Launches services in order and keeps those that start. -/
def startAll (group : GroupId) (run : RunId) (deadline : Duration) : List Placed → Flow Unit
  | [] => return
  | service :: rest => do
    book service (← launch group run service deadline)
    startAll group run deadline rest

end Flow

end Warden.Supervision
