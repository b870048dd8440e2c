import Warden.Supervision.Flow

/-! Stopping services: the last one started first, each for no longer than the timeout. -/

namespace Warden.Supervision.Flow

/-- Notices and counts a stop that went wrong. -/
def badStop (service : Placed) (n : Notice) : Flow Unit := do
  notice n
  emit (.count (.stop service false))

/-- Stops one service within the timeout; a panic of its stop ends the flow. -/
def stopOne (run : RunId) (timeout : Duration) (service : Placed) : Flow Unit := do
  emit (.deed (.stop service))
  let due := (← look (·.now)) + timeout.ceilMillis
  -- A stop is no supervised task: it acts on the flow itself and reads no run's identifier.
  match ← play ⟨service.name, run, none⟩ (some due) service.service.stop with
  | none => badStop service (.stopTimedOut service timeout)
  | some .done =>
    emit (.deed (.down service))
    notice (.serviceStopped service)
    emit (.count (.stop service true))
  | some (.failed error) =>
    emit (.deed (.stopFailed service))
    badStop service (.stopFailed service error)
  | some (.failedWith error) =>
    emit (.deed (.stopFailed service))
    badStop service (.stopFailed service error.text)
  -- Neither a count nor a notice is written for a stop that panics.
  | some (.panicked payload) => throw (.panicked payload.message)

/-- Stops services in the order given; each is taken from those that are started before its stop
begins. -/
def stopEach (run : RunId) (timeout : Duration) : List Placed → Flow Unit
  | [] => return
  | service :: rest => do
    -- A stop that panics leaves those that were started before its service on the stack.
    change fun w => { w with started := rest.reverse }
    stopOne run timeout service
    emit (.running rest.length)
    stopEach run timeout rest

/-- Stops all services that are started, the last one first. -/
def stopAll (run : RunId) (timeout : Duration) : Flow Unit := do
  stopEach run timeout (← look (·.started)).reverse

end Warden.Supervision.Flow
