import Warden.Duration
import Warden.Supervision.Signal

/-! Why a run is cancelled, and the errors with which a run ends. -/

namespace Warden.Supervision

/-- The place of a run in the list of all runs. -/
abbrev RunId := Nat

/-- The reason of a cancellation. -/
inductive Cause
  | signal (signal : Signal)
  | startFailed (service error : String)
  | startTimeout (service : String) (timeout : Duration)
  | taskFailed (error : String)
  | requested
deriving Repr, DecidableEq, Inhabited

namespace Cause

/-- The kind of reason, as metrics name it. -/
def label : Cause → String
  | .signal _ => "signal"
  | .startFailed _ _ => "start_failed"
  | .startTimeout _ _ => "start_timeout"
  | .taskFailed _ => "task_failed"
  | .requested => "requested"

/-- The reason as logs and errors spell it. -/
def text : Cause → String
  | .signal s => "received signal " ++ s.name
  | .startFailed service error => "service '" ++ service ++ "' failed to start: " ++ error
  | .startTimeout service timeout =>
    "service '" ++ service ++ "' did not start within " ++ timeout.text
  | .taskFailed error => "supervised task failed: " ++ error
  | .requested => "cancellation requested"

end Cause

/-- How a supervised task or a whole run fails. -/
inductive RunError
  | cancelled (cause : Cause)
  | taskPanicked (message : String)
  | signalSetup (message : String)
deriving Repr, DecidableEq, Inhabited

namespace RunError

/-- The error as logs spell it. -/
def text : RunError → String
  | .cancelled cause => "run cancelled: " ++ cause.text
  | .taskPanicked message => "supervised task panicked: " ++ message
  | .signalSetup message => "failed to subscribe to OS signals: " ++ message

/-- The reason, when the error is a cancellation. -/
def cause? : RunError → Option Cause
  | .cancelled cause => some cause
  | .taskPanicked _ | .signalSetup _ => none

end RunError

/-- The state that every handle of a run shares: the first reason, and the switch that is tripped
with it. -/
structure CancelState where
  cause : Option Cause := none
  tripped : Bool := false
deriving Repr, DecidableEq, Inhabited

/-- Cancels; the answer tells whether this call was the first. -/
def CancelState.cancel (state : CancelState) (cause : Cause) : Bool × CancelState :=
  match state.cause with
  | none => (true, ⟨some cause, true⟩)
  -- A later call changes nothing: the first reason is kept, and the switch is tripped already.
  | some first => (false, ⟨some first, true⟩)

@[simp] theorem CancelState.tripped_cancel (state : CancelState) (cause : Cause) :
    (state.cancel cause).2.tripped = true := by
  -- The switch is tripped on every call, not only on the first.
  unfold cancel
  split <;> rfl

/-- The first reason is kept, whatever the later ones are. -/
@[simp] theorem CancelState.cause_cancel (state : CancelState) (cause : Cause) :
    (state.cancel cause).2.cause = some (state.cause.getD cause) := by
  unfold cancel
  split <;> simp [*]

/-- A call is the first exactly if no reason was recorded. -/
theorem CancelState.first_cancel (state : CancelState) (cause : Cause) :
    (state.cancel cause).1 = state.cause.isNone := by
  unfold cancel
  split <;> simp [*]

end Warden.Supervision
