import Warden.Config.Basic

/-! The four signals that end a run, and what is done with the second one. -/

namespace Warden.Supervision

/-- A signal that asks the process to end. -/
inductive Signal
  | hangup
  | interrupt
  | terminate
  | quit
deriving Repr, DecidableEq, Inhabited

namespace Signal

/-- The signals that are subscribed to. -/
def all : List Signal := [.hangup, .interrupt, .terminate, .quit]

/-- The signal as logs spell it. -/
def name : Signal → String
  | .hangup => "SIGHUP"
  | .interrupt => "SIGINT"
  | .terminate => "SIGTERM"
  | .quit => "SIGQUIT"

/-- The number under which the system knows the signal. -/
def number : Signal → Nat
  | .hangup => 1
  | .interrupt => 2
  | .terminate => 15
  | .quit => 3

/-- The signal as reports spell it. -/
def word : Signal → String
  | .hangup => "Hangup"
  | .interrupt => "Interrupt"
  | .terminate => "Terminate"
  | .quit => "Quit"

/-- The signal of a name. -/
def ofName? (name : String) : Option Signal :=
  all.find? (·.name == name)

end Signal

/-- What a run does with the signals that follow its first one. -/
inductive Escalation
  /-- The process exits. -/
  | forceExit
  /-- Nothing but a warning. -/
  | ignore
  /-- A hook is called. -/
  | hook
deriving Repr, DecidableEq, Inhabited

/-- What is done with a second signal, as reports spell it. -/
def Escalation.text : Escalation → String
  | .forceExit => "ForceExit"
  | .ignore => "Ignore"
  | .hook => "Hook(..)"

/-- The process status that reports an end by signal. -/
def exitCode (signal : Signal) : Nat := 128 + signal.number

end Warden.Supervision
