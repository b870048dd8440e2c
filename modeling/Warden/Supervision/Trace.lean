import Warden.Supervision.World

/-! Views of a trace: its journal, its log, its counts and the services that were given up. -/

namespace Warden.Supervision

/-- A count under a name and labels. -/
structure Tally where
  name : String
  labels : List (String × String)
  value : Nat
deriving Repr, DecidableEq, Inhabited

/-- Counts one more under a name and labels. -/
def Tally.add (name : String) (labels : List (String × String)) : List Tally → List Tally
  | [] => [⟨name, labels, 1⟩]
  | tally :: rest =>
    if tally.name = name ∧ tally.labels = labels then
      { tally with value := tally.value + 1 } :: rest
    else tally :: add name labels rest

/-- A call that asks for the cancellation of a run. -/
structure Call where
  time : Nat
  caller : Caller
  cause : Cause
deriving Repr, DecidableEq, Inhabited

/-- The call that something that happened was, if it asked to cancel that run. -/
def Stamped.call? (run : RunId) (stamped : Stamped) : Option Call :=
  match stamped.event with
  | .cancelCall caller called cause =>
    if called = run then some ⟨stamped.time, caller, cause⟩ else none
  | _ => none

namespace Trace

/-- The first call that asked to cancel a run. -/
def firstCall (run : RunId) (trace : Trace) : Option Call :=
  trace.findSome? (·.call? run)

/-- A line that begins with its time. -/
def line (time : Nat) (text : String) : String :=
  toString time ++ " " ++ text

/-- The deeds in order, each with its time. -/
def journal (trace : Trace) : List String :=
  trace.filterMap fun stamped =>
    match stamped.event with
    | .deed deed => some (line stamped.time deed.text)
    | _ => none

/-- The starts that were dropped before they ended, sorted as text. -/
def abandoned (trace : Trace) : List String :=
  (trace.filterMap fun stamped =>
    match stamped.event with
    | .abandoned service => some (line stamped.time service.name)
    | _ => none).mergeSort fun a b => !decide (b < a)

/-- The log entries of one origin with their times. -/
def entries (origin : Origin) (trace : Trace) : List (Nat × Log.Entry) :=
  trace.filterMap fun stamped =>
    match stamped.event with
    | .notice from_ notice => if from_ = origin then some (stamped.time, notice.entry) else none
    | _ => none

/-- The counts, each name and labels once. -/
def tallies (trace : Trace) : List Tally :=
  trace.foldl (fun tallies stamped =>
    match stamped.event with
    | .count count => Tally.add count.name count.labels tallies
    | _ => tallies) []

/-- The questions that were put to servers, in order. -/
def attempts (trace : Trace) : List Ethereum.Attempt :=
  trace.filterMap fun stamped =>
    match stamped.event with
    | .asked attempt => some attempt
    | _ => none

/-- The values that were shown under a name, in order. -/
def shown (name : String) (trace : Trace) : List String :=
  trace.filterMap fun stamped =>
    match stamped.event with
    | .shown reading => if reading.name = name then some reading.value else none
    | _ => none

/-- The level that was set last, if any was. -/
def level? (trace : Trace) : Option Log.Level :=
  (trace.filterMap fun stamped =>
    match stamped.event with
    | .levelSet level => some level
    | _ => none).getLast?

/-- The configuration with which services were built, if they were. -/
def built? (trace : Trace) : Option Config :=
  trace.findSome? fun stamped =>
    match stamped.event with
    | .deed (.built config) => some config
    | _ => none

/-- The trace of a run that no time was measured in. -/
def timeless (trace : Trace) : Trace :=
  trace.map fun stamped => { stamped with time := 0 }

/-- The numbers of running services, in the order in which they were shown. -/
def running (trace : Trace) : List Nat :=
  trace.filterMap fun stamped =>
    match stamped.event with
    | .running services => some services
    | _ => none

end Trace

end Warden.Supervision
