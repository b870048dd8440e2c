import Warden.Supervision.Supervisor
import Warden.Supervision.Trace

/-! Answers that a scenario gives step by step, and flows that keep going after a panic. -/

namespace Warden.Scenario

open Supervision

/-- What a step of a scenario answers. -/
inductive Answer
  | nothing
  | index (index : Nat)
  | flag (value : Bool)
  | size (count : Nat)
  | text (text : String)
  | names (names : List String)
  | result (error : Option RunError)
  | cause (cause : Option Cause)
  | listener (cause : Option Cause) (ended : Bool)
  | panicked (message : String)
  | stuck
deriving Repr, DecidableEq, Inhabited

/-- An answer with the time at which it was given and what happened on the way to it. -/
structure Answered where
  time : Nat
  answer : Answer
  trace : Trace
deriving Repr, Inhabited

/-- Gives a flow its patience; a panic or a wait without end becomes its answer. -/
def attempt (flow : Flow Answer) : Flow Answer :=
  tryCatch (Flow.bounded flow) fun halt =>
    match halt with
    | .panicked message => return .panicked message
    | .stuck => return .stuck
    | .exited code => throw (.exited code)

/-- Plays one step of a script as part of the supervising flow. -/
def playStep (actor : Actor) (step : Step) : Flow Answer := do
  match ← Flow.play actor none [step] with
  | some (.panicked payload) => throw (.panicked payload.message)
  | _ => return .nothing

/-- Plays a script as part of the supervising flow; a panic or a wait without end just ends it. -/
def playScript (actor : Actor) (script : Script) : Flow Unit := do
  let _ ← attempt do
    let _ ← Flow.play actor none script
    return .nothing

/-- Answers the questions of a scenario in order. -/
def answerAll {Op : Type} (perform : Nat → Op → Flow Answer) : Nat → List Op → Flow (List Answered)
  | _, [] => return []
  | index, op :: rest => do
    let before ← Flow.look (·.trace.length)
    let answer ← attempt (perform index op)
    let trace ← Flow.look (·.trace.drop before)
    let time ← Flow.look (·.now)
    return ⟨time, answer, trace⟩ :: (← answerAll perform (index + 1) rest)

/-- Runs a flow from the beginning of time in a world with one run that has an empty group. -/
def play {α : Type} (flow : Flow α) : Except Halt α × World :=
  flow.run { runs := [{}], groups := [{ run := 0 }] }

/-- The names of the started services, first one first. -/
def startedNames (w : World) : List String :=
  w.started.map (·.name)

/-- The script actor of the supervising flow in that run. -/
def mainActor (run : RunId) : Actor := ⟨"main", run, none⟩

end Warden.Scenario
