import Warden.Proofs.Supervision.Watcher
import Warden.Supervision.Supervisor

/-! Where a run of the supervising flow leads, one step of the flow at a time. -/

namespace Warden.Supervision

/-- The time at which a wait ends at the latest: its deadline, if it has one, and the horizon in any
case. -/
def World.limit (deadline : Option Nat) (w : World) : Nat :=
  deadline.elim w.horizon (min · w.horizon)

namespace Flow

/-- From this world the flow leads to what the first condition says if it goes on, and to what the
second says if it halts. -/
def Yields {α : Type} (flow : Flow α) (w : World) (goes : α → World → Prop)
    (halts : Halt → World → Prop) : Prop :=
  match flow.run w with
  | (.ok a, w') => goes a w'
  | (.error halt, w') => halts halt w'

variable {α β : Type} {w : World} {goes : α → World → Prop} {halts : Halt → World → Prop}

/-- Where a flow leads is read off its result. -/
theorem Yields.of_run {flow : Flow α} (yields : flow.Yields w goes halts) {result : Except Halt α}
    {w' : World} (ran : flow.run w = (result, w')) :
    (∀ a, result = .ok a → goes a w') ∧ ∀ halt, result = .error halt → halts halt w' := by
  -- Only one of the two conditions is about the result that there is.
  unfold Yields at yields
  rw [ran] at yields
  cases result with
  | ok a =>
    refine ⟨fun _ same => Except.ok.inj same ▸ yields, fun _ differs => ?_⟩
    cases differs
  | error halt =>
    refine ⟨fun _ differs => ?_, fun _ same => Except.error.inj same ▸ yields⟩
    cases differs

/-- A run is its result with the world where it ends. -/
theorem run_of_result {flow : Flow α} {result : Except Halt α} (ends : (flow.run w).1 = result) :
    flow.run w = (result, (flow.run w).2) :=
  Prod.ext ends rfl

/-- What a flow guarantees may be weakened at either end. -/
theorem Yields.mono {flow : Flow α} {goes' : α → World → Prop} {halts' : Halt → World → Prop}
    (yields : flow.Yields w goes halts) (more : ∀ a w', goes a w' → goes' a w')
    (others : ∀ halt w', halts halt w' → halts' halt w') : flow.Yields w goes' halts' := by
  unfold Yields at *
  split at yields
  · exact more _ _ yields
  · exact others _ _ yields

/-- Two things that are known of a flow hold of the same end. -/
theorem Yields.and {flow : Flow α} {goes' : α → World → Prop} {halts' : Halt → World → Prop}
    (yields : flow.Yields w goes halts) (yields' : flow.Yields w goes' halts') :
    flow.Yields w (fun a w' => goes a w' ∧ goes' a w') fun halt w' => halts halt w' ∧
      halts' halt w' := by
  unfold Yields at *
  split at yields <;> exact ⟨yields, by simp_all⟩

/-- What holds however a flow ends holds of the world where it ends. -/
theorem yields_end {flow : Flow α} {ends : World → Prop} :
    flow.Yields w (fun _ => ends) (fun _ => ends) ↔ ends (flow.run w).2 := by
  unfold Yields
  rcases flow.run w with ⟨⟨halt⟩ | ⟨a⟩, w'⟩ <;> rfl

/-- Where a flow leads that is known to go on. -/
theorem yields_of_ok {flow : Flow α} {a : α} {w' : World} (ran : flow.run w = (.ok a, w')) :
    flow.Yields w goes halts ↔ goes a w' := by
  unfold Yields
  rw [ran]

/-- Where a flow leads that is known to halt. -/
theorem yields_of_error {flow : Flow α} {halt : Halt} {w' : World}
    (ran : flow.run w = (.error halt, w')) :
    flow.Yields w goes halts ↔ halts halt w' := by
  unfold Yields
  rw [ran]

/-- A flow that cannot halt goes on. -/
theorem Yields.total {flow : Flow α} (yields : flow.Yields w goes fun _ _ => False) :
    ∃ a w', flow.run w = (.ok a, w') ∧ goes a w' := by
  unfold Yields at yields
  rcases ran : flow.run w with ⟨halt | a, w'⟩ <;> rw [ran] at yields
  · exact yields.elim
  · exact ⟨a, w', rfl, yields⟩

@[simp] theorem yields_pure (a : α) : (pure a : Flow α).Yields w goes halts ↔ goes a w := Iff.rfl

@[simp] theorem yields_bind (flow : Flow β) (next : β → Flow α) :
    (flow >>= next).Yields w goes halts ↔
    flow.Yields w (fun b w' => (next b).Yields w' goes halts) halts := by
  -- What halts in the first flow never reaches the next one.
  rcases same : flow.run w with ⟨result, w'⟩
  have run : (flow >>= next).run w = ExceptT.bindCont next result w' :=
    congrArg (fun out : Except Halt β × World => ExceptT.bindCont next out.1 out.2) same
  unfold Yields
  rw [run, same]
  cases result <;> rfl

/-- What follows a flow that goes on is run where that flow has led. -/
theorem run_bind_of_ok {flow : Flow β} {b : β} {w' : World} (ran : flow.run w = (.ok b, w'))
    (next : β → Flow α) :
    (flow >>= next).run w = (next b).run w' :=
  congrArg (fun out : Except Halt β × World => ExceptT.bindCont next out.1 out.2) ran

@[simp] theorem yields_throw (halt : Halt) :
    (throw halt : Flow α).Yields w goes halts ↔ halts halt w := Iff.rfl

/-- A handler takes over in the world in which the flow has broken off. -/
theorem run_tryCatch (flow : Flow α) (handler : Halt → Flow α) (w : World) :
    (tryCatch flow handler).run w =
      match flow.run w with
      | (.ok a, w') => (.ok a, w')
      | (.error halt, w') => (handler halt).run w' := by
  show (ExceptT.tryCatch flow handler).run w = _
  simp only [ExceptT.tryCatch, ExceptT.run, ExceptT.mk, bind, StateT.bind]
  rcases flow w with ⟨⟨halt⟩ | ⟨a⟩, w'⟩ <;> rfl

@[simp] theorem yields_tryCatch (flow : Flow α) (handler : Halt → Flow α) :
    (tryCatch flow handler).Yields w goes halts ↔
      flow.Yields w goes fun halt w' => (handler halt).Yields w' goes halts := by
  unfold Yields
  rw [run_tryCatch]
  rcases flow.run w with ⟨⟨halt⟩ | ⟨a⟩, w'⟩ <;> rfl

@[simp] theorem yields_look (view : World → α) :
    (look view).Yields w goes halts ↔ goes (view w) w := Iff.rfl

@[simp] theorem yields_answer (operation : World → α × World) :
    (answer operation).Yields w goes halts ↔ goes (operation w).1 (operation w).2 := Iff.rfl

variable {goesOn : Unit → World → Prop}

@[simp] theorem yields_change (edit : World → World) :
    (change edit).Yields w goesOn halts ↔ goesOn () (edit w) :=
  Iff.rfl

@[simp] theorem yields_emit (event : Event) :
    (emit event).Yields w goesOn halts ↔ goesOn () (w.emit event) := Iff.rfl

@[simp] theorem yields_notice (n : Notice) :
    (notice n).Yields w goesOn halts ↔ goesOn () (w.notice .main n) :=
  Iff.rfl

/-- A wait looks at its goal once more when it is over, unless the process has exited by then. -/
theorem run_pause (goal : World → Bool) (deadline : Option Nat) (w : World) :
    (pause goal deadline).run w =
      let w' := w.settle goal (w.limit deadline) (2 * w.effort + 2) 0
      match w'.exited with
      | some code => (.error (.exited code), w')
      | none => (.ok (goal w'), w') := by
  -- With or without a deadline, a wait is one settlement of the world up to its limit.
  cases deadline with
  | none =>
    show (match (w.settle goal w.horizon (2 * w.effort + 2) 0).exited with
      | some code => (throw (Halt.exited code) : Flow Bool)
      | none => pure (goal (w.settle goal w.horizon (2 * w.effort + 2) 0))).run _ = _
    dsimp only [World.limit, Option.elim]
    split <;> rfl
  | some d =>
    show (match (w.settle goal (min d w.horizon) (2 * w.effort + 2) 0).exited with
      | some code => (throw (Halt.exited code) : Flow Bool)
      | none => pure (goal (w.settle goal (min d w.horizon) (2 * w.effort + 2) 0))).run _ = _
    dsimp only [World.limit, Option.elim]
    split <;> rfl

/-- A wait ends when its goal is met, when its limit is reached, or with the process. -/
theorem pause_yields {goal : World → Bool} {deadline : Option Nat} {goesOn : Bool → World → Prop}
    (ends : ∀ w', World.Beats goal (w.limit deadline) w w' → w'.exited = none →
      (goal w' = false → w.limit deadline ≤ w'.now) → goesOn (goal w') w')
    (dies : ∀ w' code, World.Beats goal (w.limit deadline) w w' → w'.exited = some code →
      halts (.exited code) w') :
    (pause goal deadline).Yields w goesOn halts := by
  -- The rounds of the wait are beats, and they stop only for the three reasons for which a wait is
  -- called off.
  have beats :
    World.Beats goal (w.limit deadline) w (w.settle goal (w.limit deadline) (2 * w.effort + 2) 0) :=
    World.settle_beats _ _ _ _ _ fun zero => absurd rfl zero
  have calls :
    World.Calls goal (w.limit deadline) (w.settle goal (w.limit deadline) (2 * w.effort + 2) 0) :=
    World.settle_calls (by simp)
  unfold Yields
  rw [run_pause]
  dsimp only
  generalize w.settle goal (w.limit deadline) (2 * w.effort + 2) 0 = w' at *
  -- Only here do the two ends part: a process that is gone breaks the wait off, whatever its goal.
  cases gone : w'.exited with
  | some code => exact dies w' code beats gone
  | none =>
    refine ends w' beats gone fun unmet => ?_
    rcases calls with gone' | met | reached
    -- A wait that was called off neither by an exit nor by its goal has used up its time.
    · simp [gone] at gone'
    · simp [unmet] at met
    · exact reached

end Flow

end Warden.Supervision
