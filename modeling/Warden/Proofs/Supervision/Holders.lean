import Mathlib.Logic.Relation
import Warden.Proofs.Supervision.Turn
import Warden.Scenario.Contexts

/-!
The holders of a run: the first call gives it its cause for good, through whichever of its contexts
and handles it is made, whatever tokens are derived from it, and however the calls overlap.
-/

namespace Warden

namespace Supervision

namespace CancelState

/-- What calls with these causes make of a state, one after another. -/
def cancelAll (state : CancelState) (causes : List Cause) : CancelState :=
  causes.foldl (fun state cause => (state.cancel cause).2) state

variable {state : CancelState} {causes : List Cause}

/-- Calls may be told apart anywhere. -/
theorem cancelAll_append (state : CancelState) (first second : List Cause) :
    state.cancelAll (first ++ second) = (state.cancelAll first).cancelAll second :=
  List.foldl_append

/-- The cause stays if there was one, and is that of the first call otherwise. -/
theorem cause_cancelAll : (state.cancelAll causes).cause = state.cause.or causes.head? := by
  -- The first of the calls leaves a cause, and those after it find one there.
  induction causes generalizing state with
  | nil => exact (Option.or_none).symm
  | cons cause rest ih =>
    rw [cancelAll, List.foldl_cons, ← cancelAll, ih, cause_cancel]
    cases state.cause <;> rfl

/-- The switch is tripped if it was, or if there is a call at all. -/
theorem tripped_cancelAll :
    (state.cancelAll causes).tripped = (state.tripped || !causes.isEmpty) := by
  -- Each of the calls cancels the run, whether or not it is the first.
  induction causes generalizing state with
  | nil => exact (Bool.or_false _).symm
  | cons cause rest ih =>
    rw [cancelAll, List.foldl_cons, ← cancelAll, ih, tripped_cancel]
    simp

/-- A state is its cause and its switch. -/
theorem eq_of_parts {state state' : CancelState} (cause : state.cause = state'.cause)
    (tripped : state.tripped = state'.tripped) : state = state' := by
  cases state
  cases state'
  cases cause
  cases tripped
  rfl

/-- Further calls make nothing more of a state that a call has been made on. -/
theorem cancelAll_eq_self (known : state.cause.isSome = true) (cancelled : state.tripped = true) :
    state.cancelAll causes = state := by
  apply eq_of_parts
  · rw [cause_cancelAll, Option.or_of_isSome known]
  · rw [tripped_cancelAll, cancelled, Bool.true_or]

/-- The first half of a call: the cause is recorded if there is none yet, which is also the
answer. -/
def record (state : CancelState) (cause : Cause) : Bool × CancelState :=
  (state.cause.isNone, { state with cause := some (state.cause.getD cause) })

/-- The second half of a call. -/
def trip (state : CancelState) : CancelState :=
  { state with tripped := true }

/-- A call is its two halves. -/
theorem cancel_eq_record_trip (state : CancelState) (cause : Cause) :
    state.cancel cause = ((state.record cause).1, (state.record cause).2.trip) := by
  obtain ⟨none | first, tripped⟩ := state <;> rfl

end CancelState

/-- A call of one of many holders, which has recorded its cause or found another one there. -/
structure Bid where
  cause : Cause
  first : Bool
  returned : Bool := false

/-- The state of a run, and the calls in the order in which they came to it. -/
structure Overlap where
  state : CancelState := {}
  bids : List Bid := []

namespace Overlap

/-- What happens to a run while calls overlap: one more begins, or one of those that have begun
comes to its end. -/
inductive Step : Overlap → Overlap → Prop
  | records (o : Overlap) (cause : Cause) :
    Step o ⟨(o.state.record cause).2, o.bids ++ [⟨cause, (o.state.record cause).1, false⟩]⟩
  | trips (o : Overlap) (i : Nat) (bid : Bid) (found : o.bids[i]? = some bid)
    (going : bid.returned = false) :
    Step o ⟨o.state.trip, o.bids.set i { bid with returned := true }⟩

/-- What is true of a run at any moment, with some of the calls halfway. -/
structure Sound (o : Overlap) : Prop where
  /-- The cause is that of the call that came first, -/
  cause : o.state.cause = (o.bids.map Bid.cause).head?
  /-- and this call alone is told so. -/
  first : ∀ i bid, o.bids[i]? = some bid → (bid.first = true ↔ i = 0)
  /-- The run is cancelled once a call has returned. -/
  tripped : o.state.tripped = true ↔ ∃ bid ∈ o.bids, bid.returned = true

variable {o o' : Overlap}

/-- What is true of the calls stays true by each step. -/
theorem Sound.step (sound : o.Sound) (step : Step o o') : o'.Sound := by
  -- A call that begins has to do with the cause only, and one that ends with the cancellation only.
  cases step with
  | records cause =>
    refine ⟨?_, fun i bid found => ?_, ?_⟩
    -- The cause is that of the first call, and the one that comes now is behind it if there is one.
    · simp only [CancelState.record, sound.cause, List.map_append, List.map_cons, List.map_nil,
        List.head?_append]
      cases (o.bids.map Bid.cause).head? <;> rfl
    · -- The call that comes now is the first one if there was none.
      rw [List.getElem?_append] at found
      split at found
      · exact sound.first i bid found
      · rename_i behind
        obtain ⟨last, rfl⟩ : i = o.bids.length ∧
          bid = ⟨cause, (o.state.record cause).1, false⟩ := by
          rw [List.getElem?_singleton] at found
          split at found
          · cases found
            exact ⟨by omega, rfl⟩
          · cases found
        simp only [CancelState.record, sound.cause, last]
        cases o.bids <;> simp
    -- A call that has only begun has not returned.
    · simp only [CancelState.record, sound.tripped, List.mem_append, List.mem_singleton]
      constructor
      · rintro ⟨bid, member, returned⟩
        exact ⟨bid, .inl member, returned⟩
      · rintro ⟨bid, member | rfl, returned⟩
        · exact ⟨bid, member, returned⟩
        · cases returned
  | trips i bid found going =>
    obtain ⟨within, here⟩ := List.getElem?_eq_some_iff.mp found
    -- The call keeps its place and its cause.
    have same : (o.bids.set i { bid with returned := true }).map Bid.cause =
      o.bids.map Bid.cause := by
      have inside : i < (o.bids.map Bid.cause).length := by rwa [List.length_map]
      have stays : (o.bids.map Bid.cause)[i] = bid.cause := by rw [List.getElem_map, here]
      rw [List.map_set, ← stays, List.set_getElem_self]
    refine ⟨?_, fun j other found' => ?_, ?_⟩
    · rw [same]
      exact sound.cause
    -- The call that returns keeps what it was told, and so do all others.
    · rw [List.getElem?_set] at found'
      split at found'
      · rename_i equal
        cases found'
        exact equal ▸ sound.first i bid found
      · exact sound.first j other found'
    · exact iff_of_true rfl ⟨_, List.mem_set within _, rfl⟩

/-- What calls that overlap, however many, can make of a fresh run. -/
def Reached (o : Overlap) : Prop :=
  Relation.ReflTransGen Step {} o

/-- It is true at any moment, however many calls have come. -/
theorem Reached.sound (reached : Reached o) : o.Sound := by
  induction reached with
  -- By induction on the steps, from a run that nobody has called.
  | refl => exact ⟨rfl, fun i bid found => by simp at found, by simp⟩
  | tail _ step ih => exact ih.step step

/-- A cause that is recorded stays, and so does a cancellation. -/
theorem Step.keeps (step : Step o o') :
    (∀ cause, o.state.cause = some cause → o'.state.cause = some cause) ∧
    (o.state.tripped = true → o'.state.tripped = true) := by
  cases step with
  | records brought => exact ⟨fun cause known => by simp [CancelState.record, known], id⟩
  | trips => exact ⟨fun _ => id, fun _ => rfl⟩

/-- Both stay through any number of steps. -/
theorem keeps (steps : Relation.ReflTransGen Step o o') :
    (∀ cause, o.state.cause = some cause → o'.state.cause = some cause) ∧
      (o.state.tripped = true → o'.state.tripped = true) := by
  induction steps with
  | refl => exact ⟨fun _ => id, id⟩
  | tail _ step ih =>
    obtain ⟨cause, cancelled⟩ := step.keeps
    exact ⟨fun first known => cause first (ih.1 first known), fun before => cancelled (ih.2 before)⟩

/-- A run is never seen cancelled without a cause: a call records one before it cancels. -/
theorem Sound.isSome_cause (sound : o.Sound) (cancelled : o.state.tripped = true) :
    o.state.cause.isSome = true := by
  obtain ⟨bid, member, _⟩ := sound.tripped.mp cancelled
  rw [sound.cause, List.isSome_head?]
  simpa using List.ne_nil_of_mem member

/-- When all calls have returned, it is as if each of them had been made at one go, in the order in
which they came. -/
theorem Sound.state_eq (sound : o.Sound) (all : ∀ bid ∈ o.bids, bid.returned = true) :
    o.state = ({} : CancelState).cancelAll (o.bids.map Bid.cause) := by
  apply CancelState.eq_of_parts
  · rw [CancelState.cause_cancelAll, sound.cause, Option.none_or]
  -- That some call has returned says no more now than that there is one.
  · rw [CancelState.tripped_cancelAll, Bool.false_or, Bool.eq_iff_iff, sound.tripped]
    cases given : o.bids with
    | nil => simp
    | cons bid rest => simp [all bid (given ▸ List.mem_cons_self)]

end Overlap

end Supervision

namespace Scenario.Contexts

open Supervision

/-- The contexts after operations. -/
def after (ops : List ContextOp) (s : Contexts) : Contexts :=
  (run ops s).2

/-- One context of one run, with a handle. -/
def opened : Contexts := after [.init] {}

/-- The cause that an operation brings to a run, if it is a call through one of the handles of the
run. -/
def called (r : RunId) (op : ContextOp) (s : Contexts) : Option Cause :=
  match op with
  | .cancel handle cause => if s.handles[handle]? = some r then some cause else none
  | _ => none

/-- The causes of the calls on a run, in order. -/
def calls (r : RunId) : List ContextOp → Contexts → List Cause
  | [], _ => []
  | op :: rest, s => (s.called r op).toList ++ calls r rest (s.step op).2

/-- Whatever is referred to is there. -/
structure Sound (s : Contexts) : Prop where
  begun : 0 < s.states.length
  contexts : ∀ r ∈ s.contexts, r < s.states.length
  handles : ∀ r ∈ s.handles, r < s.states.length

variable {s : Contexts} {r : RunId} {op : ContextOp} {ops more : List ContextOp}

/-- Without operations nothing is done. -/
@[simp] theorem after_nil (s : Contexts) : s.after [] = s := rfl

/-- Operations are done one after another. -/
theorem after_cons (op : ContextOp) (rest : List ContextOp) (s : Contexts) :
    s.after (op :: rest) = (s.step op).2.after rest := rfl

/-- The run of a context is there, that of no context being the first of all. -/
theorem Sound.runOf_lt (sound : s.Sound) (context : Nat) : s.runOf context < s.states.length := by
  unfold runOf
  cases found : s.contexts[context]? with
  | none => exact sound.begun
  | some r => exact sound.contexts r (List.mem_of_getElem? found)

/-- Whatever is referred to stays there, and what is new refers to what is there. -/
theorem Sound.step (sound : s.Sound) (op : ContextOp) : (s.step op).2.Sound := by
  -- A reference is only added to a run that a context refers to already, or to one that is new.
  have among (refs : List RunId) (inside : ∀ r ∈ refs, r < s.states.length) (context : Nat) :
      ∀ r ∈ refs ++ [s.runOf context], r < s.states.length :=
    List.forall_mem_append.mpr ⟨inside, by simpa using sound.runOf_lt context⟩
  cases op with
  | init =>
    have wider (refs : List RunId) (inside : ∀ r ∈ refs, r < s.states.length) :
        ∀ r ∈ refs ++ [s.states.length], r < (s.states ++ [({} : CancelState)]).length := by
      intro r member
      rw [List.length_append, List.length_singleton]
      obtain member | member := List.mem_append.mp member
      · exact Nat.lt_succ_of_lt (inside r member)
      · rw [List.mem_singleton.mp member]
        exact Nat.lt_succ_self _
    exact ⟨by simp [Contexts.step], wider _ sound.contexts, wider _ sound.handles⟩
  | clone context => exact ⟨sound.begun, among _ sound.contexts context, sound.handles⟩
  | handle context => exact ⟨sound.begun, sound.contexts, among _ sound.handles context⟩
  | cancel handle cause =>
    simp only [Contexts.step, cancel]
    split
    · exact sound
    · exact ⟨by simpa using sound.begun, by simpa using sound.contexts,
        by simpa using sound.handles⟩
  | _ => exact ⟨sound.begun, sound.contexts, sound.handles⟩

/-- So it does through any operations. -/
theorem Sound.after (sound : s.Sound) (ops : List ContextOp) : (s.after ops).Sound := by
  induction ops generalizing s with
  | nil => exact sound
  | cons op rest ih => exact ih (sound.step op)

/-- The first context and its handle refer to the run that was opened with them. -/
theorem sound_opened : opened.Sound := by
  refine ⟨by decide, ?_, ?_⟩ <;> decide

/-- Only calls change the state of a run, and each of them that of its own run. -/
theorem Sound.stateOf_step (sound : s.Sound) (op : ContextOp) (r : RunId) :
    (s.step op).2.stateOf r = (s.stateOf r).cancelAll (s.called r op).toList := by
  cases op with
  | init =>
    -- The run that is new has no state yet, which reads the same as the one that it is given.
    simp only [Contexts.step, stateOf, called]
    rw [List.getElem?_append]
    split
    · rfl
    · rename_i beyond
      rw [List.getElem?_eq_none (Nat.le_of_not_lt beyond), List.getElem?_singleton]
      split <;> rfl
  | cancel handle cause =>
    simp only [Contexts.step, cancel, called]
    cases found : s.handles[handle]? with
    | none => rfl
    | some other =>
      -- The run that is called is there, so that its state is changed and no other.
      have within : other < s.states.length := sound.handles other (List.mem_of_getElem? found)
      simp only [stateOf, List.getElem?_set, if_pos within, Option.some.injEq]
      by_cases same : other = r
      · subst same
        simp [CancelState.cancelAll]
      · simp [same, CancelState.cancelAll]
  | _ => rfl

/-- The calls of all operations come to a run in their order. -/
theorem Sound.stateOf_after (sound : s.Sound) (ops : List ContextOp) (r : RunId) :
    (s.after ops).stateOf r = (s.stateOf r).cancelAll (s.calls r ops) := by
  induction ops generalizing s with
  | nil => rfl
  | cons op rest ih =>
    rw [after_cons, ih (sound.step op), sound.stateOf_step, calls, CancelState.cancelAll_append]

/-- A call is counted if the run had no cause yet. -/
theorem cancellations_step (op : ContextOp) (s : Contexts) (r : RunId) :
    (s.step op).2.trace.cancellations r = s.trace.cancellations r ++
      if (s.stateOf r).cause.isNone = true then (s.called r op).toList else [] := by
  cases op with
  | cancel handle cause =>
    simp only [Contexts.step, cancel, called]
    cases found : s.handles[handle]? with
    | none => simp
    | some other =>
      simp only [Trace.cancellations, List.filterMap_append, CancelState.first_cancel,
        Option.some.injEq]
      refine congrArg (s.trace.filterMap _ ++ ·) ?_
      -- A call for another run is counted there, and a further one for this run not at all.
      by_cases same : other = r
      · subst same
        cases (s.stateOf other).cause <;> simp [Event.cancellation?]
      · cases (s.stateOf other).cause <;> simp [Event.cancellation?, same]
  | _ => simp [Contexts.step, called]

/-- Of the calls on a run that has no cause the first is counted, and no other. -/
theorem Sound.cancellations_after (sound : s.Sound) (ops : List ContextOp) (r : RunId) :
    (s.after ops).trace.cancellations r = s.trace.cancellations r ++
      if (s.stateOf r).cause.isNone = true then (s.calls r ops).head?.toList else [] := by
  -- By induction on the operations: behind a call there is a cause, and nothing more is counted.
  induction ops generalizing s with
  | nil => simp [calls]
  | cons op rest ih =>
    rw [after_cons, ih (sound.step op), cancellations_step, sound.stateOf_step,
      CancelState.cause_cancelAll, calls]
    cases s.called r op <;> cases (s.stateOf r).cause <;> simp

/-- A token that was derived stays that of its run, and is cancelled by itself if that is asked
for. -/
theorem children_step {child : Nat} {c : Child} (found : s.children[child]? = some c)
    (op : ContextOp) :
    (s.step op).2.children[child]? =
      some { c with cancelled := c.cancelled || decide (op = .cancelChild child) } := by
  have within : child < s.children.length := (List.getElem?_eq_some_iff.mp found).1
  -- Only two operations concern derived tokens: one derives another token, and one cancels a token.
  cases op with
  | child context =>
    simp only [Contexts.step]
    rw [List.getElem?_append_left within, found]
    simp
  | cancelChild other =>
    simp only [Contexts.step]
    rw [List.getElem?_modify, found]
    by_cases same : other = child
    · simp [same]
    · simp [same]
  | cancel handle cause =>
    simp only [Contexts.step, cancel]
    split <;> simpa using found
  | _ => simpa [Contexts.step] using found

/-- So it stays through any operations. -/
theorem children_after {child : Nat} {c : Child} (found : s.children[child]? = some c)
    (ops : List ContextOp) :
    (s.after ops).children[child]? =
      some { c with cancelled := c.cancelled || decide (.cancelChild child ∈ ops) } := by
  -- A token that is cancelled once stays so, which is what `or` says.
  induction ops generalizing s c with
  | nil => simpa using found
  | cons op rest ih =>
    rw [after_cons, ih (children_step found op)]
    simp [Bool.or_assoc, eq_comm]

/-- References are only ever added. -/
theorem references_step (op : ContextOp) (s : Contexts) :
    s.contexts <+: (s.step op).2.contexts ∧ s.handles <+: (s.step op).2.handles := by
  -- One case for each operation; a call adds none, however it comes out.
  cases op with
  | init => exact ⟨List.prefix_append _ _, List.prefix_append _ _⟩
  | clone context => exact ⟨List.prefix_append _ _, List.prefix_rfl⟩
  | handle context => exact ⟨List.prefix_rfl, List.prefix_append _ _⟩
  | cancel handle cause =>
    simp only [Contexts.step, cancel]
    split <;> exact ⟨List.prefix_rfl, List.prefix_rfl⟩
  | _ => exact ⟨List.prefix_rfl, List.prefix_rfl⟩

/-- So it is through any operations. -/
theorem references_after (ops : List ContextOp) (s : Contexts) :
    s.contexts <+: (s.after ops).contexts ∧ s.handles <+: (s.after ops).handles := by
  induction ops generalizing s with
  | nil => exact ⟨List.prefix_rfl, List.prefix_rfl⟩
  | cons op rest ih =>
    obtain ⟨contexts, handles⟩ := references_step op s
    obtain ⟨contexts', handles'⟩ := ih (s.step op).2
    exact ⟨contexts.trans contexts', handles.trans handles'⟩

/-- What the holders of runs share, after calls with these causes on each run. -/
structure Shared (brought : RunId → List Cause) (s : Contexts) : Prop where
  /-- A run is cancelled exactly if there was a call on it, -/
  cancelled : ∀ r, (s.stateOf r).tripped = true ↔ brought r ≠ []
  /-- its cause is that of the first call, and there is none as long as there was no call, -/
  cause : ∀ r, (s.stateOf r).cause = (brought r).head?
  /-- and the first call is the one that is counted. -/
  counted : ∀ r, s.trace.cancellations r = (brought r).head?.toList
  /-- Every context shows the state of its run, -/
  shown : ∀ context, (s.step (.state context)).1 =
    .state (s.stateOf (s.runOf context)).tripped (s.stateOf (s.runOf context)).cause
  /-- every handle shows whether its run is cancelled, -/
  handled : ∀ handle r, s.handles[handle]? = some r →
    (s.step (.handleState handle)).1 = .flag (s.stateOf r).tripped
  /-- and a call answers whether it is the first of its run, which is cancelled from then on, and
  does not touch others. -/
  call : ∀ handle r cause, s.handles[handle]? = some r →
    (s.step (.cancel handle cause)).1 = .flag (brought r).isEmpty ∧
      ((s.step (.cancel handle cause)).2.stateOf r).tripped = true ∧
      ∀ other ≠ r, (s.step (.cancel handle cause)).2.stateOf other = s.stateOf other
  /-- Whatever happens to a run that is cancelled, its state stays. -/
  lasting : ∀ r more, (s.stateOf r).tripped = true → (s.after more).stateOf r = s.stateOf r
  /-- A clone of a context is one of the same run for ever, -/
  clone : ∀ context more, (s.step (.clone context)).1 = .index s.contexts.length ∧
    ((s.step (.clone context)).2.after more).runOf s.contexts.length = s.runOf context
  /-- and so is a handle. -/
  handle : ∀ context more, (s.step (.handle context)).1 = .index s.handles.length ∧
    ((s.step (.handle context)).2.after more).handles[s.handles.length]? = some (s.runOf context)
  /-- A token that is derived, be the run cancelled or not, is cancelled exactly if the run is or if
  it was itself. -/
  child : ∀ context more, (s.step (.child context)).1 = .index s.children.length ∧
    (((s.step (.child context)).2.after more).isChildCancelled s.children.length = true ↔
      (((s.step (.child context)).2.after more).stateOf (s.runOf context)).tripped = true ∨
        .cancelChild s.children.length ∈ more)
  /-- To cancel a token changes neither a run nor another token. -/
  sibling : ∀ child, (∀ r, (s.step (.cancelChild child)).2.stateOf r = s.stateOf r) ∧
    ∀ other ≠ child, (s.step (.cancelChild child)).2.isChildCancelled other =
      s.isChildCancelled other

/-- A call tells whether its run had no cause yet. -/
theorem step_cancel_answer {handle : Nat} (found : s.handles[handle]? = some r) (cause : Cause) :
    (s.step (.cancel handle cause)).1 = .flag (s.stateOf r).cause.isNone := by
  simp only [step, cancel, found, CancelState.first_cancel]

/-- It leaves its run cancelled, -/
theorem Sound.tripped_step_cancel {handle : Nat} (sound : s.Sound)
    (found : s.handles[handle]? = some r) (cause : Cause) :
    ((s.step (.cancel handle cause)).2.stateOf r).tripped = true := by
  rw [sound.stateOf_step, CancelState.tripped_cancelAll]
  simp [called, found]

/-- and the others as they are. -/
theorem Sound.stateOf_step_cancel {handle : Nat} (sound : s.Sound)
    (found : s.handles[handle]? = some r) (cause : Cause) {other : RunId} (apart : other ≠ r) :
    (s.step (.cancel handle cause)).2.stateOf other = s.stateOf other := by
  rw [sound.stateOf_step]
  simp [called, found, apart.symm, CancelState.cancelAll]

/-- A token that has just been derived has not been cancelled by itself. -/
theorem isChildCancelled_after_child (context : Nat) (more : List ContextOp) (s : Contexts) :
    ((s.step (.child context)).2.after more).isChildCancelled s.children.length = true ↔
      (((s.step (.child context)).2.after more).stateOf (s.runOf context)).tripped = true ∨
        .cancelChild s.children.length ∈ more := by
  have derived : (s.step (.child context)).2.children[s.children.length]? =
    some ⟨s.runOf context, false⟩ :=
    List.getElem?_concat_length
  -- It stays where it is, marked if it is cancelled later.
  rw [isChildCancelled, children_after derived more]
  simp [or_comm]

/-- To cancel a token leaves all others as they are. -/
theorem isChildCancelled_step_cancelChild {child other : Nat} (apart : other ≠ child)
    (s : Contexts) :
    (s.step (.cancelChild child)).2.isChildCancelled other = s.isChildCancelled other := by
  simp only [isChildCancelled, step, List.getElem?_modify, if_neg apart.symm, stateOf]
  cases s.children[other]? <;> rfl

/-- A clone refers to the run of the context that it was made of, whatever is done later. -/
theorem runOf_after_clone (context : Nat) (more : List ContextOp) (s : Contexts) :
    ((s.step (.clone context)).2.after more).runOf s.contexts.length = s.runOf context := by
  obtain ⟨added, grown⟩ := (references_after more (s.step (.clone context)).2).1
  rw [runOf, ← grown]
  simp [step]

/-- So does a handle. -/
theorem handles_after_handle (context : Nat) (more : List ContextOp) (s : Contexts) :
    ((s.step (.handle context)).2.after more).handles[s.handles.length]? =
      some (s.runOf context) := by
  obtain ⟨added, grown⟩ := (references_after more (s.step (.handle context)).2).2
  rw [← grown]
  simp [step]

/-- In the beginning no run is cancelled. -/
theorem stateOf_opened (r : RunId) : opened.stateOf r = {} := by
  cases r <;> rfl

/-- The state of a run is what its calls have made of it. -/
theorem stateOf_after_opened (ops : List ContextOp) (r : RunId) :
    (opened.after ops).stateOf r = ({} : CancelState).cancelAll (opened.calls r ops) := by
  rw [sound_opened.stateOf_after, stateOf_opened]

/-- The cause of a run is that of the first call on it. -/
theorem cause_after_opened (ops : List ContextOp) (r : RunId) :
    ((opened.after ops).stateOf r).cause = (opened.calls r ops).head? := by
  rw [stateOf_after_opened, CancelState.cause_cancelAll, Option.none_or]

/-- A run is cancelled exactly if there was a call on it. -/
theorem tripped_after_opened (ops : List ContextOp) (r : RunId) :
    ((opened.after ops).stateOf r).tripped = true ↔ opened.calls r ops ≠ [] := by
  rw [stateOf_after_opened, CancelState.tripped_cancelAll]
  simp

/-- A run that is cancelled has a cause, and nothing changes its state any more. -/
theorem stateOf_after_tripped {ops : List ContextOp} {r : RunId}
    (tripped : ((opened.after ops).stateOf r).tripped = true) (more : List ContextOp) :
    ((opened.after ops).after more).stateOf r = (opened.after ops).stateOf r := by
  -- A call has cancelled it, and that call or one before has left a cause.
  have known : ((opened.after ops).stateOf r).cause.isSome = true := by
    rw [cause_after_opened, List.isSome_head?]
    exact (tripped_after_opened ops r).mp tripped
  rw [(sound_opened.after ops).stateOf_after, CancelState.cancelAll_eq_self known tripped]

/-- Whatever is done with contexts, handles and tokens, they share what the first calls have
brought. -/
theorem shared_after_opened (ops : List ContextOp) :
    Shared (fun r => opened.calls r ops) (opened.after ops) where
  cancelled := tripped_after_opened ops
  cause := cause_after_opened ops
  counted r := by
    rw [sound_opened.cancellations_after, stateOf_opened]
    rfl
  shown _ := rfl
  handled handle r found := by
    simp only [step, found, Option.getD_some]
  call handle r cause found := by
    have sound : (opened.after ops).Sound := sound_opened.after ops
    refine ⟨?_, sound.tripped_step_cancel found cause, fun other apart =>
      sound.stateOf_step_cancel found cause apart⟩
    -- The call is the first one exactly if the run has no cause, which is if there was no call.
    rw [step_cancel_answer found, cause_after_opened]
    cases opened.calls r ops <;> rfl
  lasting r more tripped := stateOf_after_tripped tripped more
  clone context more := ⟨rfl, runOf_after_clone context more _⟩
  handle context more := ⟨rfl, handles_after_handle context more _⟩
  child context more := ⟨rfl, isChildCancelled_after_child context more _⟩
  sibling child := ⟨fun _ => rfl, fun _ apart => isChildCancelled_step_cancelChild apart _⟩

end Scenario.Contexts

namespace Supervision

open Scenario

/-- The first call on a run decides, whoever makes it: in any sequence of operations, and also if
calls overlap. -/
structure FirstCallLaw : Prop where
  /-- Operations in any order leave contexts, handles and tokens with what the first call on their
  run has brought. -/
  inOrder :
    ∀ ops, Contexts.Shared (fun r => Contexts.opened.calls r ops) (Contexts.opened.after ops)
  /-- A call records its cause before it cancels the run. -/
  halves : ∀ (state : CancelState) cause, state.cancel cause =
    ((state.record cause).1, (state.record cause).2.trip)
  /-- Of calls that overlap the first to record its cause is told so, and whoever has returned finds
  the run cancelled. -/
  overlapping : ∀ o, Overlap.Reached o → o.Sound
  /-- Not even then is a run seen cancelled without a cause, -/
  seen : ∀ o, Overlap.Reached o → o.state.tripped = true → o.state.cause.isSome = true
  /-- and both are there to stay. -/
  lasting : ∀ o o', Overlap.Reached o → Relation.ReflTransGen Overlap.Step o o' →
    (∀ cause, o.state.cause = some cause → o'.state.cause = some cause) ∧
      (o.state.tripped = true → o'.state.tripped = true)
  /-- Once all have returned they might as well have come one after another. -/
  settled : ∀ o, Overlap.Reached o → (∀ bid ∈ o.bids, bid.returned = true) →
    o.state = ({} : CancelState).cancelAll (o.bids.map Bid.cause)

/-- The first call on a run gives it its cause and cancels it for good, and its tokens with it. -/
theorem first_call_decides : FirstCallLaw where
  inOrder := Contexts.shared_after_opened
  halves := CancelState.cancel_eq_record_trip
  overlapping _ reached := reached.sound
  seen _ reached := reached.sound.isSome_cause
  lasting _ _ _ := Overlap.keeps
  settled _ reached := reached.sound.state_eq

end Supervision

end Warden
