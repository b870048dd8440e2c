import Warden.Proofs.Supervision.Follow

/-!
Observers of a trace: each of them takes notice of some events, and of what lies between two worlds
it may see nothing.
-/

namespace Warden.Supervision

/-- What an observer makes of the events of a trace, in order. -/
def Trace.view {α : Type} (view : Event → Option α) (trace : Trace) : List α :=
  trace.filterMap fun stamped => view stamped.event

namespace Trace

variable {α : Type} (view : Event → Option α)

@[simp] theorem view_nil : Trace.view view [] = [] := rfl

@[simp] theorem view_append (before after : Trace) :
    Trace.view view (before ++ after) = before.view view ++ after.view view :=
  List.filterMap_append

@[simp] theorem view_stamped (time : Nat) (events : List Event) :
    Trace.view view (events.map (Stamped.mk time)) = events.filterMap view := by
  rw [Trace.view, List.filterMap_map]
  rfl

end Trace

namespace World

variable {α : Type} {view : Event → Option α} {w w₁ w₂ : World}

/-- Of all that was written between two worlds an observer has seen nothing. -/
def Unseen (view : Event → Option α) (w w' : World) : Prop :=
  ∃ later : Trace, w'.trace = w.trace ++ later ∧ later.view view = []

/-- Nothing was written that could be seen. -/
theorem Unseen.refl (w : World) : Unseen view w w :=
  ⟨[], (List.append_nil _).symm, rfl⟩

/-- What is unseen step by step is unseen as a whole. -/
theorem Unseen.trans (first : Unseen view w w₁) (second : Unseen view w₁ w₂) :
    Unseen view w w₂ := by
  obtain ⟨later₁, written₁, blind₁⟩ := first
  obtain ⟨later₂, written₂, blind₂⟩ := second
  exact ⟨later₁ ++ later₂, by rw [written₂, written₁, List.append_assoc], by simp [blind₁, blind₂]⟩

/-- Where nothing is written nothing is seen. -/
theorem Unseen.of_trace (same : w₁.trace = w.trace) : Unseen view w w₁ :=
  ⟨[], by rw [same, List.append_nil], rfl⟩

/-- An event that cannot be seen may be written. -/
theorem emit_unseen {event : Event} (blind : view event = none) : Unseen view w (w.emit event) :=
  ⟨[⟨w.now, event⟩], rfl, by simp [Trace.view, blind]⟩

/-- What an observer has seen, in order, since the trace ended there. -/
def Saw (view : Event → Option α) (before : Trace) (seen : List α) (w : World) : Prop :=
  ∃ later : Trace, w.trace = before ++ later ∧ later.view view = seen

variable {before : Trace} {seen : List α}

/-- What is seen of a longer trace is what was seen before and what is seen of the rest. -/
theorem Saw.append (saw : w.Saw view before seen) {more : Trace}
    (written : w₁.trace = w.trace ++ more) :
    w₁.Saw view before (seen ++ more.view view) := by
  obtain ⟨later, traced, rfl⟩ := saw
  exact ⟨later ++ more, by rw [written, traced, List.append_assoc],
    Trace.view_append view later more⟩

/-- Where nothing more can be seen, what was seen stays what it is. -/
theorem Saw.unseen (saw : w.Saw view before seen) (unseen : Unseen view w w₁) :
    w₁.Saw view before seen := by
  obtain ⟨more, written, blind⟩ := unseen
  have kept := saw.append written
  rwa [blind, List.append_nil] at kept

/-- There is only one thing that an observer has seen. -/
theorem Saw.unique {seen' : List α} (saw : w.Saw view before seen)
    (saw' : w.Saw view before seen') : seen' = seen := by
  obtain ⟨later, written, rfl⟩ := saw
  obtain ⟨later', written', rfl⟩ := saw'
  -- Two continuations of one trace to the same end are equal.
  rw [List.append_cancel_left (written.symm.trans written')]

/-- An act that writes only what an observer takes no notice of is not seen. -/
theorem Acts.unseen {may : Event → Prop} {party : Party} (acts : Acts may party w w₁)
    (blind : ∀ event, may event → view event = none) : Unseen view w w₁ := by
  obtain ⟨events, written, allowed⟩ := acts.trace
  refine ⟨events.map (Stamped.mk w.now), written, ?_⟩
  rw [Trace.view_stamped]
  exact List.filterMap_eq_nil_iff.mpr fun event member => blind event (allowed event member)

/-- A call that an observer takes no notice of is not seen, whether it was the first one or not. -/
theorem cancel_unseen {caller : Caller} {run : RunId} {cause : Cause}
    (call : view (.cancelCall caller run cause) = none)
    (plain : ∀ event : Event, event.isPlain = true → view event = none) :
    Unseen view w (w.cancel caller run cause).2 :=
  have acts : Acts (fun event => view event = none) .main w (w.cancel caller run cause).2 :=
    cancel_acts call (plain _ rfl) (plain _ rfl)
  acts.unseen fun _ blind => blind

end World

namespace Flow

open World

variable {α : Type} {view : Event → Option α}

/-- Whoever takes no notice of what tasks write sees nothing while the supervising flow waits or
plays a script. -/
theorem plays_unseen
    (tasks : ∀ (task : Task) (event : Event), task.MayWrite event → view event = none) :
    Lasting (fun w w' => ∃ actor, Plays actor w w') (Unseen view) where
  refl := .refl
  trans := .trans
  beats := by
    intro goal alarm w w' beats
    -- By the turns of the wait, each of which is the act of one task.
    refine Beats.invariant (I := Unseen view w) ?_ ?_ beats (.refl w)
    -- Between the turns nothing is written at all.
    · intro w₁ w₂ _ _ trace _ before
      exact before.trans (.of_trace trace)
    -- A turn writes what its task may write, of which nothing can be seen.
    · intro id w₁ before
      rcases poll_acts id w₁ with same | ⟨_, task, _, _, acts⟩
      · rwa [same]
      · exact before.trans (acts.unseen (tasks task))
  does :=
    fun ⟨_, plays⟩ => plays.acts.unseen fun event writes => tasks default event (.inl writes.1)

/-- Those that are abandoned are told of, and then asked to end, which leaves no trace. -/
theorem abandonDetached_unseen (abandoned : ∀ name, view (.notice .main (.abandoning name)) = none)
    (group : GroupId) (w : World) : Unseen view w (w.abandonDetached group) := by
  refine ⟨_, trace_abandonDetached group w, ?_⟩
  rw [Trace.view_stamped]
  refine List.filterMap_eq_nil_iff.mpr fun event member => ?_
  obtain ⟨start, _, rfl⟩ := List.mem_map.mp member
  exact abandoned start.1

/-- Whoever takes no notice of what groups tell and of their calls either sees nothing while a group
is waited for. -/
theorem waitGroup_unseen
    (tasks : ∀ (task : Task) (event : Event), task.MayWrite event → view event = none)
    (calls : ∀ run cause, view (.cancelCall .group run cause) = none)
    (warned : ∀ error, view (.notice .main (.furtherError error)) = none)
    (abandoned : ∀ name, view (.notice .main (.abandoning name)) = none) (group : GroupId) :
    (waitGroup group).Within (Unseen view) :=
  waitGroup_within (plays_unseen tasks) (fun _ _ => .of_trace rfl)
    (fun error _ => emit_unseen (warned error))
    (fun _ _ _ => cancel_unseen (calls _ _) fun event plain => tasks default event (.inl plain))
    (abandonDetached_unseen abandoned group)

/-- Whoever takes no notice of stops either sees nothing while services are stopped. -/
theorem stopAll_unseen
    (tasks : ∀ (task : Task) (event : Event), task.MayWrite event → view event = none)
    (stops : ∀ event : Event, event.ofStop = true → view event = none) (run : RunId)
    (timeout : Duration) :
    (stopAll run timeout).Within (Unseen view) :=
  stopAll_within ((plays_unseen tasks).mono fun ⟨_, plays⟩ => ⟨_, plays⟩)
    (fun _ said => emit_unseen (stops _ said))
    (fun _ _ => .of_trace rfl) timeout

/-- Whoever takes no notice of the launcher and of the log either sees nothing while the flow waits
or acts at once. -/
theorem steady_unseen
    (tasks : ∀ (task : Task) (event : Event), task.MayWrite event → view event = none)
    (calls : ∀ run cause, view (.cancelCall .launcher run cause) = none)
    (told : ∀ n, view (.notice .main n) = none) :
    Steady (Unseen view) where
  refl := .refl
  trans := .trans
  beats := (plays_unseen tasks).beats
  does := by
    intro w w' does
    -- The steps of a script are plays; what is left are the launcher's own calls and words.
    have played : ∀ {actor}, Plays actor w w' → Unseen view w w' :=
      fun plays => (plays_unseen tasks).does ⟨_, plays⟩
    cases does with
    | takes actor step => exact played (.takes step w)
    | settles actor wait ended => exact played (.settles wait ended)
    | forsakes actor wait => exact played (.forsakes wait w)
    | calls run cause =>
      exact cancel_unseen (calls run cause) fun event plain => tasks default event (.inl plain)
    | tells n => exact emit_unseen (told n)
    | awaits awaiting => exact .of_trace rfl

end Flow

end Warden.Supervision
