import Mathlib.Data.List.Basic
import Warden.Proofs.Supervision.Proceeding

/-!
What a group makes of the errors of its tasks: the first one, in the order in which tasks end,
decides.
-/

namespace Warden.Supervision

/-- Whether an event tells what a group does about an error of one of its tasks. -/
def Event.ofGroup : Event → Bool
  | .cancelCall .group _ _ | .notice .main (.furtherError _) => true
  | _ => false

/-- What groups have done about errors of their tasks, in order. -/
def Trace.grouped (trace : Trace) : List Event :=
  (trace.map (·.event)).filter (·.ofGroup)

@[simp] theorem Trace.grouped_append (before after : Trace) :
    grouped (before ++ after) = grouped before ++ grouped after := by
  simp [grouped]

@[simp] theorem Trace.grouped_nil : grouped [] = [] := rfl

/-- What a group does about an error that comes after another one. -/
def warning (error : RunError) : Event := .notice .main (.furtherError error)

/-- What a group does about errors that come after what it has had: the very first one cancels the
run. -/
def reactions (run : RunId) : Option RunError → List RunError → List Event
  | none, [] => []
  | none, first :: others => .cancelCall .group run (.taskFailed first.text) :: others.map warning
  | some _, errors => errors.map warning

/-- What a group does about one error after what it has had. -/
def reaction (run : RunId) (first : Option RunError) (error : RunError) : Event :=
  first.elim (.cancelCall .group run (.taskFailed error.text)) fun _ => warning error

/-- No error, no reaction. -/
theorem reactions_nil (run : RunId) (first : Option RunError) : reactions run first [] = [] := by
  cases first <;> rfl

/-- The first error has its reaction, and the others are noted beside it. -/
theorem reactions_cons (run : RunId) (first : Option RunError) (error : RunError)
    (others : List RunError) :
    reactions run first (error :: others) = reaction run first error ::
      reactions run (first.or (some error)) others := by
  cases first <;> rfl

/-- The reaction to an error is one of the group, whether it is a call or a warning. -/
theorem Trace.grouped_reaction (time : Nat) (run : RunId) (first : Option RunError)
    (error : RunError) (after : Trace) :
    grouped (⟨time, reaction run first error⟩ :: after) =
      reaction run first error :: grouped after := by
  have own : (reaction run first error).ofGroup = true := by cases first <;> rfl
  simp [grouped, own]

/-- No task writes what a group does. -/
theorem Task.MayWrite.ungrouped {task : Task} {event : Event} (writes : task.MayWrite event) :
    event.ofGroup = false := by
  rcases writes with plain | ⟨service, _, own⟩
  · -- One case for each kind of event: what is plain is neither a call of a group nor a warning.
    cases event with
    | cancelCall caller run cause => cases caller <;> simp_all [Event.isPlain, Event.ofGroup]
    | notice origin n => cases n <;> simp_all [Event.isPlain, Event.ofGroup]
    | _ => rfl
  -- What a start may write of its own is never a word of the group.
  · generalize task.aborted = dropped at own
    cases own <;> rfl

/-- Of what was found first, nothing else is left when it is taken out. -/
theorem filter_of_find? {ended left : List TaskId} {id : TaskId} (distinct : ended.Nodup)
    (once : left.Nodup) (found : ended.find? (· ∈ left) = some id) :
    ended.filter (· ∈ left) = id :: ended.filter (· ∈ left.erase id) := by
  -- By induction on those that have ended, up to the first one that is left.
  induction ended with
  | nil => simp at found
  | cons first rest ih =>
    obtain ⟨absent, distinct⟩ := List.nodup_cons.mp distinct
    by_cases member : first ∈ left
    · -- It is found here, and the others are those that were left anyway.
      have same : first = id := by simpa [member] using found
      subst same
      have others : rest.filter (· ∈ left) = rest.filter (· ∈ left.erase first) := by
        refine List.filter_congr fun other listed => ?_
        have different : other ≠ first := fun same => absent (same ▸ listed)
        simp [List.mem_erase_of_ne different]
      -- An identifier is looked for once, so that it is gone from those that are left.
      simp [member, others, once.not_mem_erase]
    -- One that is not left is passed over on either side.
    · have missing : first ∉ left.erase id := fun listed => member (List.mem_of_mem_erase listed)
      simp only [List.find?_cons, member, decide_false] at found
      simp [member, missing, ih distinct found]

namespace World

/-- The errors with which tasks of a list have ended, in the order of their ends. -/
def failures (ids : List TaskId) (w : World) : List RunError :=
  (w.finished.filter (· ∈ ids)).filterMap (w.errorOf ·)

@[simp] theorem failures_nil (w : World) : w.failures [] = [] := by
  have none_ : w.finished.filter (· ∈ ([] : List TaskId)) = [] :=
    List.filter_eq_nil_iff.mpr (by simp)
  rw [failures, none_]
  rfl

/-- A group has these tasks still to wait for, and the books are kept. -/
structure Awaiting (group : GroupId) (run : RunId) (left : List TaskId) (w : World) : Prop where
  awaited : w.awaited group = left
  listed : ∃ g, w.groups[group]? = some g
  once : left.Nodup
  opened : run < w.runs.length
  sound : w.Sound

variable {w w' w₁ : World} {group : GroupId} {run : RunId} {left : List TaskId} {id : TaskId}
  {goal : World → Bool} {alarm : Nat}

/-- What happens during a wait is nothing that a group does. -/
theorem Beat.ungrouped (beat : Beat goal alarm w w') :
    ∃ later : Trace, w'.trace = w.trace ++ later ∧ later.grouped = [] := by
  -- Only turns write anything, and what a task may write is none of a group.
  have silent : w'.trace = w.trace → ∃ later : Trace, w'.trace = w.trace ++ later ∧
    later.grouped = [] :=
    fun same => ⟨[], by rw [same, List.append_nil], rfl⟩
  cases beat with
  | turn id rest first early =>
    rcases poll_acts id { w with ready := rest } with same | ⟨_, task, _, _, acts⟩
    · exact silent (by rw [same])
    · obtain ⟨events, written, may⟩ := acts.trace
      have told : ((events.map (Stamped.mk w.now)).map (·.event)) = events := by
        simp [Function.comp_def]
      refine ⟨_, written, List.filter_eq_nil_iff.mpr fun event member => ?_⟩
      simp [(may event (told ▸ member)).ungrouped]
  -- Signals that come in are written nowhere; the forwarder that is woken has not had its turn yet.
  | arrive =>
    refine silent ?_
    unfold admitRaised
    split
    · exact trace_wakeAll [_] _
    · rfl
  | resume => exact silent (trace_wakeAll _ _)
  | tick idle still unmet early => exact silent (trace_wakeAll _ _)

/-- A whole wait says nothing that the group would have to say. -/
theorem Beats.ungrouped (beats : Beats goal alarm w w') :
    ∃ later : Trace, w'.trace = w.trace ++ later ∧ later.grouped = [] := by
  -- By induction on the beats of the wait.
  induction beats with
  | refl => exact ⟨[], (List.append_nil _).symm, rfl⟩
  | tail _ beat ih =>
    obtain ⟨before, written, silent⟩ := ih
    obtain ⟨after, written', silent'⟩ := beat.ungrouped
    exact ⟨before ++ after, by rw [written', written, List.append_assoc], by simp [silent, silent']⟩

/-- A group goes on waiting for the same tasks while nothing becomes of the groups. -/
theorem Awaiting.same (awaiting : w.Awaiting group run left) (groups : w'.groups = w.groups)
    (runs : w'.runs.length = w.runs.length) (sound : w'.Sound) : w'.Awaiting group run left where
  awaited := by
    rw [← awaiting.awaited, World.awaited, World.awaited, groups]
  listed := groups ▸ awaiting.listed
  once := awaiting.once
  opened := Nat.lt_of_lt_of_eq awaiting.opened runs.symm
  sound := sound

/-- A task that is released is waited for no more. -/
theorem Awaiting.release (awaiting : w.Awaiting group run left) (id : TaskId) :
    (w.release group id).Awaiting group run (left.erase id) := by
  obtain ⟨g, listed⟩ := awaiting.listed
  -- The group is the same but for the one task that it need not wait for any more.
  have listed' : (w.release group id).groups[group]? =
    some { g with awaited := g.awaited.erase id } := by
    simp [World.release, changeGroup, List.getElem?_modify_eq, listed]
  have awaited := awaiting.awaited
  simp only [World.awaited, listed, Option.map_some, Option.getD_some] at awaited
  refine ⟨?_, ⟨_, listed'⟩, awaiting.once.erase id, awaiting.opened,
    awaiting.sound.same rfl rfl rfl rfl⟩
  simp [World.awaited, listed', awaited]

/-- A task that has ended stays so, with the same error. -/
theorem Leads.ended (leads : Leads nobody w w') (ended : w.isEnded id = true) :
    w'.isEnded id = true ∧ w'.errorOf id = w.errorOf id := by
  simp only [isEnded, Option.any_eq_true] at ended
  obtain ⟨task, found, ended⟩ := ended
  obtain ⟨task', found', remains⟩ := leads.remains found
  have same := remains.ended ended
  refine ⟨by simp [isEnded, found', same, ended], by simp [errorOf, found, found', same]⟩

/-- The error of the task that is joined next comes first. -/
theorem failures_next (sound : w'.Sound) (once : left.Nodup)
    (next : w.finished.find? (· ∈ left) = some id) (leads : Leads nobody w w')
    (ended : w.isEnded id = true) :
    w'.failures left = (w.errorOf id).toList ++ w'.failures (left.erase id) := by
  -- Tasks that end later come behind it, and what has ended keeps its error.
  obtain ⟨more, same⟩ := leads.finished
  have found : w'.finished.find? (· ∈ left) = some id := by
    rw [same, List.find?_append, next]
    rfl
  rw [failures, failures, filter_of_find? sound.once once found, List.filterMap_cons,
    (leads.ended ended).2]
  cases w.errorOf id <;> rfl

end World

namespace Flow

open World

variable {w w' : World} {group : GroupId} {run : RunId} {left : List TaskId} {id : TaskId}
  {first : Option RunError}

/-- A wait ends when its goal is met, or it is cut off by the end of the process or of the time that
it has. -/
theorem await_yields (goal : World → Bool) : (await goal).Yields w
    (fun _ w' => Beats goal w.horizon w w' ∧ goal w' = true)
    (fun halt w' => Beats goal w.horizon w w' ∧
      ((∃ code, halt = .exited code ∧ w'.exited = some code) ∨
      halt = .stuck ∧ w'.horizon ≤ w'.now ∧ goal w' = false)) := by
  simp only [await, yields_bind]
  refine pause_yields (fun w' beats _ unmet => ?_) fun w' code beats gone =>
    ⟨beats, .inl ⟨code, rfl, gone⟩⟩
  -- The wait is over because its goal is met, or because no time is left for it.
  split
  -- The goal is looked at once more when the wait is over, so that it decides and not how the wait
  -- ended.
  · rename_i met
    exact ⟨beats, met⟩
  · rename_i open_
    have open_ : goal w' = false := by simpa using open_
    have reached : w'.horizon ≤ w'.now := by
      rw [beats.passes.horizon]
      exact unmet open_
    exact ⟨beats, .inr ⟨rfl, reached, open_⟩⟩

/-- What becomes of a world when a group takes in a task that has ended. -/
structure Takes (group : GroupId) (run : RunId) (left : List TaskId) (id : TaskId)
    (first : Option RunError) (w : World) (first' : Option RunError) (w' : World) : Prop where
  awaiting : w'.Awaiting group run (left.erase id)
  leads : Leads nobody w w'
  gives : first' = first.or (w.errorOf id)
  quiet : w.errorOf id = none → w'.trace = w.trace
  reacts : ∀ error, w.errorOf id = some error →
    ∃ after : Trace, w'.trace = w.trace ++ ⟨w.now, reaction run first error⟩ :: after ∧
      after.grouped = []

/-- Cancelling a run begins with the call, and what follows it is nothing that a group does. -/
theorem trace_cancel_group (opened : run < w.runs.length) (cause : Cause) :
    ∃ after : Trace, (w.cancel .group run cause).2.trace =
      w.trace ++ ⟨w.now, .cancelCall .group run cause⟩ :: after ∧
      after.grouped = [] := by
  unfold World.cancel
  rw [List.getElem?_eq_getElem opened]
  dsimp only
  -- It is counted if it is the first call for the run, and otherwise noted as one too many.
  split
  -- The call is the first, so that it is counted.
  · refine ⟨[⟨(w.trip .group run cause w.runs[run]).now, .count (.cancellation run cause)⟩],
      ?_, rfl⟩
    rw [World.emit, trace_trip, List.append_assoc]
    rfl
  -- It is not, so that the group says that somebody else had called before.
  · refine ⟨[⟨(w.trip .group run cause w.runs[run]).now, .notice .main (.cancelledAlready cause)⟩],
      ?_, rfl⟩
    rw [World.notice, World.emit, trace_trip, List.append_assoc]
    rfl

/-- Taking in a task that has ended cancels the run for the first error, and warns of each further
one. -/
theorem takeIn_yields (awaiting : w.Awaiting group run left) (first : Option RunError)
    (id : TaskId) :
    (takeIn group run first id).Yields w (Takes group run left id first w) fun _ _ => False := by
  -- First the task is released; then it depends on its error, and on whether there was one before.
  have released : (w.release group id).Awaiting group run (left.erase id) := awaiting.release id
  have leads : Leads nobody w (w.release group id) := changeGroup_leads _ _ w
  simp only [takeIn, yields_bind, yields_change, yields_look]
  have same : (w.release group id).errorOf id = w.errorOf id := rfl
  -- A task that ended well gives the group nothing to do.
  cases error : w.errorOf id with
  | none =>
    rw [same, error]
    exact ⟨released, leads, by simp [error], fun _ => rfl, by simp [error]⟩
  | some e =>
    rw [same, error]
    cases first with
    -- The first error is the one that the run is cancelled for.
    | none =>
      have acts :
        Acts (fun _ => True) .main (w.release group id)
          ((w.release group id).cancel .group run (.taskFailed e.text)).2 :=
        cancel_acts trivial trivial trivial
      have cancelled := released.same acts.groups acts.runs (acts.sound released.sound)
      refine ⟨cancelled, leads.tail (.calls _ _ _ rfl), by simp [error], by simp [error],
        fun error' same => ?_⟩
      cases error.symm.trans same
      exact trace_cancel_group released.opened _
    -- One error was enough; the others are warnings.
    | some first =>
      have acts :
        Acts (fun _ => True) .main (w.release group id)
          ((w.release group id).notice .main (.furtherError e)) :=
        emit_acts trivial rfl
      have noticed := released.same acts.groups acts.runs (acts.sound released.sound)
      refine ⟨noticed, leads.tail (.does (.tells _ _)), by simp, by simp [error],
        fun error' same => ?_⟩
      cases error.symm.trans same
      exact ⟨[], rfl, rfl⟩

/-- The error that decides does so at a time at which its task is joined: all that were joined
before have ended without an error, the group has done nothing yet, and the next thing that happens
is that it cancels the run. -/
structure DecidesAt (group : GroupId) (run : RunId) (left : List TaskId) (w w₁ : World)
    (error : RunError) (w' : World) : Prop where
  leads : Leads nobody w w₁
  next : ∃ id, w₁.nextEnded group = some id ∧ w₁.errorOf id = some error
  joined : ∀ other ∈ left, other ∉ w₁.awaited group → w₁.isEnded other = true ∧
    w₁.errorOf other = none
  quiet : ∃ before : Trace, w₁.trace = w.trace ++ before ∧ before.grouped = []
  called : ∃ after : Trace, w'.trace = w₁.trace ++
    ⟨w₁.now, .cancelCall .group run (.taskFailed error.text)⟩ :: after

/-- How the wait for the tasks of a group ends: all of them have ended, and their errors in order
have had their due. -/
structure JoinsAll (group : GroupId) (run : RunId) (left : List TaskId) (first : Option RunError)
    (w : World) (result : Option RunError) (w' : World) : Prop where
  ended : ∀ id ∈ left, w'.isEnded id = true
  gives : result = first.or (w'.failures left).head?
  reacts : ∃ later : Trace, w'.trace = w.trace ++ later ∧
    later.grouped = reactions run first (w'.failures left)
  decides : first = none → ∀ error, result = some error →
    ∃ w₁, DecidesAt group run left w w₁ error w'

/-- Why the wait for tasks does not end: the process is gone, or one of them has not ended when the
time is over. -/
def Unjoined (left : List TaskId) (halt : Halt) (w' : World) : Prop :=
  (∃ code, halt = .exited code ∧ w'.exited = some code) ∨
    halt = .stuck ∧ w'.horizon ≤ w'.now ∧ ∃ id ∈ left, w'.isEnded id = false

section Step

variable {w₁ w₂ : World} {before : Trace} {first' result : Option RunError}

/-- An error decides no earlier for a task that was joined before without an error. -/
theorem DecidesAt.later {w₃ : World} {error : RunError} (waiting : Leads nobody w w₁)
    (written : w₁.trace = w.trace ++ before) (silent : before.grouped = [])
    (ended : w₁.isEnded id = true) (fine : w₁.errorOf id = none) (leads : Leads nobody w₁ w₂)
    (same : w₂.trace = w₁.trace) (decides : DecidesAt group run (left.erase id) w₂ w₃ error w') :
    DecidesAt group run left w w₃ error w' where
  leads := (waiting.trans leads).trans decides.leads
  next := decides.next
  joined := by
    intro other member joined
    -- The task that was joined first stays ended and without an error; all others are still to be
    -- joined.
    by_cases same : other = id
    · obtain ⟨still, kept⟩ := Leads.ended (leads.trans decides.leads) ended
      subst same
      exact ⟨still, kept.trans fine⟩
    · exact decides.joined other ((List.mem_erase_of_ne same).mpr member) joined
  quiet := by
    obtain ⟨between, written', silent'⟩ := decides.quiet
    exact ⟨before ++ between, by rw [written', same, written, List.append_assoc],
      by simp [silent, silent']⟩
  called := decides.called

variable (awaiting : w₁.Awaiting group run left) (waiting : Leads nobody w w₁)
  (written : w₁.trace = w.trace ++ before) (silent : before.grouped = [])
  (next : w₁.nextEnded group = some id) (takes : Takes group run left id first w₁ first' w₂)
  (joins : JoinsAll group run (left.erase id) first' w₂ result w') (leads : Leads nobody w₂ w')
  (sound : w'.Sound)

include awaiting waiting written silent next takes joins leads sound in
/-- One more task that is joined first, whether it has ended with an error or not. -/
theorem JoinsAll.cons : JoinsAll group run left first w result w' := by
  -- The task that is joined now comes first among those that are left, and what the rest of the
  -- wait says of the others is kept.
  have later : Leads nobody w₁ w' := takes.leads.trans leads
  -- The task that is taken in is the first in the order of completion that is still left.
  have found : w₁.finished.find? (· ∈ left) = some id := by
    rw [← next, World.nextEnded, awaiting.awaited]
  have ended : w₁.isEnded id = true :=
    (awaiting.sound.finished id).mp (List.mem_of_find?_eq_some found)
  have failures : w'.failures left = (w₁.errorOf id).toList ++ w'.failures (left.erase id) :=
    failures_next sound awaiting.once found later ended
  obtain ⟨after, rest, grouped⟩ := joins.reacts
  have gives := takes.gives
  refine {
    ended := fun other member => ?_
    gives := ?_
    reacts := ?_
    decides := fun fresh error same => ?_ }
  · by_cases same : other = id
    · exact same ▸ (later.ended ended).1
    · exact joins.ended other ((List.mem_erase_of_ne same).mpr member)
  -- The error of the group is the first of all, in the order in which the tasks were taken in.
  · rw [joins.gives, gives, failures]
    cases first <;> cases w₁.errorOf id <;> simp
  -- The words of the group follow the errors, one by one, and nobody else has any.
  · rw [failures]
    cases error : w₁.errorOf id with
    | none =>
      rw [error, Option.or_none] at gives
      refine ⟨before ++ after, by rw [rest, takes.quiet error, written, List.append_assoc], ?_⟩
      rw [Trace.grouped_append, silent, grouped, gives]
      rfl
    | some e =>
      obtain ⟨told, called, quiet⟩ := takes.reacts e error
      refine ⟨before ++ ⟨w₁.now, reaction run first e⟩ :: (told ++ after),
        by rw [rest, called, written]; simp, ?_⟩
      rw [Trace.grouped_append, silent, Trace.grouped_reaction, Trace.grouped_append, quiet,
        grouped, gives, error]
      exact (reactions_cons run first e _).symm
  · -- The first error is that of this task, or of one that is joined later.
    -- A task without an error leaves the decision to a later one.
    cases own : w₁.errorOf id with
    | none =>
      rw [own, fresh] at gives
      obtain ⟨w₃, decides⟩ := joins.decides gives error same
      exact ⟨w₃, decides.later waiting written silent ended own takes.leads (takes.quiet own)⟩
    -- This is the first error, and the group cancels at the very moment it takes the task in.
    | some e =>
      have mine : error = e := by
        rw [joins.gives, gives, fresh, own] at same
        exact (Option.some.inj same).symm
      subst mine
      obtain ⟨told, called, _⟩ := takes.reacts error own
      refine ⟨w₁, waiting, ⟨id, next, own⟩, fun other member joined => ?_,
        ⟨before, written, silent⟩, told ++ after, ?_⟩
      · exact absurd (awaiting.awaited ▸ member) joined
      · rw [rest, called, fresh]
        simp [reaction]

end Step

/-- Tasks are joined in the order in which they end, and each error has its due. -/
theorem join_yields (count : Nat) (length : left.length = count)
    (awaiting : w.Awaiting group run left) (first : Option RunError) :
    (join group run count first).Yields w
      (fun result w' => JoinsAll group run left first w result w' ∧ Leads nobody w w' ∧
        w'.Awaiting group run [])
      (Unjoined left) := by
  -- By induction on the number of tasks that are left, along the joins.
  induction count generalizing w left first with
  | zero =>
    have none_ : left = [] := List.length_eq_zero_iff.mp length
    subst none_
    -- Nobody is left to be waited for.
    refine ⟨⟨by simp, by simp, ⟨[], (List.append_nil _).symm, ?_⟩, ?_⟩, .refl, awaiting⟩
    · rw [failures_nil, reactions_nil, Trace.grouped_nil]
    · intro fresh error same
      cases fresh.symm.trans same
  | succ count ih =>
    simp only [join, yields_bind, yields_look]
    refine (await_yields _).mono ?_ ?_
    -- One task has ended, and it is one of those that are left.
    · rintro _ w₁ ⟨beats, met⟩
      have awaiting₁ : w₁.Awaiting group run left :=
        awaiting.same beats.passes.groups beats.passes.runs (beats.passes.sound awaiting.sound)
      have waiting : Leads nobody w w₁ := steady_leads.beats beats
      obtain ⟨before, written, silent⟩ := beats.ungrouped
      obtain ⟨id, next⟩ := Option.isSome_iff_exists.mp met
      have member : id ∈ left := by
        have among := List.find?_some next
        rw [awaiting₁.awaited] at among
        simpa using among
      -- With it there is one task fewer.
      have shorter : (left.erase id).length = count := by
        rw [List.length_erase_of_mem member, length]
        rfl
      rw [next]
      simp only [yields_bind]
      refine (takeIn_yields awaiting₁ first id).mono ?_ fun _ _ never => never.elim
      intro first' w₂ takes
      refine (ih shorter takes.awaiting first').mono ?_ ?_
      · rintro result w' ⟨joins, leads, awaiting'⟩
        exact ⟨.cons awaiting₁ waiting written silent next takes joins leads awaiting'.sound,
          (waiting.trans takes.leads).trans leads, awaiting'⟩
      · rintro halt w' (gone | ⟨stuck, reached, other, member, open_⟩)
        · exact .inl gone
        · exact .inr ⟨stuck, reached, other, List.mem_of_mem_erase member, open_⟩
    · rintro halt w' ⟨beats, gone | ⟨stuck, reached, unmet⟩⟩
      · exact .inl gone
      · -- None of the tasks that are left has ended, and there is at least one.
        refine .inr ⟨stuck, reached, ?_⟩
        obtain ⟨other, member⟩ :=
          List.exists_mem_of_length_pos (Nat.lt_of_lt_of_eq (Nat.succ_pos count) length.symm)
        refine ⟨other, member, ?_⟩
        have awaiting' : w'.Awaiting group run left :=
          awaiting.same beats.passes.groups beats.passes.runs (beats.passes.sound awaiting.sound)
        rw [Option.isSome_eq_false_iff, Option.isNone_iff_eq_none, World.nextEnded,
          awaiting'.awaited, List.find?_eq_none] at unmet
        by_contra ended
        have listed : other ∈ w'.finished :=
          (awaiting'.sound.finished other).mpr (by simpa using ended)
        simpa [member] using unmet other listed

/-- Nothing ends, and nothing is done about errors. -/
def Silent (w w' : World) : Prop :=
  w'.finished = w.finished ∧ ∃ later : Trace, w'.trace = w.trace ++ later ∧ later.grouped = []

/-- Giving up the starts that are only tracked ends no task at once, and is nothing that is done
about errors. -/
theorem abandonDetached_silent (group : GroupId) (w : World) :
    Silent w (w.abandonDetached group) := by
  obtain ⟨_, _, _, _, same⟩ := abandonDetached_eq group w
  have finished : (w.abandonDetached group).finished = w.finished := by rw [same]
  refine ⟨finished, _, trace_abandonDetached group w, ?_⟩
  -- All that is written is that starts are abandoned.
  have quiet : ∀ event ∈ (unfinished group w).map abandoning, event.ofGroup = false := by
    intro event member
    obtain ⟨start, _, rfl⟩ := List.mem_map.mp member
    rfl
  rw [Trace.grouped, List.map_map, List.filter_eq_nil_iff]
  simpa [Function.comp_def] using quiet

/-- How a group that has been waited for ends, with the starts that it gives up. -/
theorem JoinsAll.abandons {w₁ : World} {result : Option RunError}
    (joins : JoinsAll group run left first w result w₁) (sound : w₁.Sound) :
    JoinsAll group run left first w result (w₁.abandonDetached group) := by
  -- No task ends by being asked to, so that the failures are the same, and nothing more is done
  -- about them.
  have leads : Leads nobody w₁ (w₁.abandonDetached group) := abandonDetached_leads group w₁
  obtain ⟨finished, later, written, quiet⟩ := abandonDetached_silent group w₁
  have failures : (w₁.abandonDetached group).failures left = w₁.failures left := by
    rw [failures, failures, finished]
    refine List.filterMap_congr fun id member => ?_
    exact (leads.ended ((sound.finished id).mp (List.mem_of_mem_filter member))).2
  obtain ⟨before, written', reacts⟩ := joins.reacts
  refine ⟨fun id member => (leads.ended (joins.ended id member)).1, failures ▸ joins.gives,
    ⟨before ++ later, ?_, ?_⟩, ?_⟩
  · rw [written, written', List.append_assoc]
  -- What is written about those that are dropped is no word of the group.
  · rw [Trace.grouped_append, reacts, quiet, List.append_nil, failures]
  · intro fresh error same
    obtain ⟨w₂, decides⟩ := joins.decides fresh error same
    obtain ⟨after, called⟩ := decides.called
    exact ⟨w₂, { decides with called := ⟨after ++ later, by rw [written, called]; simp⟩ }⟩

/-- A group that is waited for joins all of its tasks. -/
theorem waitGroup_joins {g : Group} (listed : w.groups[group]? = some g) (once : g.awaited.Nodup)
    (opened : g.run < w.runs.length) (sound : w.Sound) :
    (waitGroup group).Yields w (fun result w' => JoinsAll group g.run g.awaited none w result w' ∧
      w'.Sound)
      (Unjoined g.awaited) := by
  have awaiting : w.Awaiting group g.run g.awaited :=
    ⟨by simp [World.awaited, listed], ⟨g, listed⟩, once, opened, sound⟩
  simp only [waitGroup, yields_bind, yields_look, listed, yields_change, yields_pure]
  refine (join_yields _ rfl awaiting none).mono ?_ fun _ _ unjoined => unjoined
  rintro result w₁ ⟨joins, _, awaiting₁⟩
  -- The starts that are only tracked are given up afterwards.
  have leads : Leads nobody w₁ (w₁.abandonDetached group) := abandonDetached_leads group w₁
  exact ⟨joins.abandons awaiting₁.sound, leads.sound awaiting₁.sound⟩

end Flow

end Warden.Supervision
