import Warden.Proofs.Supervision.Line

/-!
What listeners owe: every signal that the channel accepts is taken once, and each one is answered as
it should be.
-/

namespace Warden.Supervision

/-- The run and the policy with which a listener was armed. -/
def Task.armed? (task : Task) : Option (RunId × Escalation) :=
  match task.duty with
  | .listener policy => some (task.actor.run, policy)
  | _ => none

/-- Whether a listener has heard a signal, by what it waits for. -/
def Wait.hasHeard : Wait → Bool
  | .delivery heard => heard
  | _ => false

/-- What a policy does with a signal. -/
def Escalation.answer (signal : Signal) : Escalation → List Event
  | .forceExit => [.notice .task (.forcingExit signal)]
  | .ignore => [.notice .task (.signalIgnored signal)]
  | .hook => [.notice .task (.signalEscalated signal), .deed (.escalated signal)]

/-- What a listener does with a signal: the first one cancels its own run, every further one goes to
its own policy. -/
def answer (armed : Option (RunId × Escalation)) (hasHeard : Bool) (signal : Signal) : List Event :=
  match armed with
  | none => []
  | some (run, policy) =>
    if hasHeard then policy.answer signal
    else [.notice .task (.signalReceived signal), .cancelCall .listener run (.signal signal)]

/-- All that listeners do with the signals that they take in order, where these have heard one
before. -/
def answers (armed : TaskId → Option (RunId × Escalation)) :
    List TaskId → List (TaskId × Signal) → List Event
  | _, [] => []
  | before, (id, signal) :: rest =>
    .handled id signal ::
      (answer (armed id) (decide (id ∈ before)) signal ++ answers armed (id :: before) rest)

variable {arms arms' : TaskId → Option (RunId × Escalation)}

/-- What is done with further signals depends on who has taken one before. -/
theorem answers_append (before : List TaskId) (taken more : List (TaskId × Signal)) :
    answers arms before (taken ++ more) =
      answers arms before taken ++ answers arms ((taken.map (·.1)).reverse ++ before) more := by
  -- Whoever takes a signal is one of those that have heard one when the next signal is taken.
  induction taken generalizing before with
  | nil => rfl
  | cons entry rest ih =>
    have later := ih (entry.1 :: before)
    simp only [List.cons_append, answers, later, List.append_assoc, List.map_cons,
      List.reverse_cons, List.nil_append]

/-- One more signal that is taken is answered behind the others, by whether its listener had heard
one. -/
theorem answers_concat (before : List TaskId) (taken : List (TaskId × Signal)) (id : TaskId)
    (signal : Signal) :
    answers arms before (taken ++ [(id, signal)]) =
      answers arms before taken ++
        .handled id signal :: answer (arms id) (decide (id ∈ taken.map (·.1) ∨ id ∈ before))
          signal := by
  have same : (id ∈ (taken.map (·.1)).reverse ++ before) =
    (id ∈ taken.map (·.1) ∨ id ∈ before) := by simp
  simp only [answers_append, answers, List.append_nil, same]

/-- Only those who take a signal, and whether they have heard one before, matter. -/
theorem answers_congr {before before' : List TaskId} {taken : List (TaskId × Signal)}
    (same : ∀ entry ∈ taken, arms' entry.1 = arms entry.1 ∧
      (entry.1 ∈ before' ↔ entry.1 ∈ before)) :
    answers arms' before' taken = answers arms before taken := by
  -- By induction on what is taken: whoever takes a signal has heard one from then on, by either
  -- account.
  induction taken generalizing before before' with
  | nil => rfl
  | cons entry rest ih =>
    obtain ⟨owner, heard⟩ := same entry List.mem_cons_self
    have others : answers arms' (entry.1 :: before') rest =
      answers arms (entry.1 :: before) rest := by
      -- The rest is told with this listener among those that have heard a signal.
      refine ih fun other member => ?_
      obtain ⟨owner, heard⟩ := same other (List.mem_cons_of_mem _ member)
      exact ⟨owner, by simp only [List.mem_cons, heard]⟩
    simp only [answers, owner, heard, others]

namespace World

/-- The listeners that have not ended. -/
def listening (w : World) (id : TaskId) : Option Task :=
  (w.task? id).filter (·.isListening)

/-- With what a task was armed, if it is a listener. -/
def armed (w : World) (id : TaskId) : Option (RunId × Escalation) :=
  (w.task? id).bind (·.armed?)

/-- Whether a task is a listener that nobody has asked to end. -/
def Armed (w : World) (id : TaskId) : Prop :=
  ∃ task, w.task? id = some task ∧ task.armed?.isSome = true ∧ task.aborted = false

/-- A listener that nobody has asked to end, and that was armed before all others of that kind. -/
def Foremost (w : World) (id : TaskId) : Prop :=
  w.Armed id ∧ ∀ other, w.Armed other → id ≤ other

/-- What holds of the signal channel and its listeners at any time, if listeners are armed as it is
allowed. -/
structure Attentive (allowed : RunId → Escalation → Prop) (w : World) : Prop where
  line : w.exited = none → Line w.listening w.ready w.channel
  turns : ∀ id ∈ w.ready, id < w.tasks.length
  kept : w.trace.accepted = w.trace.handled.map (·.2) ++ w.channel.slot.buffered
  answered : w.trace.heard = answers w.armed [] w.trace.handled
  known : ∀ entry ∈ w.trace.handled, (w.armed entry.1).isSome = true
  heard : ∀ id task, w.listening id = some task →
    task.wait.hasHeard = decide (id ∈ w.trace.handled.map (·.1))
  opened : ∀ id run policy, w.armed id = some (run, policy) →
    run < w.runs.length ∧ allowed run policy
  lasting : ∀ id task, w.task? id = some task → task.armed?.isSome = true → task.aborted = false →
    task.ending = none

variable {allowed : RunId → Escalation → Prop} {w w' : World} {id : TaskId} {task : Task}

/-- Whoever listens is a task of that number that listens. -/
theorem listening_eq_some :
    w.listening id = some task ↔ w.task? id = some task ∧ task.isListening = true :=
  Option.filter_eq_some_iff

/-- An arm is that of the task of that number. -/
theorem armed_eq_some {own : RunId × Escalation} :
    w.armed id = some own ↔ ∃ task, w.task? id = some task ∧ task.armed? = some own :=
  Option.bind_eq_some_iff

/-- A task without an arm is no listener. -/
theorem armed?_eq_none : task.armed? = none ↔ ∀ policy, task.duty ≠ .listener policy := by
  unfold Task.armed?
  cases task.duty <;> simp

/-- An arm is the duty of a listener and its run. -/
theorem armed?_eq_some {run : RunId} {policy : Escalation} :
    task.armed? = some (run, policy) ↔ task.duty = .listener policy ∧ task.actor.run = run := by
  unfold Task.armed?
  cases task.duty <;> simp [and_comm]

/-- A task that listens is a listener that has not ended. -/
theorem isListening_iff :
    task.isListening = true ↔ task.armed?.isSome = true ∧ task.ending = none := by
  unfold Task.isListening Task.armed?
  cases task.duty <;> simp [Option.isNone_iff_eq_none]

/-- Whoever listens is a task. -/
theorem within_of_listening (own : w.listening id = some task) : id < w.tasks.length :=
  (List.getElem?_eq_some_iff.mp (listening_eq_some.mp own).1).1

/-- Whoever is live is one of the tasks. -/
theorem within_of_isLive (live : w.isLive id = true) : id < w.tasks.length := by
  simp only [isLive, Option.any_eq_true] at live
  obtain ⟨task, found, _⟩ := live
  exact (List.getElem?_eq_some_iff.mp found).1

/-- A task that changes is armed as before if the change leaves its arms alone. -/
theorem armed_of_map {change : Task → Task} (same : w'.task? id = (w.task? id).map change)
    (kept : ∀ task, (change task).armed? = task.armed?) : w'.armed id = w.armed id := by
  rw [armed, armed, same]
  cases w.task? id with
  | none => rfl
  | some task => exact kept task

/-- Whoever is asked to end is marked, and listens until its turn comes. -/
theorem listening_abort (id : TaskId) (w : World) :
    (w.abort id).listening id = (w.listening id).map fun task => { task with aborted := true } := by
  rw [listening, listening, task?_abort]
  cases found : w.task? id with
  | none => rfl
  | some task =>
    -- The mark does not change whether the task listens.
    have still : ∀ aborted, ({ task with aborted } : Task).isListening = task.isListening :=
      fun _ => rfl
    simp only [Option.map_some, Option.filter_some, still]
    by_cases listens : task.isListening = true
    · simp [listens, (isListening_iff.mp listens).2]
    · simp [listens]

/-- A task that is asked to end does not keep others from listening. -/
theorem listening_abort_other {other : TaskId} (w : World) (different : other ≠ id) :
    (w.abort id).listening other = w.listening other := by
  rw [listening, listening, task?_abort]
  cases w.task? other <;> simp [different]

@[simp] theorem length_abort (id : TaskId) (w : World) :
    (w.abort id).tasks.length = w.tasks.length := by
  unfold World.abort
  split
  · rfl
  · rw [tasks_wake]
    exact List.length_modify ..

/-- Whoever is asked to end is woken, unless it has ended; nobody else is. -/
theorem ready_abort (id : TaskId) (w : World) : ∃ more, (w.abort id).ready = w.ready ++ more ∧
    (∀ other ∈ more, other ∉ w.ready ∧ w.isLive other = true) ∧
      (w.isLive id = true → id ∈ w.ready ++ more) := by
  unfold World.abort
  split
  -- A task that has ended is not woken, and it is not live.
  · rename_i ended
    refine ⟨[], (List.append_nil _).symm, by simp, fun live => ?_⟩
    cases found : w.task? id with
    | none => simp [isLive, found] at live
    | some task =>
      cases ending : task.ending <;> simp [isLive, isEnded, found, ending] at live ended
  · -- The mark does not change who has ended.
    have alive : ∀ other, (w.changeTask id fun task => { task with aborted := true }).isLive other =
      w.isLive other := by
      intro other
      simp only [isLive, task?, changeTask, List.getElem?_modify]
      split <;> cases w.tasks[other]? <;> rfl
    have woken : Feeds (w.changeTask id fun task => { task with aborted := true }) _ :=
      wake_feeds id
    obtain ⟨more, ready, fresh⟩ := woken.ready
    refine ⟨more, ready, fun other member => ?_, fun live => ?_⟩
    · obtain ⟨absent, live⟩ := fresh other member
      exact ⟨absent, (alive other).symm.trans live⟩
    · have due : id ∈ ((w.changeTask id fun task => { task with aborted := true }).wake id).ready :=
        mem_ready_wake ((alive id).trans live)
      rw [ready] at due
      exact due

namespace Attentive

/-- Where no listener takes a signal, listeners go on owing what they owe, whatever else changes. -/
theorem renew (attentive : Attentive allowed w)
    (line : w'.exited = none → Line w'.listening w'.ready w'.channel)
    (turns : ∀ id ∈ w'.ready, id < w'.tasks.length) (runs : w.runs.length ≤ w'.runs.length)
    (armed : ∀ id, w'.armed id = w.armed id)
    (waits : ∀ id task', w'.listening id = some task' → ∃ task, w.listening id = some task ∧
      task'.wait.hasHeard = task.wait.hasHeard)
    (lasting : ∀ id task, w'.task? id = some task → task.armed?.isSome = true →
      task.aborted = false → task.ending = none)
    (trace : ∃ later : Trace, w'.trace = w.trace ++ later ∧ later.handled = [] ∧ later.heard = [] ∧
      w'.channel.slot.buffered = w.channel.slot.buffered ++ later.accepted) :
    Attentive allowed w' := by
  obtain ⟨later, written, unhandled, unheard, slot⟩ := trace
  -- No signal was taken, so that everything that is owed for those that were is owed as before.
  have handled : w'.trace.handled = w.trace.handled := by
    rw [written, Trace.handled_append, unhandled, List.append_nil]
  refine { line, turns, lasting, kept := ?_, answered := ?_, known := ?_, heard := ?_,
           opened := ?_ }
  · rw [handled, written, Trace.accepted_append, attentive.kept, slot, List.append_assoc]
  · rw [handled, written, Trace.heard_append, unheard, List.append_nil, attentive.answered]
    exact (answers_congr fun entry _ => ⟨armed entry.1, Iff.rfl⟩).symm
  · intro entry member
    rw [handled] at member
    rw [armed]
    exact attentive.known entry member
  -- A listener has heard a signal exactly if it is among those that took one, now as before.
  · intro id task' own
    obtain ⟨task, own', same⟩ := waits id task' own
    rw [handled, same, attentive.heard id task own']
  · intro id run policy own
    rw [armed] at own
    obtain ⟨opened, may⟩ := attentive.opened id run policy own
    exact ⟨Nat.lt_of_lt_of_le opened runs, may⟩

/-- Where a listener takes the signal that lies in the channel and does with it what it owes, that
signal is owed no more. -/
theorem take (attentive : Attentive allowed w) {run : RunId} {policy : Escalation} {signal : Signal}
    (listening : w.listening id = some task) (own : w.armed id = some (run, policy))
    (full : w.channel.slot = .full signal) (empty : w'.channel.slot.buffered = [])
    (line : w'.exited = none → Line w'.listening w'.ready w'.channel)
    (turns : ∀ id ∈ w'.ready, id < w'.tasks.length) (runs : w'.runs.length = w.runs.length)
    (armed : ∀ id, w'.armed id = w.armed id)
    (hears : ∀ task', w'.listening id = some task' → task'.wait.hasHeard = true)
    (others : ∀ other, other ≠ id → w'.listening other = w.listening other)
    (lasting : ∀ id task, w'.task? id = some task → task.armed?.isSome = true →
      task.aborted = false → task.ending = none)
    (trace : ∃ later : Trace, w'.trace = w.trace ++ later ∧ later.accepted = [] ∧
      later.handled = [(id, signal)] ∧
      later.heard = .handled id signal :: answer (some (run, policy)) task.wait.hasHeard signal) :
    Attentive allowed w' ∧ w'.trace.handled = w.trace.handled ++ [(id, signal)] := by
  obtain ⟨later, written, unaccepted, taken, heard⟩ := trace
  have handled : w'.trace.handled = w.trace.handled ++ [(id, signal)] := by
    rw [written, Trace.handled_append, taken]
  refine ⟨{ line, turns, lasting, kept := ?_, answered := ?_, known := ?_, heard := ?_,
            opened := ?_ }, handled⟩
  · -- The signal that lay in the channel has been taken.
    rw [handled, written, Trace.accepted_append, unaccepted, empty, attentive.kept, full]
    simp [Slot.buffered]
  · -- What it waited for tells whether the listener had heard one, as does what was taken before.
    have before : answers w'.armed [] w.trace.handled = answers w.armed [] w.trace.handled :=
      answers_congr fun entry _ => ⟨armed entry.1, Iff.rfl⟩
    have flag : decide (id ∈ w.trace.handled.map (·.1) ∨ id ∈ ([] : List TaskId)) =
      task.wait.hasHeard := by
      rw [attentive.heard id task listening]
      simp
    rw [handled, answers_concat, before, armed, own, flag, written, Trace.heard_append, heard,
      attentive.answered]
  -- The listener that took the signal now is known like those before it.
  · intro entry member
    rw [handled] at member
    rw [armed]
    rcases List.mem_append.mp member with before | last
    · exact attentive.known entry before
    · cases List.mem_singleton.mp last
      rw [own]
      rfl
  -- The listener itself has heard a signal now, and for all others nothing is new.
  · intro other task' own'
    rw [handled]
    by_cases same : other = id
    · subst same
      rw [hears task' own']
      simp
    · rw [others other same] at own'
      rw [attentive.heard other task' own']
      simp [same]
  · intro other run' policy' own'
    rw [armed] at own'
    rw [runs]
    exact attentive.opened other run' policy' own'

/-- Where no listener has changed at all, only the line is left to be looked after. -/
theorem renew_same (attentive : Attentive allowed w)
    (same : ∀ id task, task.armed?.isSome = true →
      (w'.task? id = some task ↔ w.task? id = some task))
    (line : w'.exited = none → Line w.listening w'.ready w'.channel)
    (turns : ∀ id ∈ w'.ready, id < w'.tasks.length) (runs : w.runs.length ≤ w'.runs.length)
    (trace : ∃ later : Trace, w'.trace = w.trace ++ later ∧ later.handled = [] ∧ later.heard = [] ∧
      w'.channel.slot.buffered = w.channel.slot.buffered ++ later.accepted) :
    Attentive allowed w' := by
  -- The listeners are the same, with the same arms, so that they owe what they did.
  have listening : w'.listening = w.listening := by
    funext id
    refine Option.ext fun task => ?_
    rw [listening_eq_some, listening_eq_some]
    exact and_congr_left fun listens => same id task (isListening_iff.mp listens).1
  have armed : ∀ id, w'.armed id = w.armed id := by
    intro id
    refine Option.ext fun arms => ?_
    rw [armed_eq_some, armed_eq_some]
    exact exists_congr fun task => and_congr_left fun own => same id task (by simp [own])
  refine attentive.renew (by rw [listening]; exact line) turns runs armed (fun id task own => ?_)
    (fun id task found => ?_) trace
  · rw [listening] at own
    exact ⟨task, own, rfl⟩
  · intro isListener
    exact attentive.lasting id task ((same id task isListener).mp found) isListener

/-- All turns are those of tasks, also once live tasks are woken. -/
theorem turns_append (attentive : Attentive allowed w) {more : List TaskId}
    (live : ∀ id ∈ more, w.isLive id = true) :
    ∀ id ∈ w.ready ++ more, id < w.tasks.length := by
  intro id member
  rcases List.mem_append.mp member with before | later
  · exact attentive.turns id before
  · exact within_of_isLive (live id later)

/-- What others do at the channel leaves listeners as they are. -/
theorem feeds (attentive : Attentive allowed w) (feeds : Feeds w w')
    (runs : w.runs.length ≤ w'.runs.length) :
    Attentive allowed w' := by
  -- Nobody's place in the line changes, and whoever serves is woken for a signal that comes in.
  obtain ⟨more, ready, woken⟩ := feeds.ready
  have found : ∀ id, w'.task? id = w.task? id := fun id => by simp only [task?, feeds.tasks]
  refine attentive.renew_same (fun id task _ => by rw [found]) (fun going => ?_)
    (fun id member => ?_) runs feeds.trace
  · rw [ready]
    refine (attentive.line (feeds.exited ▸ going)).feed feeds.holder feeds.listeners
      (fun id member => (woken id member).1) ?_
    -- Where the channel was empty and is full now, the one who serves was woken.
    intro empty full id task holds own
    obtain ⟨found, listens⟩ := listening_eq_some.mp own
    rw [← ready]
    exact feeds.woken empty full id holds (by simp [isLive, found, (isListening_iff.mp listens).2])
  · rw [ready] at member
    rw [feeds.tasks]
    exact attentive.turns_append (fun id later => (woken id later).2) id member

/-- A task that does not listen and has its turn leaves listeners as they are. -/
theorem pop (attentive : Attentive allowed w) {rest : List TaskId} (first : w.ready = id :: rest)
    (other : w.listening id = none) : Attentive allowed { w with ready := rest } := by
  refine attentive.renew_same (fun _ _ _ => Iff.rfl) (fun going => ?_) (fun id' member => ?_)
    (Nat.le_refl _)
    ⟨[], (List.append_nil _).symm, rfl, rfl, (List.append_nil _).symm⟩
  · have line := attentive.line going
    rw [first] at line
    exact line.pop other
  · exact attentive.turns id' (first ▸ List.mem_cons_of_mem _ member)

/-- A task of another kind that changes itself is no listener before and after. -/
theorem beside (attentive : Attentive allowed w) (found : w.task? id = some task)
    (other : task.armed? = none) (beside : FeedsBeside id w w')
    (runs : w.runs.length ≤ w'.runs.length) : Attentive allowed w' := by
  -- First the channel is fed, and then a task changes that is no listener.
  obtain ⟨w₁, change, finished, feeds, kept, rfl⟩ := beside
  have attentive₁ := attentive.feeds feeds runs
  have found₁ : w₁.task? id = some task := by simpa only [task?, feeds.tasks] using found
  have strange : (change task).armed? = none := by
    -- It keeps its duty, and with it stays no listener.
    rw [armed?_eq_none] at other ⊢
    rw [kept]
    exact other
  refine attentive₁.renew_same (fun id' task' isListener => ?_) attentive₁.line
    (fun id' member => ?_) (Nat.le_refl _)
    ⟨[], (List.append_nil _).symm, rfl, rfl, (List.append_nil _).symm⟩
  · simp only [task?] at found₁ ⊢
    simp only [changeTask, List.getElem?_modify]
    by_cases same : id = id'
    · subst same
      -- Neither what the task was nor what it is now is a listener.
      simp only [found₁, if_true, Option.map_eq_map, Option.map_some, Option.some.injEq]
      refine ⟨fun same => ?_, fun same => ?_⟩
      · rw [← same, strange] at isListener
        contradiction
      · rw [← same, other] at isListener
        contradiction
    · simp [same]
  · simpa [changeTask] using attentive₁.turns id' member

/-- The first turn of a task that is spawned is that of a task. -/
theorem turns_spawn (attentive : Attentive allowed w) (task : Task) :
    ∀ id ∈ (w.spawn task).2.ready, id < (w.spawn task).2.tasks.length := by
  intro id member
  simp only [World.spawn, List.length_append, List.length_singleton] at member ⊢
  rcases List.mem_append.mp member with before | last
  · exact Nat.lt_succ_of_lt (attentive.turns id before)
  · cases List.mem_singleton.mp last
    exact Nat.lt_succ_self _

/-- A task that is spawned and does not listen leaves listeners as they are. -/
theorem spawn (attentive : Attentive allowed w) (task : Task) (other : task.armed? = none) :
    Attentive allowed (w.spawn task).2 := by
  -- The number of the new task is none of a listener, neither before nor after.
  refine attentive.renew_same (fun id' task' isListener => ?_) (fun going => ?_)
    (attentive.turns_spawn task) (Nat.le_refl _)
    ⟨[], (List.append_nil _).symm, rfl, rfl, (List.append_nil _).symm⟩
  · rw [task?_spawn]
    split
    · rename_i same
      subst same
      have beyond : w.task? w.tasks.length = none := List.getElem?_eq_none (Nat.le_refl _)
      rw [beyond]
      refine ⟨fun same => ?_, fun absent => ?_⟩
      · rw [← Option.some.inj same, other] at isListener
        contradiction
      · contradiction
    · rfl
  · -- Its first turn comes after all that are due.
    refine (attentive.line going).feed rfl rfl (fun id' member due => ?_) fun empty full =>
      absurd empty full
    cases List.mem_singleton.mp member
    exact Nat.lt_irrefl _ (attentive.turns _ due)

/-- A listener that is armed has heard nothing yet, and comes last. -/
theorem arm (attentive : Attentive allowed w) {run : RunId} {policy : Escalation}
    (opened : run < w.runs.length) (may : allowed run policy) :
    Attentive allowed (w.spawn (listenerTask run policy)).2 := by
  -- All that is owed is about others, since nobody of this number has taken a signal.
  have beyond : w.task? w.tasks.length = none := List.getElem?_eq_none (Nat.le_refl _)
  have own : (w.spawn (listenerTask run policy)).2.listening w.tasks.length =
    some (listenerTask run policy) :=
    listening_eq_some.mpr ⟨by rw [task?_spawn, if_pos rfl], rfl⟩
  have others : ∀ other, other ≠ w.tasks.length →
      (w.spawn (listenerTask run policy)).2.task? other = w.task? other :=
    fun other different => by rw [task?_spawn, if_neg different]
  have armed : ∀ other, other ≠ w.tasks.length → (w.spawn (listenerTask run policy)).2.armed other =
    w.armed other :=
    fun other different => by simp only [World.armed, others other different]
  have strange : ∀ entry ∈ w.trace.handled, entry.1 ≠ w.tasks.length := by
    intro entry member same
    have known := attentive.known entry member
    rw [same, World.armed, beyond] at known
    contradiction
  refine {
    line := fun going => ?_, turns := attentive.turns_spawn _, kept := attentive.kept
    answered := ?_, known := fun entry member => ?_, heard := fun id' task own' => ?_
    opened := fun id' run' policy' own' => ?_, lasting := fun id' task found => ?_ }
  -- It comes to the line with its first turn.
  · refine (attentive.line going).arm (fun due => ?_) rfl rfl
      (fun other task own => within_of_listening own) own ?_
    · exact Nat.lt_irrefl _ (attentive.turns _ due)
    · intro other different
      simp only [listening, others other different]
  · refine attentive.answered.trans (answers_congr fun entry member => ?_)
    exact ⟨(armed entry.1 (strange entry member)).symm, Iff.rfl⟩
  · have member : entry ∈ w.trace.handled := member
    rw [armed entry.1 (strange entry member)]
    exact attentive.known entry member
  -- It has heard nothing, and nothing was taken under its number.
  · by_cases same : id' = w.tasks.length
    · subst same
      cases own.symm.trans own'
      refine (decide_eq_false fun member => ?_).symm
      obtain ⟨entry, listed, same⟩ := List.mem_map.mp member
      exact strange entry listed same
    · refine attentive.heard id' task ?_
      simpa only [listening, others id' same] using own'
  -- Its own run is there by assumption, and the others' were before.
  · by_cases same : id' = w.tasks.length
    · subst same
      obtain ⟨task, found, arms⟩ := armed_eq_some.mp own'
      rw [task?_spawn, if_pos rfl] at found
      cases found
      cases arms
      exact ⟨opened, may⟩
    · rw [armed id' same] at own'
      exact attentive.opened id' run' policy' own'
  · rw [task?_spawn] at found
    split at found
    · cases found
      exact fun _ _ => rfl
    · exact attentive.lasting id' task found

/-- A listener that is asked to end goes on owing what it owes until its turn comes. -/
theorem abort (attentive : Attentive allowed w) (id : TaskId) : Attentive allowed (w.abort id) := by
  have marked := task?_abort id w
  obtain ⟨more, ready, fresh, woken⟩ := ready_abort id w
  obtain ⟨exited, channel, runs, trace⟩ : (w.abort id).exited = w.exited ∧
      (w.abort id).channel = w.channel ∧ (w.abort id).runs = w.runs ∧
      (w.abort id).trace = w.trace := by
    obtain ⟨tasks, ready, whole⟩ := abortAll_eq [id] w
    have whole : w.abort id = { w with tasks, ready } := whole
    rw [whole]
    exact ⟨rfl, rfl, rfl, rfl⟩
  -- The task is marked, and nothing else becomes of it.
  have before : ∀ {id' : TaskId} {task' : Task}, (w.abort id).task? id' = some task' →
      ∃ task, w.task? id' = some task ∧ task'.armed? = task.armed? ∧ task'.wait = task.wait ∧
        task'.ending = task.ending ∧ (task'.aborted = false → task.aborted = false) := by
    intro id' task' found
    rw [marked] at found
    obtain ⟨task, found', rfl⟩ := Option.map_eq_some_iff.mp found
    refine ⟨task, found', rfl, rfl, rfl, fun unasked => ?_⟩
    exact (Bool.or_eq_false_iff.mp unasked).1
  refine attentive.renew (fun going => ?_) (fun id' member => ?_) (Nat.le_of_eq ?_) (fun id' => ?_)
    (fun id' task' own => ?_) (fun id' task' found isListener unasked => ?_) ?_
  · rw [ready, channel]
    refine (attentive.line (exited ▸ going)).mark id (fun id' member => (fresh id' member).1)
      (fun task own => ?_)
      (listening_abort id w) fun other different => listening_abort_other w different
    -- A listener that has not ended is woken for its last turn.
    obtain ⟨found, listens⟩ := listening_eq_some.mp own
    exact woken (by simp [isLive, found, (isListening_iff.mp listens).2])
  · rw [ready] at member
    rw [length_abort]
    exact attentive.turns_append (fun other later => (fresh other later).2) id' member
  · rw [runs]
  · exact armed_of_map (marked id') fun _ => rfl
  -- Whoever listens now was listening with the same wait.
  · obtain ⟨found, listens⟩ := listening_eq_some.mp own
    obtain ⟨task, found', arms, waits, live, _⟩ := before found
    refine ⟨task, listening_eq_some.mpr ⟨found', ?_⟩, congrArg _ waits⟩
    rw [isListening_iff] at listens ⊢
    rwa [← arms, ← live]
  -- Nobody has ended by being asked to.
  · obtain ⟨task, found', arms, _, live, kept⟩ := before found
    rw [live]
    exact attentive.lasting id' task found' (arms ▸ isListener) (kept unasked)
  · refine ⟨[], by rw [trace, List.append_nil], rfl, rfl, ?_⟩
    rw [channel]
    exact (List.append_nil _).symm

end Attentive

end World

end Warden.Supervision
