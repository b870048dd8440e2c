import Warden.Proofs.Supervision.Answering

/-!
The turns of listeners: each takes what lies in the channel if it is its turn to serve, and leaves
the line if it is asked to end.
-/

namespace Warden.Supervision

namespace World

variable {allowed : RunId → Escalation → Prop} {w w' w₁ w₂ : World} {id : TaskId} {task : Task}
  {run : RunId} {policy : Escalation} {signal : Signal} {acts : List Event} {rest : List TaskId}

/-- A listener takes the signal that lies in the channel and has acted on it; its wait is still to
be noted. -/
structure Hears (id : TaskId) (signal : Signal) (acts : List Event) (w w' : World) : Prop where
  tasks : w'.tasks = w.tasks
  holder : w'.channel.holder = w.channel.holder
  listeners : w'.channel.listeners = w.channel.listeners
  runs : w'.runs.length = w.runs.length
  empty : w'.channel.slot.buffered = []
  ready : ∃ more, w'.ready = w.ready ++ more ∧ ∀ id ∈ more, id ∉ w.ready ∧ w.isLive id = true
  trace : ∃ later : Trace, w'.trace = w.trace ++ later ∧ later.accepted = [] ∧
    later.handled = [(id, signal)] ∧
    later.heard = .handled id signal :: acts

namespace Hears

/-- What is written afterwards counts as an act if it is one of a listener. -/
theorem emit (hears : Hears id signal acts w w₁) {event : Event} (unfed : event.accepted? = none)
    (untaken : event.handled? = none) :
    Hears id signal (acts ++ if event.ofListener then [event] else []) w (w₁.emit event) := by
  -- What is written is added to each of the accounts that it belongs to.
  obtain ⟨later, written, unaccepted, taken, heard⟩ := hears.trace
  refine { hears with trace := ⟨later ++ [⟨w₁.now, event⟩], ?_, ?_, ?_, ?_⟩ }
  · rw [World.emit, written, List.append_assoc]
  -- It is no signal put into the channel, since it is the act of a listener or neither.
  · rw [Trace.accepted_append, unaccepted, Trace.accepted_singleton, unfed]
    rfl
  · have quiet : Trace.handled [⟨w₁.now, event⟩] = [] := by simp [Trace.handled, untaken]
    rw [Trace.handled_append, taken, quiet, List.append_nil]
  · rw [Trace.heard_append, heard, Trace.heard_singleton]
    rfl

/-- An act of the listener comes last. -/
theorem tell (hears : Hears id signal acts w w₁) (event : Event) (own : event.ofListener = true)
    (untaken : event.handled? = none) : Hears id signal (acts ++ [event]) w (w₁.emit event) := by
  have unfed : event.accepted? = none := by
    cases event <;> simp_all [Event.ofListener, Event.accepted?]
  have told := hears.emit unfed untaken
  rwa [if_pos own] at told

/-- Waking others afterwards changes nothing of what was done. -/
theorem wakeAll (hears : Hears id signal acts w w₁) (ids : List TaskId) :
    Hears id signal acts w (w₁.wakeAll ids) := by
  have feeds : Feeds w₁ (w₁.wakeAll ids) := wakeAll_feeds ids
  obtain ⟨more, ready, fresh⟩ := hears.ready
  obtain ⟨more', ready', fresh'⟩ := feeds.ready
  obtain ⟨due, same⟩ := wakeAll_eq (w := w₁) ids
  -- Only the list of due turns grows, and by live tasks that were not on it.
  refine { hears with
    tasks := feeds.tasks.trans hears.tasks
    holder := feeds.holder.trans hears.holder
    listeners := feeds.listeners.trans hears.listeners
    runs := ?_
    empty := ?_
    ready := ⟨more ++ more', ?_, ?_⟩
    trace := ?_ }
  · rw [same]
    exact hears.runs
  · rw [same]
    exact hears.empty
  · rw [ready', ready, List.append_assoc]
  · intro other member
    rcases List.mem_append.mp member with early | late
    · exact fresh other early
    · obtain ⟨absent, live⟩ := fresh' other late
      refine ⟨fun due => absent (ready ▸ List.mem_append_left _ due), ?_⟩
      simpa only [isLive, task?, hears.tasks] using live
  · rw [trace_wakeAll]
    exact hears.trace

/-- Cancelling its own run is an act of the listener, whether or not the run was cancelled
before. -/
theorem cancel (hears : Hears id signal acts w w₁) (cause : Cause) (opened : run < w.runs.length) :
    Hears id signal (acts ++ [.cancelCall .listener run cause]) w
      (w₁.cancel .listener run cause).2 := by
  -- Only the call itself is of the listener; that waiters are woken and that the call is counted or
  -- noted is not.
  have called : Hears id signal (acts ++ [.cancelCall .listener run cause]) w
      (w₁.emit (.cancelCall .listener run cause)) := hears.tell _ rfl rfl
  have tripped :
    ∀ r, Hears id signal (acts ++ [.cancelCall .listener run cause]) w
      (w₁.trip .listener run cause r) := by
    intro r
    have changed : Hears id signal (acts ++ [.cancelCall .listener run cause]) w
        ((w₁.emit (.cancelCall .listener run cause)).changeRun run fun _ =>
          ⟨(r.state.cancel cause).2, []⟩) :=
      { called with runs := (List.length_modify ..).trans called.runs }
    exact changed.wakeAll r.waiters
  have quiet : ∀ {event : Event}, event.ofListener = false → event.accepted? = none →
    event.handled? = none → ∀ {w₂ : World},
      Hears id signal (acts ++ [.cancelCall .listener run cause]) w w₂ →
        Hears id signal (acts ++ [.cancelCall .listener run cause]) w (w₂.emit event) := by
    intro event unheard unfed untaken w₂ hears
    have told := hears.emit unfed untaken
    simpa only [unheard, Bool.false_eq_true, if_false, List.append_nil] using told
  unfold World.cancel
  rw [List.getElem?_eq_getElem (hears.runs ▸ opened)]
  dsimp only
  split
  · exact quiet rfl rfl rfl (tripped _)
  · exact quiet rfl rfl rfl (tripped _)

/-- What the policy does is an act of the listener. -/
theorem escalate (hears : Hears id signal acts w w₁) (policy : Escalation) :
    Hears id signal (acts ++ policy.answer signal) w (w₁.escalate policy signal) := by
  -- One case for each policy: each tells first what it does, and the hook leaves its mark behind
  -- that.
  cases policy with
  | forceExit =>
    have told :
      Hears id signal (acts ++ [.notice .task (.forcingExit signal)]) w
        (w₁.notice .task (.forcingExit signal)) :=
      hears.tell _ rfl rfl
    exact { told with }
  | ignore => exact hears.tell _ rfl rfl
  | hook =>
    have told : Hears id signal (acts ++ [.notice .task (.signalEscalated signal)]) w
        (w₁.notice .task (.signalEscalated signal)) := hears.tell _ rfl rfl
    have hooked :
      Hears id signal (acts ++ [.notice .task (.signalEscalated signal)] ++
        [.deed (.escalated signal)]) w
        ((w₁.notice .task (.signalEscalated signal)).emit (.deed (.escalated signal))) :=
          told.tell _ rfl rfl
    rw [List.append_assoc] at hooked
    exact hooked

end Hears

/-- Taking the signal that lies there frees its place, or promises it to the next sender. -/
theorem vacate_hears (id : TaskId) (signal : Signal) :
    Hears id signal [] w (w.vacate.emit (.handled id signal)) := by
  have handled : ∀ w₁ : World, w₁.trace = w.trace → ∃ later : Trace,
      (w₁.emit (.handled id signal)).trace = w.trace ++ later ∧ later.accepted = [] ∧
        later.handled = [(id, signal)] ∧
        later.heard = [.handled id signal] :=
    fun w₁ same => ⟨[⟨w₁.now, .handled id signal⟩], by rw [emit, same], rfl, rfl, rfl⟩
  unfold vacate
  split
  · exact ⟨rfl, rfl, rfl, rfl, rfl, ⟨[], (List.append_nil _).symm, by simp⟩, handled _ rfl⟩
  · rename_i party others _
    -- Waking the sender changes nothing but the turns that are due.
    have woken : Feeds _ ((w.changeChannel fun c =>
        { c with slot := .promised party, senders := others }).wakeParty party) :=
      wakeParty_feeds party
    have same : ∃ ready, (w.changeChannel fun c =>
        { c with slot := .promised party, senders := others }).wakeParty party =
      { w.changeChannel fun c =>
          { c with slot := .promised party, senders := others } with ready } := by
      cases party with
      | main => exact ⟨w.ready, rfl⟩
      | task other => exact wakeAll_eq [other]
    obtain ⟨ready, same⟩ := same
    rw [same] at woken ⊢
    exact ⟨rfl, rfl, rfl, rfl, rfl, woken.ready, handled _ rfl⟩

/-- A listener that finds a signal takes it, does with it what it owes, and waits for the next
one. -/
theorem listen_hears (id : TaskId) (policy : Escalation) (full : w.channel.slot = .full signal)
    (opened : run < w.runs.length) (hasHeard : Bool) :
    ∃ w₁, Hears id signal (answer (some (run, policy)) hasHeard signal) w w₁ ∧
      w.listen id run policy hasHeard = w₁.changeTask id fun t =>
        { t with wait := .delivery true } := by
  -- Whether it has heard a signal before decides between the two answers.
  have taken : Hears id signal [] w (w.vacate.emit (.handled id signal)) := vacate_hears id signal
  simp only [listen, full]
  cases hasHeard with
  | true => exact ⟨_, taken.escalate policy, rfl⟩
  | false =>
    have told : Hears id signal [.notice .task (.signalReceived signal)] w
        ((w.vacate.emit (.handled id signal)).notice .task (.signalReceived signal)) :=
          taken.tell _ rfl rfl
    exact ⟨_, told.cancel (.signal signal) opened, rfl⟩

/-- Signals that were newly taken in a step were taken by the foremost listener. -/
def Heeded (w w' : World) : Prop :=
  ∃ later, w'.trace.handled = w.trace.handled ++ later ∧ ∀ entry ∈ later, w.Foremost entry.1

/-- Where no signal was taken there is nothing to show. -/
theorem heeded_of_unhandled {later : Trace} (written : w'.trace = w.trace ++ later)
    (unhandled : later.handled = []) :
    Heeded w w' :=
  ⟨[], by rw [written, Trace.handled_append, unhandled], by simp⟩

/-- Where nothing was written there is nothing to show either. -/
theorem heeded_of_same (same : w'.trace = w.trace) : Heeded w w' :=
  ⟨[], by rw [same, List.append_nil], by simp⟩

/-- What becomes of the tasks if one of them is changed. -/
theorem task?_of_modify {change : Task → Task} (same : w'.tasks = w.tasks.modify id change)
    (other : TaskId) :
    w'.task? other = if id = other then (w.task? other).map change else w.task? other := by
  simp only [task?, same, List.getElem?_modify]
  split <;> simp

namespace Attentive

/-- A listener that nobody has asked to end goes on listening. -/
theorem listening_of_armed (attentive : Attentive allowed w) (armed : w.Armed id) :
    ∃ task, w.listening id = some task ∧ w.task? id = some task := by
  obtain ⟨task, found, isListener, unasked⟩ := armed
  refine ⟨task, listening_eq_some.mpr ⟨found, isListening_iff.mpr ⟨isListener, ?_⟩⟩, found⟩
  exact attentive.lasting id task found isListener unasked

/-- A listener at whose turn nobody else holds the receiving end is the foremost one. -/
theorem foremost (attentive : Attentive allowed w) (going : w.exited = none)
    (first : w.ready = id :: rest) (armed : w.Armed id)
    (head : w.channel.holder = some id ∨ w.channel.holder = none) : w.Foremost id := by
  refine ⟨armed, fun other armed' => ?_⟩
  have line := attentive.line going
  rw [first] at line
  obtain ⟨task, own, _⟩ := attentive.listening_of_armed armed
  obtain ⟨task', own', _⟩ := attentive.listening_of_armed armed'
  -- It stands at the head of the line, either because it holds the receiving end or because it is
  -- the next to come.
  rcases head with holds | free
  · have ahead : lineUp w.listening (id :: rest) w.channel =
        id :: (w.channel.listeners ++ (id :: rest).filter (isComing w.listening)) := by
          simp [lineUp, holds]
    exact line.le_of_head ahead own'
  · have listless := line.free free
    have fresh : task.wait = .fresh :=
      line.fresh_of_outside own (by simp [free]) (by simp [listless])
    have ahead : lineUp w.listening (id :: rest) w.channel =
      id :: rest.filter (isComing w.listening) := by
      simp [lineUp, free, listless, isComing_of_fresh own fresh]
    exact line.le_of_head ahead own'

/-- The turns that are due after a turn are those of tasks. -/
theorem turns_of_rest (attentive : Attentive allowed w) (first : w.ready = id :: rest)
    {more : List TaskId} (live : ∀ other ∈ more, w.isLive other = true) :
    ∀ other ∈ rest ++ more, other < w.tasks.length := by
  intro other member
  have due : other ∈ w.ready ++ more := first ▸ List.mem_cons_of_mem id member
  -- The turn that is over was the first, so that all others were due before or are new.
  exact attentive.turns_append live other due

/-- What listeners were armed with stays if one task changes and its arms do not. -/
theorem armed_of_modify {change : Task → Task} (same : w'.tasks = w.tasks.modify id change)
    (kept : ∀ task, (change task).armed? = task.armed?) (other : TaskId) :
    w'.armed other = w.armed other := by
  have found := task?_of_modify same other
  split at found
  · exact armed_of_map found kept
  · rw [World.armed, World.armed, found]

/-- The listeners stay the same if one of them waits for something else. -/
theorem listening_of_wait {wait : Wait}
    (same : w'.tasks = w.tasks.modify id fun t => { t with wait }) (other : TaskId) :
    w'.listening other = if id = other then (w.listening other).map fun t =>
      { t with wait } else w.listening other := by
  rw [listening, listening, task?_of_modify same]
  split
  · cases found : w.task? other with
    | none => rfl
    | some task =>
      have still : ({ task with wait } : Task).isListening = task.isListening := rfl
      simp only [Option.map_some, Option.filter_some, still]
      split <;> rfl
  · rfl

/-- A listener that nobody asked to end does not end by waiting for something else. -/
theorem lasting_of_wait (attentive : Attentive allowed w) {wait : Wait}
    (same : w'.tasks = w.tasks.modify id fun t => { t with wait }) (other : TaskId) (task : Task)
    (found : w'.task? other = some task) (isListener : task.armed?.isSome = true)
    (unasked : task.aborted = false) :
    task.ending = none := by
  rw [task?_of_modify same] at found
  split at found
  · obtain ⟨task, found', rfl⟩ := Option.map_eq_some_iff.mp found
    exact attentive.lasting other task found' isListener unasked
  · exact attentive.lasting other task found isListener unasked

section Turn

variable (attentive : Attentive allowed w) (going : w.exited = none) (first : w.ready = id :: rest)
  (found : w.task? id = some task) (own : task.armed? = some (run, policy))
  (unasked : task.aborted = false)

include attentive found own unasked in
/-- The task whose turn it is listens. -/
theorem listens : w.listening id = some task := by
  have isListener : task.armed?.isSome = true := by simp [own]
  exact listening_eq_some.mpr
    ⟨found, isListening_iff.mpr ⟨isListener, attentive.lasting id task found isListener unasked⟩⟩

include attentive first found own unasked in
/-- Where a listener changes what it waits for without taking a signal, it has not heard more than
before. -/
theorem rewait {wait : Wait} (channel : Channel) (slot : channel.slot = w.channel.slot)
    (heard : wait.hasHeard = task.wait.hasHeard)
    (line : w.exited = none → ∀ listening',
      (∀ other, other ≠ id → listening' other = w.listening other) →
      listening' id = some { task with wait } → Line listening' rest channel) :
    Attentive allowed (({ w with ready := rest, channel } : World).changeTask id fun t =>
      { t with wait }) := by
  -- Only its own wait is new, and it tells as before whether the listener has heard a signal.
  have listening := attentive.listens found own unasked
  have same :
    (({ w with ready := rest, channel } : World).changeTask id fun t => { t with wait }).tasks =
      w.tasks.modify id fun t => { t with wait } := rfl
  have mine := listening_of_wait same id
  rw [if_pos rfl, listening] at mine
  refine attentive.renew (fun going => line going _ (fun other different => ?_) mine)
    (fun other member => ?_) (Nat.le_refl _)
    (armed_of_modify same fun _ => rfl) (fun other task' own' => ?_)
      (attentive.lasting_of_wait same) ?_
  · rw [listening_of_wait same, if_neg fun equal => different equal.symm]
  · rw [same, List.length_modify]
    exact attentive.turns other (first ▸ List.mem_cons_of_mem _ member)
  · rw [listening_of_wait same] at own'
    split at own'
    · rename_i equal
      subst equal
      rw [listening] at own'
      cases own'
      exact ⟨task, listening, heard⟩
    · exact ⟨task', own', rfl⟩
  · exact ⟨[], (List.append_nil _).symm, rfl, rfl, by simp [changeTask, slot]⟩

include attentive going first found own unasked in
/-- A listener that has taken the signal that lay in the channel owes it no more, and waits for the
next one. -/
theorem heed (head : w.channel.holder = some id ∨ w.channel.holder = none)
    (full : w.channel.slot = .full signal)
    (hears : Hears id signal (answer (some (run, policy)) task.wait.hasHeard signal)
      { w with ready := rest, channel := { w.channel with holder := some id } } w₁) :
    Attentive allowed (w₁.changeTask id fun t => { t with wait := .delivery true }) ∧
      Heeded w (w₁.changeTask id fun t => { t with wait := .delivery true }) := by
  -- Everything about the listener but its wait is as before, and everybody else is untouched.
  have listening := attentive.listens found own unasked
  have line := attentive.line going
  rw [first] at line
  have armed : w.armed id = some (run, policy) := armed_eq_some.mpr ⟨task, found, own⟩
  have same : (w₁.changeTask id fun t => { t with wait := .delivery true }).tasks =
      w.tasks.modify id fun t => { t with wait := .delivery true } := by
    rw [changeTask, hears.tasks]
  have mine : (w₁.changeTask id fun t => { t with wait := .delivery true }).listening id =
      some { task with wait := .delivery true } := by
    rw [listening_of_wait same, if_pos rfl, listening]
    rfl
  have others : ∀ other, other ≠ id →
      (w₁.changeTask id fun t => { t with wait := .delivery true }).listening other =
        w.listening other :=
    fun other different => by rw [listening_of_wait same, if_neg fun equal => different equal.symm]
  obtain ⟨more, ready, fresh⟩ := hears.ready
  -- The signal is owed no more, and the line is served by the one that took it.
  have taken : Attentive allowed (w₁.changeTask id fun t => { t with wait := .delivery true }) ∧
      (w₁.changeTask id fun t => { t with wait := .delivery true }).trace.handled =
        w.trace.handled ++ [(id, signal)] := by
    refine attentive.take listening armed full hears.empty (fun _ => ?_)
      (fun other member => ?_) hears.runs
      (armed_of_modify same fun _ => rfl) (fun task' own' => ?_) others
        (attentive.lasting_of_wait same) hears.trace
    · have line' : Line (w₁.changeTask id fun t => { t with wait := .delivery true }).listening
        (rest ++ more) w₁.channel :=
        line.serve listening others (fun other member => (fresh other member).1) head unasked mine
          (hears.holder.trans rfl) hears.listeners hears.empty
      rw [← ready] at line'
      exact line'
    · rw [same, List.length_modify]
      have member : other ∈ w₁.ready := member
      rw [ready] at member
      exact attentive.turns_of_rest first (fun other member => (fresh other member).2) other member
    · cases mine.symm.trans own'
      rfl
  -- One signal was taken, and by the one who held the receiving end or found it free.
  refine ⟨taken.1, [(id, signal)], taken.2, fun entry member => ?_⟩
  cases List.mem_singleton.mp member
  exact attentive.foremost going first ⟨task, found, by simp [own], unasked⟩ head

include attentive going first found own unasked in
/-- A listener that serves takes the signal that lies in the channel, or waits for one. -/
theorem listen (head : w.channel.holder = some id ∨ w.channel.holder = none) :
    Attentive allowed
        (({ w with ready := rest, channel := { w.channel with holder := some id } } : World).listen
          id run policy task.wait.hasHeard) ∧
      Heeded w
        (({ w with ready := rest, channel := { w.channel with holder := some id } } : World).listen
          id run policy task.wait.hasHeard) := by
  by_cases full : ∃ signal, w.channel.slot = .full signal
  · obtain ⟨signal, full⟩ := full
    have armed : w.armed id = some (run, policy) := armed_eq_some.mpr ⟨task, found, own⟩
    obtain ⟨w₁, hears, whole⟩ := listen_hears
      (w := { w with ready := rest, channel := { w.channel with holder := some id } })
        id policy full
      (attentive.opened id run policy armed).1 task.wait.hasHeard
    rw [whole]
    exact attentive.heed going first found own unasked head full hears
  · -- Nothing lies in the channel, so that the listener waits.
    have listening := attentive.listens found own unasked
    have line := attentive.line going
    rw [first] at line
    have empty : w.channel.slot.buffered = [] := by
      cases slot : w.channel.slot with
      | full signal => exact absurd ⟨signal, slot⟩ full
      | _ => rfl
    have waits :
      ({ w with ready := rest, channel := { w.channel with holder := some id } } : World).listen
          id run policy task.wait.hasHeard =
        ({ w with ready := rest, channel := { w.channel with holder := some id } } :
            World).changeTask id fun t => { t with wait := .delivery task.wait.hasHeard } := by
      unfold World.listen
      split
      · rename_i signal slot
        exact absurd ⟨signal, slot⟩ full
      · rfl
    rw [waits]
    refine ⟨attentive.rewait first found own unasked { w.channel with holder := some id } rfl rfl
      fun _ listening' others mine' => ?_, [], by simp [changeTask], by simp⟩
    have line' : Line listening' (rest ++ []) { w.channel with holder := some id } :=
      line.serve listening others (by simp) head unasked mine' rfl rfl empty
    rwa [List.append_nil] at line'

/-- Whoever holds the receiving end already goes on holding it. -/
theorem channel_of_holds (holds : w.channel.holder = some id) :
    ({ w.channel with holder := some id } : Channel) = w.channel := by
  rw [← holds]

include attentive going first found own unasked in
/-- In its turn a listener serves, gets into the line for the receiving end, or goes on waiting for
it. -/
theorem pollListener :
    Attentive allowed (({ w with ready := rest } : World).pollListener id task policy) ∧
      Heeded w (({ w with ready := rest } : World).pollListener id task policy) := by
  -- The turn follows the place that the listener has in the line.
  have listening := attentive.listens found own unasked
  have line := attentive.line going
  rw [first] at line
  obtain ⟨_, rfl⟩ := armed?_eq_some.mp own
  have idle : ∀ w' : World, w'.trace = w.trace → Heeded w w' := fun _ => heeded_of_same
  -- A listener that holds the receiving end, or finds it free, serves.
  have serves : ∀ hasHeard, hasHeard = task.wait.hasHeard → w.channel.holder = some id ∨
    w.channel.holder = none →
      ∀ channel : Channel, channel = { w.channel with holder := some id } →
        Attentive allowed
          (({ w with ready := rest, channel } : World).listen id task.actor.run policy hasHeard) ∧
          Heeded w
            (({ w with ready := rest, channel } : World).listen id task.actor.run policy
            hasHeard) := by
    intro hasHeard heard head channel same
    rw [heard, same]
    exact attentive.listen going first found own unasked head
  have place := line.place id task listening
  unfold World.pollListener
  generalize same : task.wait = wait at place
  cases place with
  -- It has not come to the line yet, and could not hold what it has not come to.
  | coming turn =>
    have stranger : w.channel.holder ≠ some id := by
      intro holds
      obtain ⟨task', own', later⟩ := line.holds id holds
      rw [listening] at own'
      cases own'
      exact later same
    simp only [stranger, if_false]
    split
    · rename_i free
      exact serves false (by rw [same]; rfl) (.inr free) _ rfl
    · rename_i taken
      obtain ⟨holder, holds⟩ := Option.ne_none_iff_exists'.mp taken
      refine ⟨attentive.rewait first found own unasked
        { w.channel with listeners := w.channel.listeners ++ [id] }
        rfl (by rw [same]; rfl) fun _ listening' others mine => ?_, idle _ rfl⟩
      exact line.queue listening others same holds unasked mine
  -- It stands in the line behind the holder, and a turn does not change that.
  | queued listed =>
    have stranger : w.channel.holder ≠ some id := fun holds => line.holder_unlisted holds listed
    have taken : w.channel.holder ≠ none := by
      intro free
      simp [line.free free] at listed
    simp only [stranger, taken, if_false]
    refine ⟨?_, idle _ rfl⟩
    refine attentive.renew (fun _ => line.stay listening stranger (by simp [same]) unasked)
      (fun other member => attentive.turns other (first ▸ List.mem_cons_of_mem _ member))
        (Nat.le_refl _) (fun _ => rfl)
      (fun other task' own' => ⟨task', own', rfl⟩) attentive.lasting
      ⟨[], (List.append_nil _).symm, rfl, rfl, (List.append_nil _).symm⟩
  -- It was called while it waited, and holds the receiving end since.
  | called holds turn =>
    simp only [holds, if_true]
    exact serves false (by rw [same]; rfl) (.inl holds) w.channel (channel_of_holds holds).symm
  -- It holds the receiving end and has been at it before.
  | serving hasHeard holds awake =>
    exact serves hasHeard (by rw [same]; rfl) (.inl holds) w.channel (channel_of_holds holds).symm

end Turn

section Drop

/-- What a listener leaves behind when it leaves the receiving end or the line for it. -/
structure Leaves (id : TaskId) (listening : TaskId → Option Task) (w w' : World) : Prop where
  tasks : w'.tasks = w.tasks
  exited : w'.exited = w.exited
  runs : w'.runs = w.runs
  trace : w'.trace = w.trace
  slot : w'.channel.slot = w.channel.slot
  ready : ∃ more, w'.ready = w.ready ++ more ∧ ∀ other ∈ more, w.isLive other = true
  line : Line listening w'.ready w'.channel

/-- Whoever leaves the receiving end passes it on, and everybody else just leaves the line. -/
theorem leaveReceiver_leaves (line : Line w.listening (id :: rest) w.channel)
    {listening : TaskId → Option Task} (gone : listening id = none)
    (others : ∀ other, other ≠ id → listening other = w.listening other) :
    Leaves id listening { w with ready := rest }
      (({ w with ready := rest } : World).leaveReceiver id) := by
  -- Three cases: nobody waits for what it held, somebody does, or it did not hold the receiving
  -- end.
  unfold leaveReceiver
  split
  · rename_i holds
    have holds : w.channel.holder = some id := holds
    unfold passReceiver
    split
    · rename_i nobody
      have nobody : w.channel.listeners = [] := nobody
      refine ⟨rfl, rfl, rfl, rfl, rfl, ⟨[], (List.append_nil _).symm, by simp⟩, ?_⟩
      have line' : Line listening (rest ++ []) { w.channel with holder := none } :=
        line.handOver others (by simp) holds gone (by simp) (by simp) fun _ => nobody
      rwa [List.append_nil] at line'
    · rename_i next others' queue
      have queue : w.channel.listeners = next :: others' := queue
      -- The next in the line is a listener, so that it can be woken.
      obtain ⟨task, own, _⟩ := line.waits next (queue ▸ List.mem_cons_self)
      obtain ⟨found, listens⟩ := listening_eq_some.mp own
      have live : w.isLive next = true := by simp [isLive, found, (isListening_iff.mp listens).2]
      set passed : World := ({ w with ready := rest } : World).changeChannel fun c =>
        { c with holder := some next, listeners := others' } with same
      have woken : Feeds passed (passed.wake next) := wake_feeds next
      obtain ⟨more, ready, fresh⟩ := woken.ready
      have due : next ∈ (passed.wake next).ready := mem_ready_wake live
      obtain ⟨ready', whole⟩ := wakeAll_eq (w := passed) [next]
      have whole : passed.wake next = { passed with ready := ready' } := whole
      have line' : Line listening (rest ++ more)
          { w.channel with holder := some next, listeners := others' } := by
        refine line.handOver others (fun other member => (fresh other member).1) holds gone
          queue.symm ?_ (by simp)
        intro other called
        cases called
        exact ready ▸ due
      rw [whole] at ready ⊢
      refine ⟨rfl, rfl, rfl, rfl, rfl,
        ⟨more, ready, fun other member => (fresh other member).2⟩, ?_⟩
      have ready : ready' = rest ++ more := ready
      rw [← ready] at line'
      exact line'
  · rename_i outside
    refine ⟨rfl, rfl, rfl, rfl, rfl, ⟨[], (List.append_nil _).symm, by simp⟩, ?_⟩
    have line' : Line listening (rest ++ [])
        { w.channel with listeners := w.channel.listeners.filter (· != id) } :=
      line.leave others (by simp) outside gone rfl rfl rfl
    rwa [List.append_nil] at line'

variable (attentive : Attentive allowed w) (going : w.exited = none) (first : w.ready = id :: rest)
  (found : w.task? id = some task) (own : task.armed? = some (run, policy))
  (asked : task.aborted = true)

include attentive going first found own asked in
/-- A listener that was asked to end leaves the line, and the signal that lies in the channel stays
there. -/
theorem dropTask (live : task.ending = none) :
    Attentive allowed (({ w with ready := rest } : World).dropTask id task) ∧
      (({ w with ready := rest } : World).dropTask id task).trace = w.trace ∧
      (({ w with ready := rest } : World).dropTask id task).exited = w.exited := by
  -- Until this turn it listened, so that it has a place in the line.
  have listening : w.listening id = some task :=
    listening_eq_some.mpr ⟨found, isListening_iff.mpr ⟨by simp [own], live⟩⟩
  have line := attentive.line going
  rw [first] at line
  have duty : ∀ service, task.duty ≠ .start service := by
    intro service same
    simp [Task.armed?, same] at own
  -- A listener stands on no other list than those of the channel.
  have forsaken : ({ w with ready := rest } : World).forsake (.task id) task.actor task.wait =
    { w with ready := rest } := by
    have place := line.place id task listening
    generalize task.wait = wait at place
    cases place <;> rfl
  have unstarted : ∀ w' : World, w'.noteAbandoned task = w' := by
    intro w'
    unfold noteAbandoned
    split
    · rename_i service same
      exact absurd same (duty service)
    · rfl
  unfold World.dropTask
  rw [forsaken, unstarted]
  set left := ({ w with ready := rest } : World).leaveReceiver id with same
  have tasks : (left.finish id .dropped).tasks = w.tasks.modify id fun t =>
    { t with ending := some .dropped } := by
    rw [finish, changeTask, same, tasks_leaveReceiver]
  -- It listens no longer, and nobody else is affected.
  have gone : (left.finish id .dropped).listening id = none := by
    rw [World.listening, task?_of_modify tasks, if_pos rfl, found]
    rfl
  have others : ∀ other, other ≠ id → (left.finish id .dropped).listening other =
    w.listening other := by
    intro other different
    rw [World.listening, World.listening, task?_of_modify tasks, if_neg fun equal =>
      different equal.symm]
  have leaves := leaveReceiver_leaves line gone others
  rw [← same] at leaves
  obtain ⟨more, ready, live⟩ := leaves.ready
  refine ⟨?_, leaves.trace, leaves.exited⟩
  refine attentive.renew (fun _ => leaves.line) (fun other member => ?_) (Nat.le_of_eq ?_)
    (fun other => ?_)
    (fun other task' own' => ?_) (fun other task' found' isListener unasked => ?_)
      ⟨[], ?_, rfl, rfl, ?_⟩
  · rw [tasks, List.length_modify]
    have member : other ∈ left.ready := member
    rw [ready] at member
    exact attentive.turns_of_rest first live other member
  · exact (congrArg List.length leaves.runs).symm
  · exact armed_of_modify tasks (fun _ => rfl) other
  · have different : other ≠ id := by
      intro equal
      rw [equal, gone] at own'
      contradiction
    exact ⟨task', (others other different).symm.trans own', rfl⟩
  · rw [task?_of_modify tasks] at found'
    split at found'
    · rename_i equal
      rw [← equal, found] at found'
      cases found'
      simp [asked] at unasked
    · exact attentive.lasting other task' found' isListener unasked
  · rw [List.append_nil]
    exact leaves.trace
  · exact (congrArg Slot.buffered leaves.slot).trans (List.append_nil _).symm

end Drop

end Attentive

end World

end Warden.Supervision
