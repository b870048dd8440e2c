import Warden.Proofs.Supervision.Proceeding

/-!
What all but the listeners do to the signal channel: signals come in, and nobody's place in the line
changes.
-/

namespace Warden.Supervision

/-- The signal that lies in a place of the channel, if one does. -/
def Slot.buffered : Slot → List Signal
  | .full signal => [signal]
  | .free | .promised _ => []

/-- The signal that an event puts into the channel, if it does. -/
def Event.accepted? : Event → Option Signal
  | .accepted signal => some signal
  | _ => none

/-- The listener and the signal that it takes out of the channel, if an event does that. -/
def Event.handled? : Event → Option (TaskId × Signal)
  | .handled id signal => some (id, signal)
  | _ => none

/-- Whether an event tells what a listener does: it takes a signal, says so, cancels its run or
follows its policy. -/
def Event.ofListener : Event → Bool
  | .handled _ _ | .cancelCall .listener _ _ | .deed (.escalated _) => true
  | .notice .task (.signalReceived _) | .notice .task (.forcingExit _) => true
  | .notice .task (.signalIgnored _) | .notice .task (.signalEscalated _) => true
  | _ => false

/-- What is no matter of the channel is none of a listener, and puts no signal into it. -/
theorem Event.unheard_of_apart {event : Event} (apart : event.ofChannel = false) :
    event.ofListener = false ∧ event.accepted? = none := by
  -- Every event of a listener, and every signal that comes in, is a matter of the channel.
  refine ⟨?_, ?_⟩
  · by_contra heard
    simp only [Bool.not_eq_false] at heard
    unfold ofListener at heard
    split at heard
    all_goals simp_all [ofChannel]
  · cases event <;> simp_all [ofChannel, accepted?]

namespace Trace

/-- The signals that the channel has accepted, in order. -/
def accepted (trace : Trace) : List Signal :=
  trace.filterMap (·.event.accepted?)

/-- The signals that listeners have taken, in order, each with its listener. -/
def handled (trace : Trace) : List (TaskId × Signal) :=
  trace.filterMap (·.event.handled?)

/-- Everything that listeners have done, in order. -/
def heard (trace : Trace) : List Event :=
  (trace.map (·.event)).filter (·.ofListener)

@[simp] theorem accepted_append (before after : Trace) :
    accepted (before ++ after) = accepted before ++ accepted after :=
  List.filterMap_append

@[simp] theorem handled_append (before after : Trace) :
    handled (before ++ after) = handled before ++ handled after :=
  List.filterMap_append

@[simp] theorem heard_append (before after : Trace) :
    heard (before ++ after) = heard before ++ heard after := by
  simp [heard]

@[simp] theorem accepted_nil : accepted [] = [] := rfl

@[simp] theorem handled_nil : handled [] = [] := rfl

@[simp] theorem heard_nil : heard [] = [] := rfl

/-- What one event hands over to the listeners. -/
theorem accepted_singleton (time : Nat) (event : Event) :
    accepted [⟨time, event⟩] = event.accepted?.toList := by
  unfold accepted
  cases some_ : event.accepted? <;> simp [some_]

/-- What one event says for a listener. -/
theorem heard_singleton (time : Nat) (event : Event) :
    heard [⟨time, event⟩] = if event.ofListener then [event] else [] := by
  unfold heard
  cases own : event.ofListener <;> simp [own]

/-- What is not of a listener takes no signal. -/
theorem handled_singleton {event : Event} (unheard : event.ofListener = false) (time : Nat) :
    handled [⟨time, event⟩] = [] := by
  cases event with
  | handled id signal => simp [Event.ofListener] at unheard
  | _ => rfl

end Trace

namespace World

/-- What becomes of a world while no listener has its turn: signals may come in where there is room,
listeners that had their turns due keep them, and the one that holds the receiving end is woken for
a signal. -/
structure Feeds (w w' : World) : Prop where
  tasks : w'.tasks = w.tasks
  exited : w'.exited = w.exited
  holder : w'.channel.holder = w.channel.holder
  listeners : w'.channel.listeners = w.channel.listeners
  ready : ∃ more, w'.ready = w.ready ++ more ∧ ∀ id ∈ more, id ∉ w.ready ∧ w.isLive id = true
  woken : w.channel.slot.buffered = [] → w'.channel.slot.buffered ≠ [] →
    ∀ id, w.channel.holder = some id → w.isLive id = true → id ∈ w'.ready
  trace : ∃ later : Trace, w'.trace = w.trace ++ later ∧ later.handled = [] ∧ later.heard = [] ∧
    w'.channel.slot.buffered = w.channel.slot.buffered ++ later.accepted

variable {w w₁ w₂ : World}

namespace Feeds

/-- A channel that is left alone is fed nothing. -/
theorem refl (w : World) : Feeds w w where
  tasks := rfl
  exited := rfl
  holder := rfl
  listeners := rfl
  ready := ⟨[], (List.append_nil _).symm, by simp⟩
  woken := fun empty full => absurd empty full
  trace := ⟨[], (List.append_nil _).symm, rfl, rfl, (List.append_nil _).symm⟩

/-- Feeding leaves it open who is live. -/
theorem isLive (feeds : Feeds w w₁) (id : TaskId) : w₁.isLive id = w.isLive id := by
  simp only [World.isLive, task?, feeds.tasks]

/-- Whoever was due remains due. -/
theorem due (feeds : Feeds w w₁) {id : TaskId} (member : id ∈ w.ready) : id ∈ w₁.ready := by
  obtain ⟨more, same, _⟩ := feeds.ready
  rw [same]
  exact List.mem_append_left _ member

/-- One feed after another is a feed. -/
theorem trans (first : Feeds w w₁) (second : Feeds w₁ w₂) : Feeds w w₂ where
  tasks := second.tasks.trans first.tasks
  exited := second.exited.trans first.exited
  holder := second.holder.trans first.holder
  listeners := second.listeners.trans first.listeners
  ready := by
    obtain ⟨more₁, same₁, fresh₁⟩ := first.ready
    obtain ⟨more₂, same₂, fresh₂⟩ := second.ready
    refine ⟨more₁ ++ more₂, by rw [same₂, same₁, List.append_assoc], ?_⟩
    intro id member
    rcases List.mem_append.mp member with early | late
    · exact fresh₁ id early
    -- Whoever is woken later was not due after the first part, so that it was not due before.
    · obtain ⟨absent, live⟩ := fresh₂ id late
      exact ⟨fun due => absent (same₁ ▸ List.mem_append_left _ due),
        (first.isLive id).symm.trans live⟩
  woken := by
    -- The place was filled in the first part, so that the holder is due since then, or in the
    -- second.
    intro empty full id holds live
    by_cases empty₁ : w₁.channel.slot.buffered = []
    · exact second.woken empty₁ full id (first.holder.trans holds) ((first.isLive id).trans live)
    · exact second.due (first.woken empty empty₁ id holds live)
  trace := by
    obtain ⟨later₁, same₁, unhandled₁, unheard₁, slot₁⟩ := first.trace
    obtain ⟨later₂, same₂, unhandled₂, unheard₂, slot₂⟩ := second.trace
    refine ⟨later₁ ++ later₂, by rw [same₂, same₁, List.append_assoc], ?_, ?_, ?_⟩
    · rw [Trace.handled_append, unhandled₁, unhandled₂, List.append_nil]
    · rw [Trace.heard_append, unheard₁, unheard₂, List.append_nil]
    · rw [slot₂, slot₁, Trace.accepted_append, List.append_assoc]

end Feeds

section Operations

/-- What is written by nobody who listens changes nothing at the channel. -/
theorem emit_feeds {event : Event} (unheard : event.ofListener = false)
    (unfed : event.accepted? = none) :
    Feeds w (w.emit event) := by
  refine { Feeds.refl w with
    trace := ⟨[⟨w.now, event⟩], rfl, Trace.handled_singleton unheard _, ?_, ?_⟩ }
  · rw [Trace.heard_singleton, unheard]
    rfl
  · rw [Trace.accepted_singleton, unfed]
    exact (List.append_nil _).symm

/-- A turn that becomes due is no signal. -/
theorem wake_feeds (id : TaskId) : Feeds w (w.wake id) := by
  -- A task is woken only if it is live and its turn is not due.
  unfold wake
  split
  · exact .refl w
  · rename_i asleep
    simp only [not_or, Decidable.not_not] at asleep
    refine { Feeds.refl w with
      ready := ⟨[id], rfl, ?_⟩
      woken := fun empty full => absurd empty full }
    intro other member
    cases List.mem_singleton.mp member
    exact asleep

/-- Nor are many of them. -/
theorem wakeAll_feeds (ids : List TaskId) : Feeds w (w.wakeAll ids) := by
  -- By induction on those who are woken, one after another.
  induction ids generalizing w with
  | nil => exact .refl w
  | cons id ids ih => exact (wake_feeds id).trans ih

/-- Nor is the flow's own. -/
theorem wakeParty_feeds (party : Party) : Feeds w (w.wakeParty party) := by
  cases party with
  | main => exact .refl w
  | task id => exact wake_feeds id

/-- Who waits for room is no matter of those who listen. -/
theorem changeSenders_feeds (change : List Party → List Party) :
    Feeds w (w.changeChannel fun c => { c with senders := change c.senders }) :=
  { Feeds.refl w with }

/-- A signal is delivered where none lies yet, and the listener that holds the receiving end is
woken. -/
theorem deliver_feeds {signal : Signal} (empty : w.channel.slot.buffered = []) :
    Feeds w (w.deliver signal) := by
  set filled :=
    (w.changeChannel fun c => { c with slot := .full signal }).emit (.accepted signal) with same
  have written : filled.trace = w.trace ++ [⟨w.now, .accepted signal⟩] := rfl
  have slot : filled.channel.slot.buffered = w.channel.slot.buffered ++ [signal] := by
    rw [empty]
    rfl
  -- Everything but the waking is done when the place is filled.
  have fed : ∀ w' : World, Feeds filled w' →
    (∀ id, w.channel.holder = some id → w.isLive id = true → id ∈ w'.ready) →
      Feeds w w' := by
    intro w' feeds awake
    refine {
      tasks := feeds.tasks
      exited := feeds.exited
      holder := feeds.holder
      listeners := feeds.listeners
      ready := feeds.ready
      woken := fun _ _ => awake
      trace := ?_ }
    obtain ⟨later, more, unhandled, unheard, slot'⟩ := feeds.trace
    refine ⟨[⟨w.now, .accepted signal⟩] ++ later,
      by rw [more, written, List.append_assoc], ?_, ?_, ?_⟩
    · rw [Trace.handled_append, unhandled]
      rfl
    · rw [Trace.heard_append, unheard]
      rfl
    · rw [slot', slot, Trace.accepted_append, List.append_assoc]
      rfl
  unfold deliver
  dsimp only
  rw [← same]
  split
  -- There is no holder to be woken.
  · rename_i nobody
    refine fed _ (.refl _) fun id holds => ?_
    have none_ : w.channel.holder = none := nobody
    rw [none_] at holds
    contradiction
  -- The holder is woken, and it is the one that was asked for.
  · rename_i holder holds
    refine fed _ (wake_feeds holder) fun id holds' live => ?_
    have holds : w.channel.holder = some holder := holds
    cases holds.symm.trans holds'
    exact mem_ready_wake live

/-- A place that is empty stays so when it is passed on to the next sender. -/
theorem vacate_feeds (empty : w.channel.slot.buffered = []) : Feeds w w.vacate := by
  -- Whether the place becomes free or is promised, no signal lies in it before or after.
  unfold vacate
  split
  · exact { Feeds.refl w with
      woken := fun _ full => absurd rfl full
      trace := ⟨[], (List.append_nil _).symm, rfl, rfl, by rw [empty]; rfl⟩ }
  · rename_i party rest _
    have promised :
      Feeds w (w.changeChannel fun c => { c with slot := .promised party, senders := rest }) :=
      { Feeds.refl w with
        woken := fun _ full => absurd rfl full
        trace := ⟨[], (List.append_nil _).symm, rfl, rfl, by rw [empty]; rfl⟩ }
    exact promised.trans (wakeParty_feeds party)

/-- The runs are nothing to the channel. -/
theorem changeRun_feeds (run : RunId) (change : Run → Run) : Feeds w (w.changeRun run change) :=
  { Feeds.refl w with }

/-- Whoever cancels a run without listening changes nothing at the channel. -/
theorem cancel_feeds {caller : Caller} (other : caller ≠ .listener) (run : RunId) (cause : Cause) :
    Feeds w (w.cancel caller run cause).2 := by
  -- The run is tripped in either case, and what is told of it depends on whether it was cancelled
  -- before.
  have unheard : (Event.cancelCall caller run cause).ofListener = false := by
    cases caller with
    | listener => exact absurd rfl other
    | _ => rfl
  have tripped : ∀ r, Feeds w (w.trip caller run cause r) := fun r =>
    ((emit_feeds unheard rfl).trans (changeRun_feeds _ _)).trans (wakeAll_feeds _)
  have told : (Event.notice caller.origin (.cancelledAlready cause)).ofListener = false := by
    cases caller <;> rfl
  unfold cancel
  split
  · exact .refl w
  · split
    · exact (tripped _).trans (emit_feeds rfl rfl)
    · exact (tripped _).trans (emit_feeds told rfl)

/-- Whoever gets in line takes nothing out of the channel. -/
theorem enlist_feeds (party : Party) (actor : Actor) (wait : Wait) :
    Feeds w (w.enlist party actor wait) := by
  -- Each kind of wait has a list of its own, and none of them is the line of listeners.
  unfold enlist
  split
  · exact { Feeds.refl w with }
  · exact { Feeds.refl w with }
  · exact { Feeds.refl w with }
  · exact changeRun_feeds _ _
  · exact changeSenders_feeds fun senders => senders ++ [_]
  · exact .refl w

/-- A place that is promised holds no signal. -/
theorem buffered_of_promised {party : Party} (promised : w.channel.slot = .promised party) :
    w.channel.slot.buffered = [] := by
  rw [promised]
  rfl

/-- In a place that is free no signal lies. -/
theorem buffered_of_free (free : w.channel.slot = .free) : w.channel.slot.buffered = [] := by
  rw [free]
  rfl

/-- A sender whose wait is over puts its signal where it was promised room. -/
theorem settleWait_feeds {party : Party} {actor : Actor} {wait : Wait}
    (ended : w.isOver party actor wait = true) :
    Feeds w (w.settleWait actor wait) := by
  -- Only the wait for room, when it is over, brings a signal into the channel.
  cases wait with
  | cancellation => exact emit_feeds rfl rfl
  | room signal =>
    have promised : w.channel.slot = .promised party := by simpa [isOver] using ended
    exact (deliver_feeds (buffered_of_promised promised)).trans (emit_feeds rfl rfl)
  | _ => exact .refl w

/-- Whoever leaves the line takes nothing out of the channel. -/
theorem forsake_feeds (party : Party) (actor : Actor) (wait : Wait) :
    Feeds w (w.forsake party actor wait) := by
  -- Whoever gives up a wait leaves the list of that wait, and listeners stand on none of them.
  unfold forsake
  split
  · exact { Feeds.refl w with }
  · exact { Feeds.refl w with }
  · exact changeRun_feeds _ _
  · split
    · -- The room that was promised is passed on to the next sender.
      rename_i promised
      exact vacate_feeds (buffered_of_promised promised)
    · exact changeSenders_feeds fun senders => senders.filter (· != _)
  · exact .refl w

/-- One step of a script leaves those who listen where they are. -/
theorem act_feeds (party : Party) (actor : Actor) (step : Step) :
    Feeds w (w.act party actor step).2 := by
  -- One case for each step: only those that send a signal reach the channel.
  cases step with
  | sleep millis =>
    simp only [act, block]
    split
    · exact .refl w
    · exact enlist_feeds _ _ _
  | yield => exact enlist_feeds _ _ _
  | note text => exact emit_feeds rfl rfl
  | log entry =>
    refine emit_feeds ?_ rfl
    cases party <;> rfl
  -- A task that is no listener calls in its own name.
  | cancel cause =>
    have other : party.caller ≠ .listener := by cases party <;> simp [Party.caller]
    exact (cancel_feeds other actor.run cause).trans (emit_feeds rfl rfl)
  | awaitCancel =>
    simp only [act, block]
    split
    · exact emit_feeds rfl rfl
    · exact enlist_feeds _ _ _
  -- The signal goes in only where there is room, hence where nothing lay before.
  | signal signal =>
    simp only [act]
    split
    · rename_i free
      exact (deliver_feeds (buffered_of_free free)).trans (emit_feeds rfl rfl)
    · exact enlist_feeds party actor (.room signal)
  | trySignal signal =>
    simp only [act]
    split
    · rename_i free
      exact (deliver_feeds (buffered_of_free free)).trans (emit_feeds rfl rfl)
    · exact emit_feeds rfl rfl
  | raise signal =>
    simp only [act]
    split
    · exact .refl w
    · exact { Feeds.refl w with }
  | probe => exact emit_feeds rfl rfl
  | _ => exact .refl w

/-- A script feeds the channel with its own signals. -/
theorem runSteps_feeds (party : Party) (actor : Actor) (script : Script) :
    Feeds w (w.runSteps party actor script).2 := by
  -- By induction on the script: each step leaves the channel to those who listen, and so does the
  -- rest.
  induction script generalizing w with
  | nil => exact .refl w
  | cons step rest ih =>
    have acted : Feeds w (w.act party actor step).2 := act_feeds party actor step
    unfold runSteps
    split
    · rename_i w₁ same
      rw [same] at acted
      exact acted.trans ih
    · rename_i wait w₁ same
      rw [same] at acted
      exact acted
    · rename_i outcome w₁ same
      rw [same] at acted
      exact acted

/-- A wait that is over is settled without taking a signal. -/
theorem resume_feeds {party : Party} {task : Task}
    (ended : w.isOver party task.actor task.wait = true) :
    Feeds w (w.resume task) := by
  unfold resume
  split
  · exact emit_feeds rfl rfl
  · exact settleWait_feeds ended

/-- Signals of the system that come in between two rounds do not reach the channel yet. -/
theorem admitRaised_feeds : Feeds w w.admitRaised := by
  -- They wait with the forwarder, which is woken for them.
  have moved : ∀ arrived raised : List Signal, Feeds w { w with arrived, raised } :=
    fun _ _ => { Feeds.refl w with }
  unfold admitRaised
  split
  · exact (moved _ []).trans (wake_feeds _)
  · exact moved w.arrived []

/-- The return of those who have yielded is no signal. -/
theorem wakeYielded_feeds : Feeds w w.wakeYielded := by
  have emptied : Feeds w { w with yielded := [], mainYielded := false } := { Feeds.refl w with }
  exact emptied.trans (wakeAll_feeds _)

/-- Nor is the passage of time. -/
theorem advance_feeds (alarm : Nat) : Feeds w (w.advance alarm) := by
  have moved : ∀ (now : Nat) (timers : List Timer), Feeds w { w with now, timers } :=
    fun _ _ => { Feeds.refl w with }
  exact (moved _ _).trans (wakeAll_feeds _)

/-- Whatever the supervising flow does at once leaves those who listen where they are. -/
theorem Does.feeds (does : Does w w₁) : Feeds w w₁ := by
  cases does with
  | takes actor step => exact act_feeds .main actor step
  | settles actor wait ended => exact settleWait_feeds ended
  | forsakes actor wait => exact forsake_feeds .main actor wait
  | calls run cause => exact cancel_feeds (by simp) run cause
  | tells n => exact emit_feeds rfl rfl
  | awaits awaiting => exact { Feeds.refl w with }

end Operations

/-- What a task that is no listener does in its turn: it leaves those who listen where they are, and
changes itself. -/
def FeedsBeside (id : TaskId) (w w' : World) : Prop :=
  ∃ (w₁ : World) (change : Task → Task) (finished : List TaskId), Feeds w w₁ ∧
    (∀ task, (change task).duty = task.duty) ∧
    w' = { w₁.changeTask id change with finished }

section Turns

variable {id : TaskId} {task : Task}

/-- What leaves the tasks alone is a turn of any of them. -/
theorem Feeds.beside (feeds : Feeds w w₁) (id : TaskId) : FeedsBeside id w w₁ := by
  have same : w₁.tasks.modify id (fun task => task) = w₁.tasks := List.modify_id _ _
  refine ⟨w₁, fun task => task, w₁.finished, feeds, fun _ => rfl, ?_⟩
  rw [World.changeTask, same]

/-- A task ends beside what it feeds. -/
theorem Feeds.finish (feeds : Feeds w w₁) (id : TaskId) (ending : Ending) :
    FeedsBeside id w (w₁.finish id ending) :=
  ⟨w₁, fun task => { task with ending := some ending }, w₁.finished ++ [id], feeds,
    fun _ => rfl, rfl⟩

/-- A task changes itself beside what it feeds. -/
theorem Feeds.changeTask (feeds : Feeds w w₁) (id : TaskId) {change : Task → Task}
    (kept : ∀ task, (change task).duty = task.duty) : FeedsBeside id w (w₁.changeTask id change) :=
  ⟨w₁, change, w₁.finished, feeds, kept, rfl⟩

/-- A script that has ended leaves the channel to others. -/
theorem Feeds.endScript (feeds : Feeds w w₁) (id : TaskId) (task : Task) (outcome : Outcome) :
    FeedsBeside id w (w₁.endScript id task outcome) := by
  -- A start that is refused says so and cancels its run; all others just end.
  have refused :
    ∀ service error, FeedsBeside id w (endStart.fail id task.actor.run service w₁ error) := by
    intro service error
    have told :
      Feeds w₁
        ((w₁.emit (.deed (.startFailed service))).notice .task (.startFailed service error)) :=
      (emit_feeds rfl rfl).trans (emit_feeds rfl rfl)
    exact ((feeds.trans told).trans (cancel_feeds (by simp) _ _)).finish id _
  unfold World.endScript
  split
  · rename_i service _
    cases outcome with
    | done =>
      have up : Feeds w (w₁.emit (.deed (.up service))) := feeds.trans (emit_feeds rfl rfl)
      simp only [endStart]
      -- Late or not, the start ends well.
      split
      · exact up.finish id .done
      · exact (up.trans (emit_feeds rfl rfl)).finish id .done
    | panicked payload => exact feeds.finish id _
    | failed error => exact refused service error
    | failedWith error => exact refused service error.text
  · exact feeds.finish id _
  · exact feeds.finish id _

/-- The turn of a script is one beside the listeners. -/
theorem pollScript_beside (id : TaskId) (task : Task) :
    FeedsBeside id w (w.pollScript id task) := by
  -- The wait is settled and steps are taken up to the next one or to the end, and only then the
  -- task itself changes.
  unfold pollScript
  split
  · rename_i ended
    have ran : Feeds w ((w.resume task).runSteps (.task id) task.actor task.steps).2 :=
      (resume_feeds ended).trans (runSteps_feeds _ _ _)
    split
    · rename_i wait rest w₁ same
      rw [same] at ran
      exact ran.changeTask id fun _ => rfl
    · rename_i outcome w₁ same
      rw [same] at ran
      exact ran.endScript id task outcome
  · exact (Feeds.refl w).beside id

/-- So is that of a watcher. -/
theorem pollWatcher_beside (id : TaskId) (task : Task) :
    FeedsBeside id w (w.pollWatcher id task) := by
  -- The watcher ends, begins to wait for the cancellation, or goes on waiting.
  unfold pollWatcher
  split
  · exact (emit_feeds rfl rfl).finish id _
  · split
    · exact (enlist_feeds _ _ _).changeTask id fun _ => rfl
    · exact (Feeds.refl w).beside id

/-- The forwarder feeds the channel with what the system has sent. -/
theorem Feeds.forward (feeds : Feeds w w₁) (id : TaskId) (actor : Actor) (signals : List Signal) :
    FeedsBeside id w (w₁.forward id actor signals) := by
  -- By induction on the signals that have come in: each goes into the channel while there is room.
  have arrived : ∀ (w : World) (arrived : List Signal), Feeds w { w with arrived } :=
    fun w _ => { Feeds.refl w with }
  induction signals generalizing w₁ with
  | nil => exact (feeds.trans (arrived w₁ [])).changeTask id fun _ => rfl
  | cons signal rest ih =>
    unfold World.forward
    split
    · rename_i free
      exact ih (feeds.trans (deliver_feeds (buffered_of_free free)))
    -- No room is left, so that it gets in line for it with the rest in hand.
    · exact ((feeds.trans (arrived w₁ rest)).trans (enlist_feeds _ _ _)).changeTask id fun _ => rfl

/-- Its turn is one beside the listeners. -/
theorem pollForwarder_beside (id : TaskId) (task : Task) :
    FeedsBeside id w (w.pollForwarder id task) := by
  -- A forwarder that was promised room delivers first, and then goes on with what has come in.
  unfold pollForwarder
  split
  · split
    · rename_i promised
      exact (deliver_feeds (buffered_of_promised promised)).forward id _ _
    · exact (Feeds.refl w).beside id
  · exact (Feeds.refl w).forward id _ _

/-- A task that is not in the line drops what it holds, and the line stays as it is. -/
theorem dropTask_beside (outside : w.channel.holder ≠ some id) (absent : id ∉ w.channel.listeners) :
    FeedsBeside id w (w.dropTask id task) := by
  -- What the task held is given up, it leaves a line in which it does not stand, and that it was
  -- abandoned is told.
  have forsaken : Feeds w (w.forsake (.task id) task.actor task.wait) := forsake_feeds _ _ _
  have left : Feeds w ((w.forsake (.task id) task.actor task.wait).leaveReceiver id) := by
    unfold leaveReceiver
    rw [if_neg fun holds => outside (forsaken.holder.symm.trans holds)]
    refine forsaken.trans { Feeds.refl _ with listeners := ?_ }
    -- Nobody is taken off a list on which it does not stand.
    refine List.filter_eq_self.mpr fun other member => ?_
    rw [forsaken.listeners] at member
    simpa using fun same : other = id => absent (same ▸ member)
  have noted :
    Feeds w
      (((w.forsake (.task id) task.actor task.wait).leaveReceiver id).noteAbandoned task) := by
    refine left.trans ?_
    unfold noteAbandoned
    split
    · split
      · exact .refl _
      · exact emit_feeds rfl rfl
    · exact .refl _
  exact noted.finish id .dropped

/-- The whole turn of a task that is no listener and not in the line. -/
theorem poll_beside (found : w.task? id = some task)
    (other : ∀ policy, task.duty ≠ .listener policy) (outside : w.channel.holder ≠ some id)
    (absent : id ∉ w.channel.listeners) : FeedsBeside id w (w.poll id) := by
  -- One case for each way in which a turn can go, and of these for each duty.
  simp only [World.poll, found]
  split
  · exact (Feeds.refl w).beside id
  · split
    · exact dropTask_beside outside absent
    -- A task that was asked to end is dropped; any other does what its duty is.
    · split
      · exact pollScript_beside id task
      · exact pollScript_beside id task
      · exact pollScript_beside id task
      · exact pollWatcher_beside id task
      · rename_i policy duty
        exact absurd duty (other policy)
      · exact pollForwarder_beside id task

end Turns

end World

end Warden.Supervision
