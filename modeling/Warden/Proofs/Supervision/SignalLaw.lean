import Warden.Proofs.Supervision.Hearing
import Warden.Proofs.Supervision.History
import Warden.Scenario.Signals

/-!
The law of the signal channel: no signal is lost or taken twice, one listener serves at a time, and
each signal is answered as it should be, in whatever order listeners are armed and asked to end and
signals are sent.
-/

namespace Warden.Supervision

namespace World

variable {allowed : RunId → Escalation → Prop} {w w' : World} {id : TaskId} {task : Task}
  {run : RunId} {policy : Escalation} {rest : List TaskId}

/-- What a step leaves of the duties of listeners: they are kept, signals are taken by the foremost
listener alone, and the process goes on unless a policy forces its exit. -/
structure Serves (allowed : RunId → Escalation → Prop) (w w' : World) : Prop where
  attentive : Attentive allowed w'
  heeded : Heeded w w'
  going : (∀ run, ¬ allowed run .forceExit) → w.exited = none → w'.exited = none

/-- Whoever feeds the channel takes no signal and leaves the process going. -/
theorem Feeds.serves (feeds : Feeds w w') (attentive : Attentive allowed w)
    (runs : w.runs.length ≤ w'.runs.length) :
    Serves allowed w w' where
  attentive := attentive.feeds feeds runs
  heeded := by
    obtain ⟨later, written, unhandled, _⟩ := feeds.trace
    exact heeded_of_unhandled written unhandled
  going := fun _ going => feeds.exited.trans going

/-- A task that is no listener does not listen. -/
theorem unlistening_of_unarmed (found : w.task? id = some task) (other : task.armed? = none) :
    w.listening id = none := by
  rw [listening, found, Option.filter_some, if_neg]
  intro listens
  have isListener := (isListening_iff.mp listens).1
  simp [other] at isListener

/-- A task that is no listener neither holds the receiving end nor waits for it. -/
theorem Attentive.unlisted (attentive : Attentive allowed w) (going : w.exited = none)
    (found : w.task? id = some task) (other : task.armed? = none) :
    w.channel.holder ≠ some id ∧ id ∉ w.channel.listeners := by
  have unlistening := unlistening_of_unarmed found other
  have line := attentive.line going
  -- Whoever holds the receiving end or waits for it is a listener that has not ended.
  constructor
  · intro holds
    obtain ⟨task', own, _⟩ := line.holds id holds
    exact absurd (unlistening.symm.trans own) nofun
  · intro listed
    obtain ⟨task', own, _⟩ := line.waits id listed
    exact absurd (unlistening.symm.trans own) nofun

/-- A task that does not listen may be popped, may feed the channel and may change itself. -/
theorem FeedsBeside.serves (attentive : Attentive allowed w) (first : w.ready = id :: rest)
    (found : w.task? id = some task)
    (other : task.armed? = none) (beside : FeedsBeside id { w with ready := rest } w')
    (runs : w.runs.length ≤ w'.runs.length) : Serves allowed w w' := by
  have popped : Attentive allowed { w with ready := rest } :=
    attentive.pop first (unlistening_of_unarmed found other)
  -- Feeding the channel takes nothing from it, and ends no process.
  refine ⟨popped.beside found other beside runs, ?_, ?_⟩
  · obtain ⟨w₁, change, finished, feeds, _, rfl⟩ := beside
    obtain ⟨later, written, unhandled, _⟩ := feeds.trace
    exact heeded_of_unhandled written unhandled
  · obtain ⟨w₁, change, finished, feeds, _, rfl⟩ := beside
    exact fun _ going => feeds.exited.trans going

@[simp] theorem exited_vacate (w : World) : w.vacate.exited = w.exited := by
  unfold vacate
  split
  · rfl
  · rename_i party _ _
    cases party with
    | main => rfl
    | task id => exact exited_wakeAll [id] _

/-- Only a policy that forces the exit ends the process in the turn of a listener. -/
theorem exited_pollListener (calm : policy ≠ .forceExit) :
    (w.pollListener id task policy).exited = w.exited := by
  -- Whatever place it has, its turn at most takes a signal and follows the policy.
  have listened : ∀ (w : World) (run : RunId) (hasHeard : Bool),
    (w.listen id run policy hasHeard).exited = w.exited := by
    intro w run hasHeard
    unfold World.listen
    split
    · have escalated : ∀ (w : World) (signal : Signal), (w.escalate policy signal).exited =
        w.exited := by
        intro w signal
        -- Only one policy ends the process, and this is another.
        cases policy with
        | forceExit => exact absurd rfl calm
        | ignore => rfl
        | hook => rfl
      cases hasHeard with
      | true => exact (escalated _ _).trans (exited_vacate w)
      | false => exact (exited_cancel _ _ _ _).trans (exited_vacate w)
    · rfl
  -- In each of its places the listener either listens or leaves the world as it is.
  unfold World.pollListener
  split
  · exact listened _ _ _
  · split
    · exact listened _ _ _
    · split
      · exact listened _ _ _
      · split <;> rfl

/-- What the turn of a task comes to for listeners, by what the task is. -/
inductive Turned (w : World) (id : TaskId) (rest : List TaskId) : World → Prop
  | idle (unlistening : w.exited = none → w.listening id = none) :
    Turned w id rest { w with ready := rest }
  | beside {task : Task} {w' : World} (found : w.task? id = some task) (other : task.armed? = none)
    (beside : FeedsBeside id { w with ready := rest } w') : Turned w id rest w'
  | leaves {task : Task} {run : RunId} {policy : Escalation} (going : w.exited = none)
    (found : w.task? id = some task) (live : task.ending = none)
    (own : task.armed? = some (run, policy)) (asked : task.aborted = true) :
    Turned w id rest (({ w with ready := rest } : World).dropTask id task)
  | listens {task : Task} {run : RunId} {policy : Escalation} (going : w.exited = none)
    (found : w.task? id = some task) (own : task.armed? = some (run, policy))
    (unasked : task.aborted = false) :
    Turned w id rest (({ w with ready := rest } : World).pollListener id task policy)

/-- A turn is empty, or it is that of a task that does not listen, or of a listener, which ends if
it was asked to. -/
theorem Attentive.turned (attentive : Attentive allowed w) (rest : List TaskId) :
    Turned w id rest (({ w with ready := rest } : World).poll id) := by
  -- No such task, one that has ended or a process that is gone, a task that is no listener, or a
  -- listener.
  cases found : w.task? id with
  | none =>
    have same : ({ w with ready := rest } : World).poll id = { w with ready := rest } :=
      poll_idle fun task found' => absurd (found.symm.trans found') (by simp)
    rw [same]
    exact .idle fun _ => by rw [listening, found]; rfl
  | some task =>
    have found₁ : ({ w with ready := rest } : World).task? id = some task := found
    by_cases ceased : task.ending.isSome ∨ w.exited.isSome
    · have same : ({ w with ready := rest } : World).poll id = { w with ready := rest } :=
        poll_idle (by simpa [found₁] using ceased)
      rw [same]
      refine .idle fun going => ?_
      have ended : task.ending.isSome := ceased.resolve_right (by simp [going])
      rw [listening, found, Option.filter_some, if_neg]
      intro listens
      simp [(isListening_iff.mp listens).2] at ended
    · simp only [not_or, Option.not_isSome_iff_eq_none] at ceased
      obtain ⟨live, going⟩ := ceased
      cases own : task.armed? with
      | none =>
        -- Nobody but a listener stands in the line.
        obtain ⟨outside, absent⟩ := attentive.unlisted going found own
        exact .beside found own (poll_beside found₁ (armed?_eq_none.mp own) outside absent)
      | some arms =>
        obtain ⟨run, policy⟩ := arms
        -- Whether it was asked to end is looked at first.
        cases asked : task.aborted with
        | true =>
          rw [poll_aborted found₁ live going asked]
          exact .leaves going found live own asked
        | false =>
          rw [poll_listener found₁ live going asked (armed?_eq_some.mp own).1]
          exact .listens going found own asked

/-- A turn leaves the duties of listeners kept, whoever has it. -/
theorem Attentive.poll (attentive : Attentive allowed w) (first : w.ready = id :: rest) :
    Serves allowed w (({ w with ready := rest } : World).poll id) := by
  have runs : w.runs.length ≤ (({ w with ready := rest } : World).poll id).runs.length :=
    Nat.le_of_eq (poll_passes id { w with ready := rest }).runs.symm
  have turned : Turned w id rest (({ w with ready := rest } : World).poll id) :=
    attentive.turned rest
  generalize ({ w with ready := rest } : World).poll id = w' at turned runs
  cases turned with
  | idle unlistening =>
    -- A turn in which nothing is done only takes the task off the list of due turns.
    refine ⟨?_, heeded_of_same rfl, fun _ going => going⟩
    by_cases going : w.exited = none
    · exact attentive.pop first (unlistening going)
    · exact attentive.renew_same (fun _ _ _ => Iff.rfl) (fun still => absurd still going)
        (fun other member => attentive.turns other (first ▸ List.mem_cons_of_mem _ member))
          (Nat.le_refl _)
        ⟨[], (List.append_nil _).symm, rfl, rfl, (List.append_nil _).symm⟩
  | beside found other beside => exact beside.serves attentive first found other runs
  | leaves going found live own asked =>
    obtain ⟨dropped, trace, exited⟩ := attentive.dropTask going first found own asked live
    exact ⟨dropped, heeded_of_same trace, fun _ going => exited.trans going⟩
  -- A listener serves, and none that is armed here lets the process exit.
  | @listens task run policy going found own unasked =>
    obtain ⟨polled, heeded⟩ := attentive.pollListener going first found own unasked
    refine ⟨polled, heeded, fun calm going => ?_⟩
    have armed : w.armed id = some (run, policy) := armed_eq_some.mpr ⟨task, found, own⟩
    have calm : policy ≠ .forceExit := by
      intro forced
      exact calm run (forced ▸ (attentive.opened id run policy armed).2)
    exact (exited_pollListener calm).trans going

/-- Every step leaves the duties of listeners kept. -/
theorem Proceeds.serves (proceeds : Proceeds allowed w w') (attentive : Attentive allowed w) :
    Serves allowed w w' := by
  -- One case for each kind of step; only a turn may take a signal, and only an arming brings a
  -- listener.
  have runs := proceeds.runs
  cases proceeds with
  -- A beat is a turn, or something that only wakes tasks.
  | beats beat =>
    cases beat with
    | turn id rest first early => exact attentive.poll first
    | arrive => exact admitRaised_feeds.serves attentive runs
    | resume => exact wakeYielded_feeds.serves attentive runs
    | tick idle still unmet early => exact (advance_feeds _).serves attentive runs
  | does does => exact does.feeds.serves attentive runs
  | delivers signal free => exact (deliver_feeds (buffered_of_free free)).serves attentive runs
  -- The listener calls from its turn only, so that this call feeds nothing.
  | calls caller run cause here =>
    have other : caller ≠ .listener := by
      intro same
      rw [same] at here
      contradiction
    exact (cancel_feeds other run cause).serves attentive runs
  | tells event apart =>
    obtain ⟨unheard, unfed⟩ := Event.unheard_of_apart apart
    exact (emit_feeds unheard unfed).serves attentive runs
  | opens =>
    have feeds : Feeds w w.openRun.2 := { Feeds.refl w with }
    exact feeds.serves attentive runs
  | arms run policy opened may =>
    exact ⟨attentive.arm opened may, heeded_of_same rfl, fun _ going => going⟩
  | spawns task live other =>
    exact ⟨attentive.spawn task (armed?_eq_none.mpr other), heeded_of_same rfl,
      fun _ going => going⟩
  -- Whoever is asked to end does nothing until its turn.
  | aborts id =>
    obtain ⟨tasks, ready, whole⟩ := abortAll_eq [id] w
    have whole : w.abort id = { w with tasks, ready } := whole
    refine ⟨attentive.abort id, ?_, ?_⟩
    · rw [whole]
      exact heeded_of_same rfl
    · rw [whole]
      exact fun _ going => going
  | books horizon groups started awaiting forwarder =>
    have feeds : Feeds w { w with horizon, groups, started, awaiting, forwarder } :=
      { Feeds.refl w with }
    exact feeds.serves attentive runs

/-- A listener keeps the run and the policy with which it was armed. -/
theorem Proceeds.armed (proceeds : Proceeds allowed w w') {own : RunId × Escalation}
    (arms : w.armed id = some own) :
    w'.armed id = some own := by
  obtain ⟨task, found, own⟩ := armed_eq_some.mp arms
  obtain ⟨task', found', remains⟩ := proceeds.remains found
  refine armed_eq_some.mpr ⟨task', found', ?_⟩
  rw [← own, Task.armed?, Task.armed?, remains.duty, remains.actor]

/-- Wherever steps lead, the duties of listeners are kept. -/
theorem Leads.attentive (leads : Leads allowed w w') (attentive : Attentive allowed w) :
    Attentive allowed w' := by
  -- By induction on the steps, each of which leaves the duties of listeners kept.
  induction leads with
  | refl => exact attentive
  | tail _ step ih => exact (step.serves ih).attentive

/-- The process goes on as long as no policy may force its exit. -/
theorem Leads.going (leads : Leads allowed w w') (attentive : Attentive allowed w)
    (calm : ∀ run, ¬ allowed run .forceExit) (going : w.exited = none) : w'.exited = none := by
  induction leads with
  | refl => exact going
  | tail before step ih => exact (step.serves (Leads.attentive before attentive)).going calm ih

/-- In a fresh process nothing is owed. -/
theorem attentive_fresh : Attentive allowed {} where
  -- There is no task yet, and nothing has been written.
  line := fun _ => by
    refine ⟨.nil, ?_, ?_, ?_, ?_, fun _ => rfl⟩
    all_goals simp [listening, task?]
  turns := by simp
  kept := rfl
  answered := rfl
  known := by simp
  heard := by simp [listening, task?]
  opened := by simp [armed, task?]
  lasting := by simp [task?]

/-- If no turn is due, no signal lies in the channel while a listener is armed that nobody has asked
to end. -/
theorem Attentive.drained (attentive : Attentive allowed w) (going : w.exited = none)
    (idle : w.ready = []) (armed : w.Armed id) : w.channel.slot.buffered = [] := by
  -- With no turn due, a listener serves, or it waits for one that does.
  have line := attentive.line going
  rw [idle] at line
  -- Whoever holds the receiving end serves, and has taken what there was.
  have served : ∀ id, w.channel.holder = some id → w.channel.slot.buffered = [] := by
    intro id holds
    obtain ⟨task, own, later⟩ := line.holds id holds
    have place := line.place id task own
    generalize task.wait = wait at place later
    cases place with
    | coming turn => exact absurd rfl later
    | queued listed => exact absurd listed (line.holder_unlisted holds)
    | called _ turn => exact absurd turn List.not_mem_nil
    | serving hasHeard _ awake => exact awake.resolve_right List.not_mem_nil
  -- The listener that is armed has its place, and with no turn due it waits or serves.
  obtain ⟨task, own, _⟩ := attentive.listening_of_armed armed
  have place := line.place id task own
  generalize task.wait = wait at place
  cases place with
  | coming turn => exact absurd turn List.not_mem_nil
  | queued listed =>
    cases held : w.channel.holder with
    | none => exact absurd (line.free held ▸ listed) List.not_mem_nil
    | some holder => exact served holder held
  | called holds turn => exact served id holds
  | serving hasHeard holds awake => exact served id holds

end World

open World

/-- The law of the signal channel, at one time of a process. -/
structure World.SignalsKept (allowed : RunId → Escalation → Prop) (w : World) : Prop where
  /-- What was accepted was taken once, in order, or lies in the channel. -/
  kept : w.trace.accepted = w.trace.handled.map (·.2) ++ w.channel.slot.buffered
  /-- Nothing is left in the channel when everything is at rest and some listener is not asked to
  end. -/
  drained : w.ready = [] → (∃ id, w.Armed id) → w.channel.slot.buffered = []
  /-- What listeners have done is to answer what they took: the first time by cancelling, then by
  their policies. -/
  answered : w.trace.heard = answers w.armed [] w.trace.handled
  /-- The cause of a run is that of the first call of its cancellation, of which the ones by
  listeners are some. -/
  causes : ∀ run, w.cause? run = (w.trace.firstCall run).map (·.cause)
  /-- Whatever comes next, only the foremost listener takes signals. -/
  foremost : ∀ w', Proceeds allowed w w' →
    ∃ later, w'.trace.handled = w.trace.handled ++ later ∧ ∀ entry ∈ later, w.Foremost entry.1
  /-- A listener keeps the run and the policy with which it was armed. -/
  lasting : ∀ w', Proceeds allowed w w' → ∀ id own, w.armed id = some own → w'.armed id = some own

/-- Policies that do not end the process. -/
def calm (_ : RunId) (policy : Escalation) : Prop := policy ≠ .forceExit

/-- In whatever order tasks send signals, listeners with calm policies are armed and listeners are
asked to end, no signal is lost or taken twice, only the foremost listener takes signals, and it
answers each one as it should. -/
theorem signals_kept {w : World} (leads : Leads calm {} w) :
    w.exited = none ∧ w.SignalsKept calm := by
  -- Nothing is owed at first, and every step keeps it so.
  have attentive : Attentive calm w := leads.attentive attentive_fresh
  have sound : w.Sound := leads.sound sound_fresh
  have going : w.exited = none := leads.going attentive_fresh (fun _ may => may rfl) rfl
  refine ⟨going, ?_⟩
  exact {
    kept := attentive.kept
    drained := fun idle ⟨_, armed⟩ => attentive.drained going idle armed
    answered := attentive.answered
    causes := fun run => sound.cause?_eq run
    foremost := fun _ step => (step.serves attentive).heeded
    lasting := fun _ step _ _ own => step.armed own }

end Warden.Supervision

namespace Warden.Scenario

open Supervision Supervision.World Supervision.Flow

variable {allowed : RunId → Escalation → Prop}

/-- What is tried and caught leads on as it would. -/
theorem attempt_leads {flow : Flow Answer} (leads : flow.Within (Leads allowed)) :
    (attempt flow).Within (Leads allowed) := by
  refine tryCatch_within steady_leads (bounded_leads leads) fun halt => ?_
  cases halt with
  | panicked message => exact pure_within steady_leads _
  | stuck => exact pure_within steady_leads _
  | exited code => exact throw_within steady_leads _

/-- The questions of a scenario are made of steps if each of them is. -/
theorem answerAll_leads {Op : Type} {perform : Nat → Op → Flow Answer} {ops : List Op}
    (leads : ∀ index, ∀ op ∈ ops, (perform index op).Within (Leads allowed)) (index : Nat) :
    (answerAll perform index ops).Within (Leads allowed) := by
  -- By induction on the questions; looking at the world between them is no step at all.
  have steady : Steady (Leads allowed) := steady_leads
  induction ops generalizing index with
  | nil => exact pure_within steady _
  | cons op rest ih =>
    -- The view before, the answer, the views after, and then the rest.
    refine bind_within steady (look_within steady _) fun _ => ?_
    refine bind_within steady (attempt_leads (leads index op List.mem_cons_self)) fun _ => ?_
    refine bind_within steady (look_within steady _) fun _ =>
      bind_within steady (look_within steady _) fun _ => ?_
    refine bind_within steady
      (ih (fun index op member => leads index op (List.mem_cons_of_mem _ member)) _) fun _ => ?_
    exact pure_within steady _

/-- A step of a signal scenario is made of steps if it arms no listener that it may not. -/
theorem signalStep_leads {op : SignalOp}
    (may : ∀ policy, op = .arm policy → ∀ run, allowed run policy) (index : Nat) :
    (signalStep index op).Within (Leads allowed) := by
  -- One case for each question: each is one step of the process, but for the arming, which opens
  -- its run first.
  have steady : Steady (Leads allowed) := steady_leads
  cases op with
  | arm policy =>
    intro w
    -- The run is opened first, so that the listener can be armed for it.
    simp only [signalStep, Flow.arm, yields_bind, yields_answer, yields_pure]
    have opened : Leads allowed w w.openRun.2 := .single (.opens w)
    refine opened.tail (.arms w.openRun.1 policy ?_ (may policy rfl _))
    simp [openRun]
  | abort listener =>
    exact bind_within steady (fun w => Relation.ReflTransGen.single (.aborts listener w)) fun _ =>
      pure_within steady _
  | send signal =>
    refine bind_within steady (fun w => ?_) fun _ => pure_within steady _
    -- There is room, or the signal is refused.
    rw [yields_answer, trySend]
    split
    · rename_i free
      exact .single (.delivers signal free)
    · exact .refl
  | cancel listener cause =>
    exact bind_within steady
      (fun w => Relation.ReflTransGen.single (.calls .owner listener cause rfl)) fun _ =>
      pure_within steady _
  | state listener =>
    exact bind_within steady (look_within steady _) fun _ =>
      bind_within steady (look_within steady _) fun _ =>
      pure_within steady _
  | sleep millis =>
    refine bind_within steady ?_ fun _ => pure_within steady _
    exact bind_within steady (look_within steady _) fun _ => sleepUntil_within steady _

/-- Signal scenarios with calm policies are made of steps. -/
theorem signalScenario_leads (ops : List SignalOp)
    (policies : ∀ policy, .arm policy ∈ ops → policy ≠ .forceExit) :
    Leads calm {} (signalScenario ops).2 := by
  have within : (answerAll signalStep 0 ops).Within (Leads calm) := by
    refine answerAll_leads (fun index op member => signalStep_leads ?_ index) 0
    rintro policy rfl _
    exact policies policy member
  have leads : (answerAll signalStep 0 ops).Yields {} _ _ := within {}
  -- However the scenario ends, all that was done has led there.
  rcases same : signalScenario ops with ⟨result, w⟩
  have ends := leads.of_run same
  cases result with
  | ok answers => exact ends.1 answers rfl
  | error halt => exact ends.2 halt rfl

/-- Two listeners take turns: the first is asked to end while the second waits for the receiving
end. -/
def relay : List SignalOp :=
  [.arm .ignore, .arm .hook, .send .interrupt, .sleep 1, .send .terminate, .sleep 1, .abort 0,
    .send .hangup, .sleep 1,
    .cancel 1 .requested, .send .quit, .sleep 1]

/-- Where the relay ends. -/
def relayEnd : World := (signalScenario relay).2

/-- In the relay each listener takes two signals, of which it answers the first by cancelling its
run. -/
theorem relay_kept :
    relayEnd.trace.handled = [(0, .interrupt), (0, .terminate), (1, .hangup), (1, .quit)] ∧
      relayEnd.exited = none ∧ relayEnd.SignalsKept calm :=
  ⟨by decide +kernel, signals_kept (signalScenario_leads relay (by simp [relay]))⟩

end Warden.Scenario
