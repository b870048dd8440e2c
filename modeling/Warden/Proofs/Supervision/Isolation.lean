import Warden.Proofs.Supervision.SignalLaw

/-!
The runs of one supervisor, one after another: each has a cancellation of its own, and signals are
for the newest one.
-/

namespace Warden.Supervision

open World

namespace World

variable {w w' : World} {id only : TaskId} {own : RunId × Escalation}

/-- While none is armed, whoever is armed and not asked to end has been so before. -/
theorem Leads.armed_before (leads : Leads nobody w w') (armed : w'.Armed id) : w.Armed id := by
  -- By induction on the steps, back from the last one: none of them has brought a listener.
  induction leads with
  | refl => exact armed
  | tail _ step ih =>
    refine ih ?_
    obtain ⟨task', found', isListener, unasked⟩ := armed
    rcases step.before found' with ⟨task, found, remains⟩ | strange
    · have same : task'.armed? = task.armed? := by
        rw [Task.armed?, Task.armed?, remains.duty, remains.actor]
      refine ⟨task, found, same ▸ isListener, ?_⟩
      by_contra asked
      simp [remains.aborted (by simpa using asked)] at unasked
    · -- What is new is no listener.
      obtain ⟨policy, duty⟩ : ∃ policy, task'.duty = .listener policy := by
        by_contra other
        simp [armed?_eq_none.mpr (not_exists.mp other)] at isListener
      exact (strange policy duty).elim

/-- A listener keeps the run and the policy with which it was armed. -/
theorem Leads.armed {allowed : RunId → Escalation → Prop} (leads : Leads allowed w w')
    (arms : w.armed id = some own) :
    w'.armed id = some own := by
  induction leads with
  | refl => exact arms
  | tail _ step ih => exact step.armed ih

/-- While none is armed and all but one are asked to end, that one takes all signals. -/
theorem Leads.handled (leads : Leads nobody w w') (attentive : Attentive everybody w)
    (sole : ∀ other, w.Armed other → other = only) :
    ∃ later, w'.trace.handled = w.trace.handled ++ later ∧ ∀ entry ∈ later, entry.1 = only := by
  -- By induction on the steps: whoever takes a signal in one is the foremost listener there, and
  -- there is only one.
  induction leads with
  | refl => exact ⟨[], (List.append_nil _).symm, by simp⟩
  -- The signals of the last step go to whoever listens at it, and the steps up to it have brought
  -- no listener that was not there in the first world.
  | tail before step ih =>
    have attentive₁ : Attentive everybody _ :=
      (Leads.mono (fun _ _ _ => trivial) before).attentive attentive
    obtain ⟨early, same, own⟩ := ih
    obtain ⟨late, same', heeded⟩ := ((step.mono fun _ _ _ => trivial).serves attentive₁).heeded
    refine ⟨early ++ late, by rw [same', same, List.append_assoc], fun entry member => ?_⟩
    rcases List.mem_append.mp member with first | last
    · exact own entry first
    · exact sole _ (Leads.armed_before before (heeded entry last).1)

end World

/-- What listeners do is for one run alone: one listener takes all signals, and it answers them for
that run. -/
structure SignalsFor (listener : Option TaskId) (run : RunId) (policy : Escalation)
    (trace : Trace) : Prop where
  taken : ∀ entry ∈ trace.handled, listener = some entry.1
  answered : trace.heard = answers (fun _ => some (run, policy)) [] trace.handled
  calls : ∀ stamped ∈ trace, ∀ other cause, stamped.event = .cancelCall .listener other cause →
    other = run

/-- A listener cancels no run but its own. -/
theorem run_of_mem_answers {run other : RunId} {policy : Escalation} {caller : Caller}
    {cause : Cause} {before : List TaskId} {taken : List (TaskId × Signal)}
    (member : .cancelCall caller other cause ∈ answers (fun _ => some (run, policy)) before taken) :
    other = run := by
  -- By induction on what is taken; a call is the answer to a first signal, in the run of its
  -- listener.
  induction taken generalizing before with
  | nil => simp [answers] at member
  -- The first signal has the first answer; the others are answered as if they were all.
  | cons entry rest ih =>
    simp only [answers, List.mem_cons, List.mem_append, reduceCtorEq, false_or] at member
    rcases member with now | later
    · unfold answer at now
      dsimp only at now
      split at now
      -- A signal that is escalated is no call; the one that is answered first cancels the run the
      -- listener was armed for.
      · cases policy <;> simp [Escalation.answer] at now
      · simp at now
        exact now.2.1
    · exact ih later

/-- From when a listener is the only one that is not asked to end, and has heard nothing yet,
signals are for its run. -/
theorem World.Leads.signalsFor {w w' : World} {only : TaskId} {run : RunId} {policy : Escalation}
    (leads : Leads nobody w w') (attentive : Attentive everybody w)
    (arms : w.armed only = some (run, policy)) (fresh : ∀ entry ∈ w.trace.handled, entry.1 ≠ only)
    (sole : ∀ other, w.Armed other → other = only) :
    ∃ trace : Trace, w'.trace = w.trace ++ trace ∧ SignalsFor (some only) run policy trace := by
  -- The account of all that listeners have done is cut where that listener was armed.
  obtain ⟨trace, written⟩ := leads.trace
  obtain ⟨later, same, own⟩ := leads.handled attentive sole
  have attentive' : Attentive everybody w' := (leads.mono fun _ _ _ => trivial).attentive attentive
  rw [written, Trace.handled_append, List.append_cancel_left_eq] at same
  rw [← same] at own
  have answered : trace.heard = answers (fun _ => some (run, policy)) [] trace.handled := by
    -- What was done with the signals before is the same by either account.
    have before : answers w'.armed [] w.trace.handled = answers w.armed [] w.trace.handled := by
      refine answers_congr fun entry member => ⟨?_, Iff.rfl⟩
      obtain ⟨arms, known⟩ := Option.isSome_iff_exists.mp (attentive.known entry member)
      rw [known, leads.armed known]
    have whole := attentive'.answered
    rw [written, Trace.heard_append, Trace.handled_append, answers_append, before,
      attentive.answered,
      List.append_cancel_left_eq] at whole
    rw [whole]
    refine answers_congr fun entry member => ?_
    rw [own entry member]
    refine ⟨leads.armed arms, ?_⟩
    simpa using fun signal member => fresh _ member rfl
  refine ⟨trace, written, fun entry member => by rw [own entry member], answered, ?_⟩
  intro stamped member other cause same
  have heard : stamped.event ∈ trace.heard :=
    List.mem_filter.mpr ⟨List.mem_map_of_mem member, by rw [same]; rfl⟩
  rw [answered, same] at heard
  exact run_of_mem_answers heard

/-- What is asked of a supervisor, or done beside it, and how it comes out. -/
inductive Deal
  | prepared (run : RunId)
  | refused
  | supervised
  | other
deriving Repr, DecidableEq, Inhabited

/-- Whether a run is prepared and not supervised yet, after a deal. -/
def Deal.primes (primed : Bool) : Deal → Bool
  | .prepared _ => true
  | .supervised => false
  | .refused | .other => primed

/-- Whether a run has been prepared since services were supervised for the last time. -/
def isPrimed (deals : List Deal) : Bool :=
  deals.foldl Deal.primes false

/-- One deal: a run is prepared or refused, a sender of signals is asked for, services are
supervised in any run, however that ends, or anything else happens that arms no listener, such as
that signals are sent and runs are cancelled. -/
inductive Deals : Deal → Supervisor × World → Supervisor × World → Prop
  | prepares {refusal : Option String} {supervisor supervisor' : Supervisor} {run : RunId}
    {w w' : World}
    (ran : (Flow.tryPrepare refusal supervisor).run w = (.ok (.ok (supervisor', run)), w')) :
    Deals (.prepared run) (supervisor, w) (supervisor', w')
  | refuses {refusal : Option String} {supervisor : Supervisor} {fault : String} {w w' : World}
    (ran : (Flow.tryPrepare refusal supervisor).run w = (.ok (.error fault), w')) :
    Deals .refused (supervisor, w) (supervisor, w')
  | subscribes {supervisor : Supervisor} {w w' : World}
    (ran : (Flow.forwardSignals supervisor.settings.osSignals).run w = (.ok (), w')) :
    Deals .other (supervisor, w) (supervisor, w')
  | supervises {supervisor : Supervisor} {run : RunId} {services : List Placed}
    {result : Except Halt (Option RunError)} {w w' : World}
    (ran : (Flow.startServices supervisor run services).run w = (result, w')) :
    Deals .supervised (supervisor, w) (supervisor.spent, w')
  | others {supervisor : Supervisor} {w w' : World} (leads : Leads nobody w w') :
    Deals .other (supervisor, w) (supervisor, w')

/-- Deals that are made one after another. -/
inductive Dealt : List Deal → Supervisor × World → Supervisor × World → Prop
  | none (state : Supervisor × World) : Dealt [] state state
  | next {deals : List Deal} {deal : Deal} {state state' state'' : Supervisor × World}
    (before : Dealt deals state state')
    (last : Deals deal state' state'') : Dealt (deals ++ [deal]) state state''

/-- What holds of a supervisor and its process at any time: only the newest listener is not asked to
end. -/
structure Sole (supervisor : Supervisor) (w : World) : Prop where
  attentive : Attentive everybody w
  sound : w.Sound
  sole : ∀ id, w.Armed id → supervisor.listener = some id

/-- What a run that is prepared comes with: a run that is new, a group, and the only listener that
is not asked to end, which has heard nothing yet. -/
structure Succeeds (supervisor : Supervisor) (w : World) (supervisor' : Supervisor) (run : RunId)
    (w' : World) : Prop where
  new : w.runs[run]? = none
  primed : supervisor'.group.isSome = true
  leads : Leads everybody w w'
  listener : ∃ id, supervisor'.listener = some id ∧
    w'.armed id = some (run, supervisor.settings.escalation) ∧
    (∀ entry ∈ w'.trace.handled, entry.1 ≠ id) ∧ ∀ other, w'.Armed other → other = id

variable {supervisor supervisor' : Supervisor} {run : RunId} {w w' : World} {deal : Deal}
  {deals : List Deal}

namespace World

/-- A listener that is asked to end is not armed any more. -/
theorem not_armed_abort (attentive : Attentive everybody w) (id : TaskId) :
    ¬ (w.abort id).Armed id := by
  rintro ⟨task', found', isListener, unasked⟩
  rw [task?_abort] at found'
  obtain ⟨task, found, rfl⟩ := Option.map_eq_some_iff.mp found'
  obtain ⟨unasked, ended⟩ : task.aborted = false ∧ task.ending.isSome = true := by
    simpa using unasked
  -- A listener that nobody has asked to end goes on.
  rw [attentive.lasting id task found isListener unasked] at ended
  contradiction

/-- Whoever is armed after a listener has been armed is that one or was armed before. -/
theorem armed_spawn {id : TaskId} {task : Task} (armed : (w.spawn task).2.Armed id) :
    id = w.tasks.length ∨ w.Armed id := by
  obtain ⟨task', found, armed⟩ := armed
  rw [task?_spawn] at found
  split at found
  · exact .inl ‹_›
  · exact .inr ⟨task', found, armed⟩

end World

namespace Flow

/-- A run that is prepared is a new one, and its listener is the only one that is not asked to
end. -/
theorem prepare_succeeds (sole : Sole supervisor w) :
    (prepare supervisor).Yields w (fun prepared => Succeeds supervisor w prepared.1 prepared.2)
      fun _ _ => False := by
  simp only [prepare, arm, yields_bind, yields_answer, yields_change, yields_notice, yields_pure]
  refine (forwardSignals_leads nobody _).mono ?_ fun _ _ halts => halts
  rintro _ w₁ ⟨forwarding, runs⟩
  -- The signals are subscribed to in a world that has just got its run; nobody else gets one.
  have leads₁ : Leads nobody w w₁ := Relation.ReflTransGen.head (.opens w) forwarding
  have attentive₁ : Attentive everybody w₁ :=
    (leads₁.mono fun _ _ _ => trivial).attentive sole.attentive
  have opened : w.runs.length < w₁.runs.length := by
    rw [runs]
    simp [openRun]
  -- The new listener is armed, then the stale one is asked to end, and the unused group is dropped.
  obtain ⟨w₂, spawned⟩ :
    ∃ w₂, w₂ = (w₁.spawn (listenerTask w.runs.length supervisor.settings.escalation)).2 := ⟨_, rfl⟩
  obtain ⟨w₃, relieved⟩ : ∃ w₃, w₃ = supervisor.listener.elim w₂ fun stale => w₂.abort stale :=
    ⟨_, rfl⟩
  obtain ⟨w₄, dropped⟩ : ∃ w₄, w₄ = supervisor.group.elim w₃ fun unused => w₃.dropGroup unused :=
    ⟨_, rfl⟩
  have arming : Proceeds everybody w₁ w₂ := spawned ▸ .arms _ _ opened trivial
  have attentive₂ : Attentive everybody w₂ := (arming.serves attentive₁).attentive
  have relieving : Leads nobody w₂ w₃ := relieved ▸ relieve_leads supervisor.listener w₂
  have ending : Leads nobody w₃ ((w₄.openGroup w.runs.length).2.notice .main .runPrepared) := by
    rw [dropped]
    exact ((drop_leads supervisor.group w₃).trans (openGroup_leads _ _)).tail (.does (.tells _ _))
  -- Neither the old listener's end nor the group's says anything, so that the trace is that of the
  -- world in which the new one was armed.
  have keeps : Keeps w₂ w₄ := by
    rw [dropped, relieved]
    exact (relieve_keeps supervisor.listener w₂).trans (drop_keeps supervisor.group _)
  have handled : ((w₄.openGroup w.runs.length).2.notice .main .runPrepared).trace.handled =
    w₁.trace.handled := by
    show Trace.handled (w₄.trace ++ [_]) = _
    rw [keeps.trace, spawned, Trace.handled_append, Trace.handled_singleton rfl, List.append_nil]
    rfl
  have own : w₂.armed w₁.tasks.length = some (w.runs.length, supervisor.settings.escalation) := by
    rw [spawned, armed_eq_some]
    exact ⟨_, by rw [task?_spawn, if_pos rfl], rfl⟩
  have whole : Succeeds supervisor w
      { supervisor with group := some w₄.groups.length, listener := some w₁.tasks.length }
      w.runs.length ((w₄.openGroup w.runs.length).2.notice .main .runPrepared) := by
    refine ⟨List.getElem?_eq_none (Nat.le_refl _), rfl, ?_, w₁.tasks.length, rfl, ?_,
      fun entry member same => ?_, ?_⟩
    · have later : Leads everybody w₂ _ :=
        Leads.mono (fun _ _ _ => trivial) (relieving.trans ending)
      exact ((leads₁.mono fun _ _ _ => trivial).tail arming).trans later
    · exact Leads.armed (relieving.trans ending) own
    · -- Whoever has taken a signal was there before the new listener.
      rw [handled] at member
      have known := attentive₁.known entry member
      rw [same, World.armed, task?, List.getElem?_eq_none (Nat.le_refl _)] at known
      contradiction
    -- Only the new one listens at the end: the stale one was asked to end, and there was no other.
    · intro other armed
      have armed₃ : w₃.Armed other := ending.armed_before armed
      have armed₂ : w₂.Armed other := relieving.armed_before armed₃
      rw [spawned] at armed₂
      refine (armed_spawn armed₂).resolve_right fun armed₁ => ?_
      -- Of those that were there before, only the stale one was not asked to end, and now it is.
      have stale : supervisor.listener = some other := sole.sole other (leads₁.armed_before armed₁)
      rw [relieved, stale] at armed₃
      exact not_armed_abort attentive₂ other armed₃
  rw [dropped, relieved, spawned] at whole
  exact whole

/-- A preparation that gives a run has succeeded, and one that is refused has armed no listener. -/
theorem tryPrepare_succeeds (sole : Sole supervisor w) (refusal : Option String) :
    (tryPrepare refusal supervisor).Yields w
      (fun outcome w' => match outcome with
        | .ok (supervisor', run) => Succeeds supervisor w supervisor' run w'
        | .error _ => Leads nobody w w') fun _ _ => False := by
  simp only [tryPrepare, yields_bind, yields_look]
  split
  · simp only [yields_bind, yields_answer, yields_pure]
    exact .single (.opens w)
  · rw [yields_bind]
    exact (prepare_succeeds sole).mono (fun _ _ succeeds => succeeds) fun _ _ halts => halts

end Flow

/-- Whatever is dealt but a run that is prepared arms no listener, and leaves the newest one what it
is. -/
theorem Deals.leads (sole : Sole supervisor w)
    (dealt : Deals deal (supervisor, w) (supervisor', w')) (other : ∀ run, deal ≠ .prepared run) :
    Leads nobody w w' ∧ supervisor'.listener = supervisor.listener := by
  cases dealt with
  -- Only a refused preparation and one that goes wrong leave the newest listener what it is.
  | prepares ran => exact absurd rfl (other _)
  | refuses ran => exact ⟨((Flow.tryPrepare_succeeds sole _).of_run ran).1 _ rfl, rfl⟩
  | subscribes ran =>
    have forwarding : (Flow.forwardSignals supervisor.settings.osSignals).Yields w _ fun _ _ =>
      False :=
      Flow.forwardSignals_leads nobody _
    exact ⟨((forwarding.of_run ran).1 () rfl).1, rfl⟩
  | supervises ran => exact ⟨(Flow.startServices_leads supervisor _ _).of_run ran, rfl⟩
  | others leads => exact ⟨leads, rfl⟩

/-- A listener that was the only one stays so for as long as none is armed. -/
theorem Sole.leads (sole : Sole supervisor w) (leads : Leads nobody w w')
    (same : supervisor'.listener = supervisor.listener) : Sole supervisor' w' where
  attentive := (leads.mono fun _ _ _ => trivial).attentive sole.attentive
  sound := leads.sound sole.sound
  sole := fun id armed => same.trans (sole.sole id (leads.armed_before armed))

/-- The listener of a run that has just been prepared is the only one. -/
theorem Succeeds.sole (succeeds : Succeeds supervisor w supervisor' run w')
    (sole : Sole supervisor w) :
    Sole supervisor' w' where
  attentive := succeeds.leads.attentive sole.attentive
  sound := succeeds.leads.sound sole.sound
  sole := by
    intro id armed
    obtain ⟨newest, own, _, _, only⟩ := succeeds.listener
    rw [own, only id armed]

/-- Every deal leaves the newest listener the only one, and primes the supervisor as it should. -/
theorem Deals.sole (sole : Sole supervisor w)
    (dealt : Deals deal (supervisor, w) (supervisor', w')) :
    Sole supervisor' w' ∧ supervisor'.group.isSome = deal.primes supervisor.group.isSome := by
  -- Only a run that is prepared brings a listener and a group.
  by_cases other : ∀ run, deal ≠ .prepared run
  · obtain ⟨leads, same⟩ := dealt.leads sole other
    refine ⟨sole.leads leads same, ?_⟩
    cases dealt with
    | prepares ran => exact absurd rfl (other _)
    | _ => rfl
  · obtain ⟨run, prepared⟩ : ∃ run, deal = .prepared run := by simpa using other
    subst prepared
    cases dealt with
    | prepares ran =>
      have succeeds : Succeeds supervisor w supervisor' run w' :=
        ((Flow.tryPrepare_succeeds sole _).of_run ran).1 _ rfl
      exact ⟨succeeds.sole sole, succeeds.primed⟩

/-- What holds before anything is dealt and is kept by each deal holds after all of them. -/
theorem Dealt.holds {P : List Deal → Supervisor → World → Prop}
    (dealt : Dealt deals (supervisor, w) (supervisor', w')) (start : P [] supervisor w)
    (keep : ∀ {deals deal supervisor supervisor' w w'}, P deals supervisor w →
      Deals deal (supervisor, w) (supervisor', w') → P (deals ++ [deal]) supervisor' w') :
    P deals supervisor' w' := by
  -- By induction on the deals; the two ends are states of a supervisor and its world.
  generalize first : (supervisor, w) = begun at dealt
  generalize last : (supervisor', w') = state at dealt
  induction dealt generalizing supervisor' w' with
  | none =>
    cases first
    cases last
    exact start
  | next _ dealt ih =>
    cases last
    exact keep (ih first rfl) dealt

/-- Whatever is dealt, only the newest listener is not asked to end, and a group is there if and
only if a run has been prepared since services were supervised. -/
theorem Dealt.sole {settings : Settings} (dealt : Dealt deals ({ settings }, {}) (supervisor, w)) :
    Sole supervisor w ∧ supervisor.group.isSome = isPrimed deals := by
  -- At first the supervisor has no group, and nobody listens in the process.
  refine dealt.holds (P := fun deals supervisor w => Sole supervisor w ∧
    supervisor.group.isSome = isPrimed deals) ?_ ?_
  · exact ⟨⟨attentive_fresh, sound_fresh, by rintro id ⟨task, found, _⟩; simp [task?] at found⟩,
      rfl⟩
  · rintro deals deal _ _ _ _ ⟨sole, primed⟩ dealt
    obtain ⟨sole', primed'⟩ := dealt.sole sole
    refine ⟨sole', ?_⟩
    rw [primed', primed, isPrimed, isPrimed, List.foldl_append]
    rfl

/-- As long as no run is prepared, all that is dealt arms no listener. -/
theorem Dealt.leads (sole : Sole supervisor w)
    (dealt : Dealt deals (supervisor, w) (supervisor', w'))
    (others : ∀ run, .prepared run ∉ deals) : Leads nobody w w' := by
  -- The newest listener remains the only one.
  suffices kept : (∀ run, .prepared run ∉ deals) → Leads nobody w w' ∧
    Sole supervisor' w' by exact (kept others).1
  refine dealt.holds (P := fun deals later w' => (∀ run, .prepared run ∉ deals) →
    Leads nobody w w' ∧ Sole later w') ?_ ?_
  · exact fun _ => ⟨.refl, sole⟩
  · intro deals deal _ _ _ _ before dealt others
    obtain ⟨leads, sole₁⟩ := before fun run member => others run (List.mem_append_left _ member)
    obtain ⟨leads', same⟩ := dealt.leads sole₁ fun run same => others run (by simp [same])
    exact ⟨leads.trans leads', sole₁.leads leads' same⟩

namespace World

/-- A run that is cancelled leaves all others as they are. -/
theorem runs_cancel {other : RunId} (caller : Caller) (cause : Cause) (different : other ≠ run) :
    (w.cancel caller run cause).2.runs[other]? = w.runs[other]? := by
  -- Only the run itself is changed, and waking those who wait for it changes no run.
  have tripped : ∀ r, (w.trip caller run cause r).runs[other]? = w.runs[other]? := by
    intro r
    -- Whoever is woken has a turn, and the runs stay as the trip has left them.
    obtain ⟨ready, same⟩ :=
      wakeAll_eq (w := (w.emit (.cancelCall caller run cause)).changeRun run fun _ =>
      ⟨(r.state.cancel cause).2, []⟩) r.waiters
    rw [trip, same]
    simp [changeRun, emit, Ne.symm different]
  unfold cancel
  split
  · rfl
  · split
    · exact tripped _
    · exact tripped _

end World

/-- The runs of one supervisor are isolated from each other, after what was dealt. -/
structure Isolated (deals : List Deal) (supervisor : Supervisor) (w : World) : Prop where
  /-- Services are refused if and only if no run has been prepared since services were
  supervised. -/
  refused : ∀ run services, (Flow.startServices supervisor run services).run w =
    (.error (.panicked notPrepared), w) ↔
    isPrimed deals = false
  /-- Whoever cancels a run leaves all others as they are. -/
  apart : ∀ caller run cause other, other ≠ run → (w.cancel caller run cause).2.runs[other]? =
    w.runs[other]?
  /-- The cause of each run is that of the first call that ever cancelled this very run. -/
  causes : ∀ run, w.cause? run = (w.trace.firstCall run).map (·.cause)
  /-- From when a run is prepared until the next one is, signals are for that run, whenever they
  were sent. -/
  signals : ∀ refusal prepared run w₁, (Flow.tryPrepare refusal supervisor).run w =
    (.ok (.ok (prepared, run)), w₁) →
    w.runs[run]? = none ∧
    ∀ later after w₂, Dealt later (prepared, w₁) (after, w₂) → (∀ run, .prepared run ∉ later) →
      ∃ trace : Trace, w₂.trace = w₁.trace ++ trace ∧
        SignalsFor prepared.listener run supervisor.settings.escalation trace

/-- Whatever is dealt with one supervisor, its runs are isolated from each other. -/
theorem runs_isolated {settings : Settings}
    (dealt : Dealt deals ({ settings }, {}) (supervisor, w)) :
    Isolated deals supervisor w := by
  obtain ⟨sole, primed⟩ := dealt.sole
  refine ⟨fun run services => ⟨fun refused => ?_, fun unprimed => ?_⟩, fun caller run cause other =>
    runs_cancel caller cause,
    fun run => sole.sound.cause?_eq run, fun refusal prepared run w₁ ran => ?_⟩
  · -- With a group the watcher of the run would have been spawned.
    rw [← primed, Option.isSome_eq_false_iff, Option.isNone_iff_eq_none]
    by_contra some_
    obtain ⟨group, own⟩ := Option.ne_none_iff_exists'.mp some_
    have watches : (Flow.startServices supervisor run services).Yields w
        (fun _ => Leads nobody (w.spawnAwaited group (watcherTask run)).2)
        fun _ => Leads nobody (w.spawnAwaited group (watcherTask run)).2 :=
          Flow.startServices_watches own services w
    have leads : Leads nobody (w.spawnAwaited group (watcherTask run)).2 w :=
      (watches.of_run refused).2 _ rfl
    have spawned : (w.spawnAwaited group (watcherTask run)).2.task? w.tasks.length =
      some (watcherTask run) := by
      have spawned := task?_spawn (watcherTask run) w w.tasks.length
      -- That watcher would still be a task of the world, which cannot be as the world has not
      -- changed.
      rwa [if_pos rfl] at spawned
    obtain ⟨task, found, _⟩ := leads.remains spawned
    exact Nat.lt_irrefl _ (List.getElem?_eq_some_iff.mp found).1
  · rw [← primed, Option.isSome_eq_false_iff, Option.isNone_iff_eq_none] at unprimed
    exact Flow.run_startServices_none unprimed services w
  -- The listener of the new run is the only one, and none of the later deals arms another.
  · have succeeds : Succeeds supervisor w prepared run w₁ :=
      ((Flow.tryPrepare_succeeds sole _).of_run ran).1 _ rfl
    refine ⟨succeeds.new, fun later after w₂ dealt others => ?_⟩
    obtain ⟨newest, own, arms, fresh, only⟩ := succeeds.listener
    have leads := dealt.leads (succeeds.sole sole) others
    rw [own]
    exact leads.signalsFor (succeeds.sole sole).attentive arms fresh only

/-- A supervisor that does not exit by itself. -/
def lenient : Settings := { osSignals := false, escalation := .ignore }

/-- A world in which a run has been prepared, and a signal lies in the channel. -/
def estate : World :=
  ((Flow.tryPrepare none { settings := lenient }).run {}).2.deliver .interrupt

/-- The supervisor of that run. -/
def testator : Supervisor := { settings := lenient, group := some 0, listener := some 0 }

/-- Where it comes when another run is prepared before the signal is taken. -/
def inheritance : World :=
  ((do
    let _ ← Flow.tryPrepare none testator
    Flow.bounded (Flow.sleep 1) : Flow Unit).run estate).2

/-- Two deals lead to the estate: its run is prepared, and a signal is sent. -/
theorem estate_dealt :
    Dealt [.prepared 0, .other] ({ settings := lenient }, {}) (testator, estate) := by
  have prepared : (Flow.tryPrepare none { settings := lenient }).run {} =
      (.ok (.ok (testator, 0)), ((Flow.tryPrepare none { settings := lenient }).run {}).2) :=
    Flow.run_of_result rfl
  exact .next (.next (.none _) (.prepares prepared)) (.others (.single (.delivers .interrupt rfl)))

/-- The second run inherits the signal that was sent before it was prepared, and the first one is
never cancelled. -/
theorem inheritance_isolated :
    (inheritance.cause? 0, inheritance.cause? 1) = (none, some (.signal .interrupt)) ∧
    Isolated [.prepared 0, .other] testator estate :=
  ⟨by decide +kernel, runs_isolated estate_dealt⟩

end Warden.Supervision
