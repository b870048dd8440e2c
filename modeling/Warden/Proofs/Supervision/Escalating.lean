import Warden.Proofs.Supervision.Isolation

/-!
What becomes of further signals: the listener of a run hands them to its policy until the next run
is prepared, whether or not its own run is over by then.
-/

namespace Warden.Supervision

open World

/-- Whether an event tells what a policy does with a signal. -/
def Event.isEscalation : Event → Bool
  | .notice .task (.forcingExit _) | .notice .task (.signalIgnored _) | .notice .task
    (.signalEscalated _) => true
  | .deed (.escalated _) => true
  | _ => false

/-- Everything that policies have done, in order. -/
def Trace.escalations (trace : Trace) : List Event :=
  (trace.map (·.event)).filter (·.isEscalation)

/-- The signals among those taken that are not the first one, if none was taken before. -/
def further (hasHeard : Bool) (taken : List (TaskId × Signal)) : List Signal :=
  (if hasHeard then taken else taken.drop 1).map (·.2)

@[simp] theorem Trace.escalations_append (before after : Trace) :
    escalations (before ++ after) = before.escalations ++ after.escalations := by
  simp [escalations]

/-- Only listeners follow policies. -/
theorem Event.ofListener_of_isEscalation {event : Event} (escalation : event.isEscalation = true) :
    event.ofListener = true := by
  unfold isEscalation at escalation
  split at escalation <;> first | rfl | contradiction

/-- What a policy does is nothing but its own. -/
theorem isEscalation_of_mem_answer {policy : Escalation} {signal : Signal} {event : Event}
    (member : event ∈ policy.answer signal) : event.isEscalation = true := by
  cases policy <;>
    simp only [Escalation.answer, List.mem_cons, List.not_mem_nil, or_false] at member
  · rw [member]
    rfl
  · rw [member]
    rfl
  · rcases member with rfl | rfl <;> rfl

/-- The process is forced to exit only by the policy of that name, and for the signal that it was
handed. -/
theorem forceExit_of_mem_answer {policy : Escalation} {signal signal' : Signal}
    (member : .notice .task (.forcingExit signal') ∈ policy.answer signal) :
    policy = .forceExit ∧ signal' = signal := by
  cases policy <;> simp [Escalation.answer] at member
  exact ⟨rfl, member⟩

/-- What policies do is part of what listeners do. -/
theorem Trace.escalations_eq (trace : Trace) :
    trace.escalations = trace.heard.filter (·.isEscalation) := by
  rw [heard, List.filter_filter, escalations]
  refine List.filter_congr fun event _ => ?_
  cases own : event.isEscalation with
  | false => rfl
  | true => rw [Event.ofListener_of_isEscalation own, Bool.and_self]

/-- One listener hands its policy all signals that it takes but the first, one after another. -/
theorem escalations_answers {run : RunId} {policy : Escalation} {only : TaskId}
    {before : List TaskId} {taken : List (TaskId × Signal)}
    (own : ∀ entry ∈ taken, entry.1 = only) :
    (answers (fun _ => some (run, policy)) before taken).filter (·.isEscalation) =
      (further (decide (only ∈ before)) taken).flatMap fun signal => policy.answer signal := by
  -- By induction on the signals: whoever takes one has heard one from then on.
  induction taken generalizing before with
  | nil => cases h : decide (only ∈ before) <;> rfl
  | cons entry rest ih =>
    obtain ⟨id, signal⟩ := entry
    obtain rfl : id = only := own _ List.mem_cons_self
    have later :
      (answers (fun _ => some (run, policy)) (id :: before) rest).filter (·.isEscalation) = _ :=
      ih fun entry member => own entry (List.mem_cons_of_mem _ member)
    simp only [List.mem_cons, true_or, decide_true, further, if_true] at later
    have taking : (Event.handled id signal).isEscalation = false := rfl
    have whole : (policy.answer signal).filter (·.isEscalation) = policy.answer signal :=
      List.filter_eq_self.mpr fun event member => isEscalation_of_mem_answer member
    simp only [answers, List.filter_cons, taking, List.filter_append, later]
    -- Only with a signal before it is a signal a further one.
    by_cases heard : id ∈ before
    · simp [answer, further, heard, whole]
    · -- A first signal is received and cancels the run, which is no matter of the policy.
      simp [answer, further, heard, Event.isEscalation]

namespace World

variable {allowed : RunId → Escalation → Prop} {w w' : World} {id : TaskId} {task : Task}
  {run : RunId} {policy : Escalation} {rest : List TaskId}

/-- The process goes on as it did, or it exits by a policy that says so, with the code of the
signal. -/
def Exits (w w' : World) : Prop :=
  w'.exited = w.exited ∨ ∃ signal, ∃ later : Trace, w'.trace = w.trace ++ later ∧
    .notice .task (.forcingExit signal) ∈ later.escalations ∧ w'.exited = some (exitCode signal)

/-- What has only been written before does not matter. -/
theorem Exits.after {w₁ : World} {early : Trace} (exits : Exits w₁ w') (same : w₁.exited = w.exited)
    (written : w₁.trace = w.trace ++ early) : Exits w w' := by
  rcases exits with still | ⟨signal, late, written', forced, gone⟩
  · exact .inl (still.trans same)
  · refine .inr ⟨signal, early ++ late, by rw [written', written, List.append_assoc], ?_, gone⟩
    simp only [Trace.escalations_append, List.mem_append]
    exact .inr forced

/-- A policy that forces the exit says so. -/
theorem escalate_exits (policy : Escalation) (signal : Signal) (w : World) :
    Exits w (w.escalate policy signal) := by
  cases policy with
  | ignore | hook => exact .inl rfl
  | forceExit =>
    exact .inr ⟨signal, [⟨w.now, .notice .task (.forcingExit signal)⟩], rfl,
      List.mem_singleton_self _, rfl⟩

/-- A listener that serves forces the exit only by its policy. -/
theorem listen_exits (id : TaskId) (run : RunId) (policy : Escalation) (hasHeard : Bool)
    (w : World) :
    Exits w (w.listen id run policy hasHeard) := by
  unfold World.listen
  split
  · -- A first signal cancels the run, which does not end the process; any other one is left to the
    -- policy.
    rename_i signal full
    -- A first signal cancels the run, which ends no process.
    cases hasHeard with
    | false => exact .inl ((exited_cancel _ _ _ _).trans (exited_vacate w))
    -- A further one is left to the policy, and the exit it may force is written where it happens.
    | true =>
      obtain ⟨early, written, _⟩ := (vacate_hears (w := w) id signal).trace
      have escalated : Exits w ((w.vacate.emit (.handled id signal)).escalate policy signal) :=
        (escalate_exits policy signal _).after (exited_vacate w) written
      exact escalated
  · exact .inl rfl

/-- So does its turn, whatever place it has. -/
theorem pollListener_exits (id : TaskId) (task : Task) (policy : Escalation) (w : World) :
    Exits w (w.pollListener id task policy) := by
  -- It serves, or it has been handed the receiving end, or it finds that free; otherwise it goes on
  -- waiting.
  unfold World.pollListener
  split
  · exact listen_exits id _ policy _ w
  · split
    · exact listen_exits id _ policy false w
    · split
      · exact listen_exits id _ policy false (w.changeChannel fun c => { c with holder := some id })
      · split <;> exact .inl rfl

/-- So does any turn. -/
theorem Attentive.poll_exits (attentive : Attentive allowed w) (first : w.ready = id :: rest) :
    Exits w (({ w with ready := rest } : World).poll id) := by
  have turned : Turned w id rest (({ w with ready := rest } : World).poll id) :=
    attentive.turned rest
  generalize ({ w with ready := rest } : World).poll id = w' at turned
  -- Whoever is no listener leaves the process to go on, and so does a listener that only leaves the
  -- line.
  cases turned with
  | idle => exact .inl rfl
  | beside found other beside =>
    obtain ⟨_, _, _, feeds, _, rfl⟩ := beside
    exact .inl feeds.exited
  | leaves going found live own asked =>
    exact .inl (attentive.dropTask going first found own asked live).2.2
  | listens going found own unasked => exact pollListener_exits id _ _ { w with ready := rest }

/-- In every step the process exits only so. -/
theorem Proceeds.exits (proceeds : Proceeds allowed w w') (attentive : Attentive allowed w) :
    Exits w w' := by
  -- One case for each kind of step; but for turns, none of them ends the process.
  cases proceeds with
  | beats beat =>
    cases beat with
    | turn id rest first early => exact attentive.poll_exits first
    | arrive => exact .inl admitRaised_feeds.exited
    | resume => exact .inl wakeYielded_feeds.exited
    | tick idle still unmet early => exact .inl (advance_feeds _).exited
  | does does => exact .inl does.feeds.exited
  | delivers signal free => exact .inl (deliver_feeds (buffered_of_free free)).exited
  | calls caller run cause here => exact .inl (exited_cancel _ _ _ _)
  | aborts id => exact .inl (abort_keeps id w).exited
  | tells | opens | arms | spawns | books => exact .inl rfl

/-- Wherever steps lead, the process has exited only by a policy that has said so on the way. -/
theorem Leads.exits (leads : Leads allowed w w') (attentive : Attentive allowed w)
    (going : w.exited = none) {code : Nat} (gone : w'.exited = some code) :
    ∃ signal, ∃ later : Trace, w'.trace = w.trace ++ later ∧
      .notice .task (.forcingExit signal) ∈ later.escalations ∧ code = exitCode signal := by
  -- By induction on the steps: the process has exited in the last one or before.
  induction leads generalizing code with
  | refl => exact absurd (going.symm.trans gone) nofun
  | tail before step ih =>
    obtain ⟨early, written⟩ := Leads.trace before
    rcases step.exits (Leads.attentive before attentive) with same | ⟨signal, late, written',
      forced, same⟩
    -- It had exited before, and what forced it is still written.
    · obtain ⟨signal, early, written, forced, own⟩ := ih (same.symm.trans gone)
      obtain ⟨late, written'⟩ := step.trace
      refine ⟨signal, early ++ late, by rw [written', written, List.append_assoc], ?_, own⟩
      simp only [Trace.escalations_append, List.mem_append]
      exact .inl forced
    -- It exits in this step.
    · refine ⟨signal, early ++ late, by rw [written', written, List.append_assoc], ?_, ?_⟩
      · simp only [Trace.escalations_append, List.mem_append]
        exact .inr forced
      · exact Option.some.inj (gone.symm.trans same)

/-- A listener that has been asked to end takes no signal any more. -/
theorem Leads.unheeded (leads : Leads everybody w w') (attentive : Attentive everybody w)
    (known : (w.armed id).isSome = true) (asked : ¬ w.Armed id) :
    ∃ later, w'.trace.handled = w.trace.handled ++ later ∧ ∀ entry ∈ later, entry.1 ≠ id := by
  obtain ⟨own, armed⟩ := Option.isSome_iff_exists.mp known
  obtain ⟨task, found, isListener⟩ := armed_eq_some.mp armed
  have aborted : task.aborted = true := by
    by_contra unasked
    exact asked ⟨task, found, by rw [isListener]; rfl, by simpa using unasked⟩
  -- By induction on the steps: whoever takes a signal is armed then, and this one never is again.
  induction leads with
  | refl => exact ⟨[], (List.append_nil _).symm, by simp⟩
  | tail before step ih =>
    obtain ⟨early, same, others⟩ := ih
    obtain ⟨late, same', heeded⟩ := (step.serves (Leads.attentive before attentive)).heeded
    refine ⟨early ++ late, by rw [same', same, List.append_assoc], fun entry member => ?_⟩
    rcases List.mem_append.mp member with first | last
    · exact others entry first
    -- It would have to be armed and not asked to end at that time, but it has been asked since
    -- before.
    · rintro rfl
      obtain ⟨task', found', _, unasked⟩ := (heeded entry last).1
      obtain ⟨task'', found'', remains⟩ := Leads.remains before found
      cases found'.symm.trans found''
      exact absurd (unasked.symm.trans (remains.aborted aborted)) nofun

end World

/-- What becomes of the signals that come while a listener is the newest one, from one world to
another: it takes them all, and hands its policy those that are not the first it has ever heard, one
after another; the process only exits so. -/
structure Escalates (listener : Option TaskId) (policy : Escalation) (hasHeard : Bool)
    (w w' : World) (trace : Trace) :
    Prop where
  written : w'.trace = w.trace ++ trace
  taken : ∀ entry ∈ trace.handled, listener = some entry.1
  escalations : trace.escalations = (further hasHeard trace.handled).flatMap fun signal =>
    policy.answer signal
  exits : w.exited = none → ∀ code, w'.exited = some code →
    policy = .forceExit ∧ ∃ signal ∈ further hasHeard trace.handled, code = exitCode signal

/-- What a supervisor that has been dealt with promises for the next run that it prepares. -/
structure EscalatesUntilNext (supervisor : Supervisor) (w : World) : Prop where
  /-- At any time before another run is prepared, all signals but the first have been escalated,
  each one once. -/
  within : ∀ refusal prepared run w₁, (Flow.tryPrepare refusal supervisor).run w =
    (.ok (.ok (prepared, run)), w₁) →
    ∀ deals later w₂, Dealt deals (prepared, w₁) (later, w₂) → (∀ run, .prepared run ∉ deals) →
      ∃ trace, Escalates prepared.listener supervisor.settings.escalation false w₁ w₂ trace
  /-- So are those that come after such a time, even if the services of the run have been supervised
  by then: all but the first one if the run had not heard any before, and all of them if it had. -/
  beyond : ∀ refusal prepared run w₁, (Flow.tryPrepare refusal supervisor).run w =
    (.ok (.ok (prepared, run)), w₁) →
    ∀ deals later w₂ trace, Dealt deals (prepared, w₁) (later, w₂) →
      (∀ run, .prepared run ∉ deals) →
      w₂.trace = w₁.trace ++ trace →
      ∀ more last w₃, Dealt more (later, w₂) (last, w₃) → (∀ run, .prepared run ∉ more) →
        ∃ trace', Escalates prepared.listener supervisor.settings.escalation
          (!trace.handled.isEmpty) w₂ w₃ trace'
  /-- Once another run has been prepared, none is escalated for this one, whatever happens then. -/
  ends : ∀ refusal prepared run w₁, (Flow.tryPrepare refusal supervisor).run w =
    (.ok (.ok (prepared, run)), w₁) →
    ∀ deals later w₂, Dealt deals (prepared, w₁) (later, w₂) → (∀ run, .prepared run ∉ deals) →
      ∀ refusal' next run' w₃, (Flow.tryPrepare refusal' later).run w₂ =
        (.ok (.ok (next, run')), w₃) →
        ∀ more last w₄, Dealt more (next, w₃) (last, w₄) →
          ∃ trace : Trace, w₄.trace = w₃.trace ++ trace ∧
            ∀ entry ∈ trace.handled, prepared.listener ≠ some entry.1

variable {supervisor supervisor' : Supervisor} {run : RunId} {policy : Escalation}
  {listener : TaskId} {w w' : World} {deals : List Deal}

/-- The first of all signals is the first of those that come first, if there are any. -/
theorem further_append (taken more : List (TaskId × Signal)) :
    further false (taken ++ more) = further false taken ++ further (!taken.isEmpty) more := by
  -- If there are any, none of those that come after them is the first.
  cases taken <;> simp [further]

/-- Signals for one run are escalated as its listener answers them. -/
theorem SignalsFor.escalations {trace : Trace}
    (signals : SignalsFor (some listener) run policy trace) :
    trace.escalations = (further false trace.handled).flatMap fun signal =>
      policy.answer signal := by
  have own : ∀ entry ∈ trace.handled, entry.1 = listener :=
    fun entry member => (Option.some.inj (signals.taken entry member)).symm
  rw [trace.escalations_eq, signals.answered, escalations_answers own]
  rfl

/-- What comes after some of them is escalated from the first on, unless nothing was heard
before. -/
theorem SignalsFor.escalations_after {before after : Trace}
    (first : SignalsFor (some listener) run policy before)
    (whole : SignalsFor (some listener) run policy (before ++ after)) :
    after.escalations = (further (!before.handled.isEmpty) after.handled).flatMap fun signal =>
      policy.answer signal := by
  have both := whole.escalations
  rwa [Trace.escalations_append, first.escalations, Trace.handled_append, further_append,
    List.flatMap_append,
    List.append_cancel_left_eq] at both

/-- Where all that is escalated is known, so is for which signals the process may have exited. -/
theorem World.Leads.escalates {allowed : RunId → Escalation → Prop} {hasHeard : Bool}
    {trace : Trace} (leads : Leads allowed w w') (attentive : Attentive allowed w)
    (written : w'.trace = w.trace ++ trace)
    (taken : ∀ entry ∈ trace.handled, some listener = some entry.1)
    (escalations : trace.escalations = (further hasHeard trace.handled).flatMap fun signal =>
      policy.answer signal) :
    Escalates (some listener) policy hasHeard w w' trace := by
  refine ⟨written, taken, escalations, fun going code gone => ?_⟩
  -- The process has exited by a policy that said so, and policies say no more than what is
  -- escalated.
  obtain ⟨signal, later, written', forced, same⟩ := leads.exits attentive going gone
  cases List.append_cancel_left (written.symm.trans written')
  rw [escalations, List.mem_flatMap] at forced
  obtain ⟨signal', heard, member⟩ := forced
  obtain ⟨forces, rfl⟩ := forceExit_of_mem_answer member
  exact ⟨forces, signal, heard, same⟩

/-- One deal is made of steps. -/
theorem Deals.steps {deal : Deal} (sole : Sole supervisor w)
    (dealt : Deals deal (supervisor, w) (supervisor', w')) :
    Leads everybody w w' := by
  -- Only a run that is prepared arms a listener.
  by_cases other : ∀ run, deal ≠ .prepared run
  · exact (dealt.leads sole other).1.mono fun _ _ _ => trivial
  · obtain ⟨run, rfl⟩ : ∃ run, deal = .prepared run := by simpa using other
    cases dealt with
    | prepares ran =>
      have succeeds : Succeeds supervisor w supervisor' run w' :=
        ((Flow.tryPrepare_succeeds sole _).of_run ran).1 _ rfl
      exact succeeds.leads

/-- So are all that follow one another. -/
theorem Dealt.steps (sole : Sole supervisor w)
    (dealt : Dealt deals (supervisor, w) (supervisor', w')) :
    Leads everybody w w' ∧ Sole supervisor' w' := by
  refine dealt.holds (P := fun _ later w' => Leads everybody w w' ∧ Sole later w') ⟨.refl, sole⟩ ?_
  rintro _ _ _ _ _ _ ⟨leads, sole₁⟩ dealt
  exact ⟨leads.trans (dealt.steps sole₁), (dealt.sole sole₁).1⟩

/-- Until another run is prepared, signals are for the run that is. -/
theorem Succeeds.signalsFor (succeeds : Succeeds supervisor w supervisor' run w')
    (sole : Sole supervisor w) {w₂ : World} (leads : Leads nobody w' w₂) :
    ∃ trace : Trace, w₂.trace = w'.trace ++ trace ∧
      SignalsFor supervisor'.listener run supervisor.settings.escalation trace := by
  obtain ⟨newest, own, arms, fresh, only⟩ := succeeds.listener
  rw [own]
  exact leads.signalsFor (succeeds.sole sole).attentive arms fresh only

/-- The listener of a run that was prepared before is asked to end when the next one is. -/
theorem Succeeds.relieves {before : Supervisor} {w₀ : World} {run₀ : RunId}
    (earlier : Succeeds before w₀ supervisor run₀ w) (sole : Sole before w₀) {middle : Supervisor}
    {w₁ : World} (leads : Leads everybody w w₁) (succeeds : Succeeds middle w₁ supervisor' run w')
    {id : TaskId} (own : supervisor.listener = some id) :
    (w'.armed id).isSome = true ∧ ¬ w'.Armed id := by
  obtain ⟨_, same, arms, _⟩ := earlier.listener
  cases own.symm.trans same
  obtain ⟨newest, _, arms', _, only⟩ := succeeds.listener
  have kept : w'.armed id = some (run₀, before.settings.escalation) :=
    Leads.armed (leads.trans succeeds.leads) arms
  refine ⟨by rw [kept]; rfl, fun armed => ?_⟩
  -- It would be the new listener, whose run is a new one.
  rw [← only id armed, kept] at arms'
  obtain ⟨rfl, _⟩ : run₀ = run ∧ _ := by simpa using arms'
  have opened : run₀ < w.runs.length := ((earlier.sole sole).attentive.opened id run₀ _ arms).1
  have within : run₀ < w₁.runs.length := Nat.lt_of_lt_of_le opened leads.runs
  exact absurd (List.getElem?_eq_none_iff.mp succeeds.new) (Nat.not_le.mpr within)

/-- Whatever is dealt with one supervisor, the listener of each run escalates signals until the next
run is prepared. -/
theorem escalation_lasts_until_next_run {settings : Settings}
    (dealt : Dealt deals ({ settings }, {}) (supervisor, w)) :
    EscalatesUntilNext supervisor w := by
  have sole := dealt.sole.1
  have prepares : ∀ {refusal prepared run w₁}, (Flow.tryPrepare refusal supervisor).run w =
    (.ok (.ok (prepared, run)), w₁) →
      Succeeds supervisor w prepared run w₁ :=
        fun ran => ((Flow.tryPrepare_succeeds sole _).of_run ran).1 _ rfl
  constructor
  -- The newest listener is the one of the run, and it has heard nothing yet.
  case within =>
    intro refusal prepared run w₁ ran deals later w₂ dealt others
    have succeeds := prepares ran
    have sole₁ := succeeds.sole sole
    obtain ⟨trace, written, signals⟩ := succeeds.signalsFor sole (dealt.leads sole₁ others)
    obtain ⟨newest, own, _⟩ := succeeds.listener
    rw [own] at signals ⊢
    exact ⟨trace,
      (dealt.steps sole₁).1.escalates sole₁.attentive written signals.taken signals.escalations⟩
  case beyond =>
    intro refusal prepared run w₁ ran deals later w₂ trace dealt others written more last w₃
      dealt' others'
    have succeeds := prepares ran
    have sole₁ := succeeds.sole sole
    have sole₂ := (dealt.steps sole₁).2
    have leads := dealt.leads sole₁ others
    have leads' := dealt'.leads sole₂ others'
    -- What comes after that time is the rest of what comes after the run was prepared.
    obtain ⟨early, written₁, first⟩ := succeeds.signalsFor sole leads
    cases List.append_cancel_left (written.symm.trans written₁)
    obtain ⟨whole, written₂, signals⟩ := succeeds.signalsFor sole (leads.trans leads')
    obtain ⟨trace', written'⟩ := leads'.trace
    rw [written', written, List.append_assoc] at written₂
    cases List.append_cancel_left written₂
    obtain ⟨newest, own, _⟩ := succeeds.listener
    rw [own] at first signals ⊢
    refine ⟨trace',
      (dealt'.steps sole₂).1.escalates sole₂.attentive written' (fun entry member => ?_)
      (first.escalations_after signals)⟩
    exact signals.taken entry (by simp [member])
  case ends =>
    intro refusal prepared run w₁ ran deals later w₂ dealt others refusal' next run' w₃ ran' more
      last w₄ dealt'
    have succeeds := prepares ran
    obtain ⟨leads, sole₂⟩ := dealt.steps (succeeds.sole sole)
    -- The next run brings a listener of its own, and with it the old one is asked to end.
    have succeeds' : Succeeds later w₂ next run' w₃ :=
      ((Flow.tryPrepare_succeeds sole₂ _).of_run ran').1 _ rfl
    have sole₃ := succeeds'.sole sole₂
    obtain ⟨leads', _⟩ := dealt'.steps sole₃
    obtain ⟨newest, own, _⟩ := succeeds.listener
    -- The listener of the run has been asked to end by the time that the next one is prepared.
    obtain ⟨known, asked⟩ := succeeds.relieves sole leads succeeds' own
    obtain ⟨taken, handled, others⟩ := leads'.unheeded sole₃.attentive known asked
    obtain ⟨trace, written⟩ := leads'.trace
    rw [written, Trace.handled_append, List.append_cancel_left_eq] at handled
    refine ⟨trace, written, fun entry member same => ?_⟩
    exact others entry (handled ▸ member) (Option.some.inj (same.symm.trans own))

/-- A supervisor that lets the process exit at a further signal. -/
def strict : Settings := { osSignals := false, escalation := .forceExit }

/-- The supervisor once it has prepared its first run. -/
def bailiff : Supervisor := { settings := strict, group := some 0, listener := some 0 }

/-- A world in which that run is prepared and a first signal has come. -/
def summoned : World :=
  { ((Flow.tryPrepare none { settings := strict }).run {}).2.deliver .terminate with
    horizon := Flow.patience }

/-- Where it comes when the run has been supervised, without any service. -/
def dismissed : World := ((Flow.startServices bailiff 0 []).run summoned).2

/-- Where that comes when a further signal is sent once the run is over. -/
def recalled : World := ((Flow.sleep 1).run (dismissed.deliver .interrupt)).2

/-- A signal that comes when the run is over still makes the process exit. -/
theorem summons_escalate_until_next : (dismissed.exited, recalled.exited) = (none, some 130) ∧
    EscalatesUntilNext { settings := strict } {} :=
  ⟨by decide +kernel, escalation_lasts_until_next_run (.none _)⟩

/-- That signals are escalated only until the services of their run have been supervised: none that
comes between then and the next run that is prepared. -/
def EscalatesOnlyInRun (settings : Settings) : Prop :=
  ∀ deals supervisor w, Dealt (deals ++ [.supervised]) ({ settings }, {}) (supervisor, w) →
    ∀ more last w', Dealt more (supervisor, w) (last, w') → (∀ run, .prepared run ∉ more) →
      (∀ trace : Trace, w'.trace = w.trace ++ trace → trace.escalations = []) ∧
        (w.exited = none → w'.exited = none)

/-- It does not hold: the run has ended with the cause of its first signal, and the process goes on,
until a further signal comes. -/
theorem late_signal_forces_exit :
    ((Flow.startServices bailiff 0 []).run summoned).1.toOption =
      some (some (.cancelled (.signal .terminate))) ∧
      ¬ EscalatesOnlyInRun strict := by
  refine ⟨by decide +kernel, fun only => ?_⟩
  -- The run is prepared, a first signal comes, and its services, of which there are none, are
  -- supervised.
  have prepared : (Flow.tryPrepare none { settings := strict }).run {} =
      (.ok (.ok (bailiff, 0)), ((Flow.tryPrepare none { settings := strict }).run {}).2) :=
        Flow.run_of_result rfl
  have summons : Leads nobody ((Flow.tryPrepare none { settings := strict }).run {}).2 summoned :=
    .tail (.single (.delivers .terminate rfl)) (.books _ _ _ _ _ _)
  have supervises : (Flow.startServices bailiff 0 []).run summoned =
      (((Flow.startServices bailiff 0 []).run summoned).1, dismissed) := rfl
  have supervised : Dealt ([.prepared 0, .other] ++ [.supervised]) ({ settings := strict }, {})
    (bailiff.spent, dismissed) :=
    .next (.next (.next (.none _) (.prepares prepared)) (.others summons)) (.supervises supervises)
  -- The second signal comes when all of that is over.
  have waits : Leads nobody (dismissed.deliver .interrupt) recalled := by
    have within : (Flow.sleep 1).Within (Leads nobody) :=
      Flow.bind_within Flow.steady_leads (Flow.look_within Flow.steady_leads _) fun _ =>
        Flow.sleepUntil_within Flow.steady_leads _
    have ran : (Flow.sleep 1).run (dismissed.deliver .interrupt) =
        (((Flow.sleep 1).run (dismissed.deliver .interrupt)).1, recalled) := rfl
    exact within.of_run ran
  have free : dismissed.channel.slot = .free := by decide +kernel
  have later : Dealt [.other, .other] (bailiff.spent, dismissed) (bailiff.spent, recalled) :=
    .next (.next (.none _) (.others (.single (.delivers .interrupt free)))) (.others waits)
  have stays := (only _ _ _ supervised _ _ _ later (by simp)).2 (by decide +kernel)
  have exits : recalled.exited = some 130 := by decide +kernel
  exact absurd (stays.symm.trans exits) nofun

end Warden.Supervision
