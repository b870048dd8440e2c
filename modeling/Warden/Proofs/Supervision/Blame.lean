import Warden.Proofs.Supervision.Stragglers

/-!
Blame: a run that nobody else calls off is blamed on the first start that was lost to it, and what
the log holds of all that were lost.
-/

namespace Warden.Supervision

open World

/-- Of the calls for a run blame takes notice of those that do not come from outside. -/
theorem blameOf_call {run : RunId} {stamped : Stamped} {call : Call}
    (called : stamped.call? run = some call) (inside : call.caller.isOutside = false) :
    blameOf run stamped.event = some call.cause := by
  obtain ⟨time, event⟩ := stamped
  -- Only an event that is such a call tells of one.
  unfold Stamped.call? at called
  split at called
  · rename_i caller canceled cause same
    obtain ⟨here, called⟩ := Option.ite_none_right_eq_some.mp called
    obtain rfl := Option.some.inj called
    -- The caller belongs to the supervision, so that the call is one that blames.
    obtain rfl : event = .cancelCall caller canceled cause := same
    exact if_pos ⟨inside, here⟩
  · cases called

/-- What is no call for the run blames nobody for its end. -/
theorem blameOf_uncalled {run : RunId} {stamped : Stamped} (uncalled : stamped.call? run = none) :
    blameOf run stamped.event = none := by
  obtain ⟨time, event⟩ := stamped
  cases event with
  | cancelCall caller canceled cause => simp_all [Stamped.call?, blameOf]
  | _ => rfl

/-- If the first call for a run does not come from outside, then the first blame is its cause. -/
theorem firstCall_of_blames {run : RunId} {trace : Trace} {cause : Cause} {others : List Cause}
    (blames : trace.view (blameOf run) = cause :: others)
    (first : ∀ call, trace.firstCall run = some call → call.caller.isOutside = false) :
    ∃ call, trace.firstCall run = some call ∧ call.cause = cause := by
  -- By induction on the trace: what is no call for the run blames nobody, and the first call does.
  unfold Trace.firstCall Trace.view at *
  induction trace with
  | nil => cases blames
  | cons stamped rest ih =>
    -- Nobody is blamed yet, and the first call is to come.
    cases called : stamped.call? run with
    | none =>
      simp only [List.findSome?_cons, called, List.filterMap_cons,
        blameOf_uncalled called] at first blames ⊢
      exact ih blames first
    -- This is the call that ended the run, and its cause is the first that is blamed.
    | some call =>
      simp only [List.findSome?_cons, called] at first ⊢
      simp only [List.filterMap_cons, blameOf_call called (first call rfl),
        List.cons.injEq] at blames
      exact ⟨call, rfl, blames.1⟩

variable {supervisor : Supervisor} {run : RunId} {w w' : World}

/-- The law of blame: if the first call for a run does not come from its owner, a script or a
listener, then its cause is the one that fits the loss of the first service that was lost, and it
remains so ever after. No start is said both to have been refused and to have panicked. -/
theorem startServices_blames_first_loss (prepared : Prepared supervisor run w)
    (services : List Service) {result : Except Halt (Option RunError)}
    (ran : (Flow.startServices supervisor run (placed services)).run w = (result, w')) :
    ∃ trace : Trace, w'.trace = w.trace ++ trace ∧ trace.resolutions.map (·.1) <+: placed services ∧
      (∀ ended, result = .ok ended → trace.resolutions.map (·.1) = placed services) ∧
      (∀ won service outcome rest, trace.resolutions = won ++ (service, outcome) :: rest →
        (∀ launch ∈ won, launch.2 = .started) → outcome ≠ .started →
        w.isCancelled run = false →
          (∀ call, w'.trace.firstCall run = some call → call.caller.isOutside = false) →
        ∃ task loss, w'.task? (w.tasks.length + 1 + won.length) = some task ∧
          task.duty = .start service ∧
          outcome.loss task.ending = some loss ∧
          ∀ later w'', Relation.ReflTransGen Moves (supervisor.spent, w') (later, w'') →
            w''.cause? run = some (loss.cause service supervisor.settings.startupTimeout)) ∧
      ∀ service error, .refused error ∈ trace.view (sayingOf service) →
        .panicked ∉ trace.view (sayingOf service) := by
  obtain ⟨trace, written, names, whole, filed⟩ := prepared.filed services ran
  obtain ⟨_, _, ready⟩ := prepared.ready
  refine ⟨trace, written, names, whole,
    fun won service outcome rest split started lost uncancelled first => ?_,
    fun service error refused => ?_⟩
  · obtain ⟨task, loss, others, found, duty, same, later, traced, blames⟩ :=
      filed.guilty won service outcome rest split started lost
    obtain rfl : trace = later := List.append_cancel_left (written.symm.trans traced)
    -- Nobody had called before, so that the first call of all is the first one since then.
    have uncalled : w.trace.firstCall run = none := by
      rw [ready.sound.isCancelled_iff] at uncancelled
      simpa using uncancelled
    have calls : w'.trace.firstCall run = trace.firstCall run := by
      rw [written, firstCall_append, uncalled, Option.none_or]
    obtain ⟨call, called, cause⟩ := firstCall_of_blames blames (calls ▸ first)
    have sound : w'.Sound :=
      ((Flow.startServices_grows run (placed services)).of_run ran).sound ready.sound
    -- The cause that the run has from then on is that of this call, and no move changes it.
    have known : w'.cause? run = some (loss.cause service supervisor.settings.startupTimeout) := by
      rw [sound.cause?_eq, calls, called, Option.map_some, cause]
    exact ⟨task, loss, found, duty, same, fun _ _ moves => cause?_of_moves sound known moves⟩
  -- What a service says of itself is filed apart from the calls, and once it has refused it cannot
  -- panic.
  · obtain ⟨sayings, saw, coherent⟩ := filed.coherent service
    rw [saw.unique ⟨trace, written, rfl⟩] at refused ⊢
    exact coherent error refused

/-- A run in which many services are lost is blamed on the first of them, for what happened to it,
and remains so. -/
theorem outliving_blames_slow : promptWorld.isCancelled 0 = false ∧
    ∀ later w'', Relation.ReflTransGen Moves (prompt.spent, outlivingEnd) (later, w'') →
      w''.cause? 0 = some (.startTimeout "slow" (.ofMillis 10)) := by
  obtain ⟨trace, written, -, -, blames, -⟩ :=
    startServices_blames_first_loss prompt_prepared outliving outliving_ends
  obtain rfl : outlivingEnd.trace.drop promptWorld.trace.length = trace := by
    rw [written, List.drop_left]
  have called : outlivingEnd.trace.firstCall 0 =
    some ⟨10, .launcher, .startTimeout "slow" (.ofMillis 10)⟩ := by
    decide +kernel
  -- The first service that is lost is the second one, right behind the one that is up.
  obtain ⟨task, loss, -, -, lost, kept⟩ :=
    blames [(⟨0, ⟨"store", [], []⟩⟩, .started)] ⟨1, ⟨"slow", [.sleep 15], []⟩⟩
    .timedOut (outlivingEnd.trace.resolutions.drop 2) (by decide +kernel) (by simp) (by simp)
      (by decide +kernel)
    fun call first => by
      cases called.symm.trans first
      rfl
  cases lost
  exact ⟨by decide +kernel, kept⟩

/-- A service whose start panics when somebody else is about to call off the run. -/
def crossed : List Service :=
  [⟨"feed", [.yield, .note "loading", .panic (.text "no disk")], []⟩]

/-- The world in which the run has been prepared, and a script beside it will call it off. -/
def crossedWorld : World :=
  ((Flow.spawnAction 0 [.yield, .cancel .requested]).run promptWorld).2

/-- Where the call with this service ends. -/
def crossedEnd : World :=
  ((Flow.startServices prompt 0 (placed crossed)).run crossedWorld).2

/-- That nobody else had called when a start was lost is not enough: between the panic of a start
and the time at which the launcher takes notice of it somebody else can be the first to call off the
run. -/
theorem crossed_escapes_blame : Prepared prompt 0 crossedWorld ∧
    crossedEnd.trace.resolutions = [(⟨0, crossed[0]⟩, .failed)] ∧
    (crossedEnd.task? 3).map (fun task => (task.duty, task.ending)) =
      some (.start ⟨0, crossed[0]⟩, some (.panicked (.text "no disk"))) ∧
    (∃ earlier later : Trace, crossedEnd.trace =
      earlier ++ ⟨0, .deed (.noted "feed" "loading")⟩ :: later ∧
      earlier.firstCall 0 = none ∧ later.firstCall 0 = some ⟨0, .script, .requested⟩) ∧
    crossedEnd.cause? 0 = some .requested := by
  refine ⟨?_, by decide +kernel, by decide +kernel,
    ⟨crossedEnd.trace.take 3, crossedEnd.trace.drop 4, by decide +kernel,
    by decide +kernel, by decide +kernel⟩, by decide +kernel⟩
  -- A script beside the run is one of the things that may happen before the call.
  obtain ⟨before, w₀, w₁, reachable, ran, idles⟩ := prompt_prepared
  exact ⟨before, w₀, w₁, reachable, ran, idles.tail (.acts 0 [.yield, .cancel .requested] rfl)⟩

/-- Every loss is logged: of each service that was lost the log holds the error that fits, except
for a panic that the launcher took for an error because the run was cancelled when it called it
off. -/
theorem startServices_logs_losses (prepared : Prepared supervisor run w) (services : List Service)
    {result : Except Halt (Option RunError)}
    (ran : (Flow.startServices supervisor run (placed services)).run w = (result, w')) :
    ∃ trace : Trace, w'.trace = w.trace ++ trace ∧ trace.resolutions.map (·.1) <+: placed services ∧
      (∀ ended, result = .ok ended → trace.resolutions.map (·.1) = placed services) ∧
      ∀ launch ∈ enrolled (w.tasks.length + 1) trace.resolutions, launch.1.2 ≠ .started →
        ∃ task loss, w'.task? launch.2 = some task ∧ task.duty = .start launch.1.1 ∧
          launch.1.2.loss task.ending = some loss ∧
          (loss.notice launch.1.1 supervisor.settings.startupTimeout).entry.severity = .error ∧
          ("service", launch.1.1.name) ∈
            (loss.notice launch.1.1 supervisor.settings.startupTimeout).entry.fields ∧
          Loud launch.1.1 run supervisor.settings.startupTimeout w.trace trace loss := by
  obtain ⟨trace, written, names, whole, filed⟩ := prepared.filed services ran
  refine ⟨trace, written, names, whole, fun launch member lost => ?_⟩
  -- Each launch is filed with what was said about it, since the run began.
  obtain ⟨task, since, found, duty, traced, loud⟩ := filed.reported launch member
  obtain rfl : trace = since := List.append_cancel_left (written.symm.trans traced)
  obtain ⟨loss, same, said⟩ := loud lost
  obtain ⟨severe, named⟩ := entry_loss launch.1.1 supervisor.settings.startupTimeout loss
  exact ⟨task, loss, found, duty, same, severe, named, said⟩

/-- The losses of a run in which six of seven services are lost are logged. -/
theorem outliving_logs_losses : ∃ trace : Trace, outlivingEnd.trace = promptWorld.trace ++ trace ∧
    trace.resolutions.map (·.1) <+: placed outliving ∧
    (∀ ended,
      (Except.ok (some (.cancelled (.startTimeout "slow" (.ofMillis 10)))) : Except Halt
      (Option RunError)) = .ok ended →
      trace.resolutions.map (·.1) = placed outliving) ∧
    ∀ launch ∈ enrolled (promptWorld.tasks.length + 1) trace.resolutions, launch.1.2 ≠ .started →
      ∃ task loss, outlivingEnd.task? launch.2 = some task ∧ task.duty = .start launch.1.1 ∧
        launch.1.2.loss task.ending = some loss ∧
        (loss.notice launch.1.1 prompt.settings.startupTimeout).entry.severity = .error ∧
        ("service", launch.1.1.name) ∈
          (loss.notice launch.1.1 prompt.settings.startupTimeout).entry.fields ∧
        Loud launch.1.1 0 prompt.settings.startupTimeout promptWorld.trace trace loss :=
  startServices_logs_losses prompt_prepared outliving outliving_ends

/-- A panic goes unsaid if the run was cancelled before: no error in the log bears the name of the
last of these services. -/
theorem outliving_hushes_log : (⟨6, outliving[6]⟩, .failed) ∈ outlivingEnd.trace.resolutions ∧
    (outlivingEnd.task? 8).map (fun task => (task.duty, task.ending)) =
      some (.start ⟨6, outliving[6]⟩, some (.panicked (.text "no disk"))) ∧
    ∀ entry ∈ outlivingEnd.trace.entries .main ++ outlivingEnd.trace.entries .task,
      entry.2.severity = .error → ("service", outliving[6].name) ∉ entry.2.fields := by
  decide +kernel

end Warden.Supervision
