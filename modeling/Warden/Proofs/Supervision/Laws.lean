import Mathlib.Data.List.Nodup
import Warden.Proofs.Supervision.History

/-!
What a supervisor promises of a run that it has prepared: the law of stops, the result, and the time
of its end.
-/

namespace Warden.Supervision

open World

/-- Services at their places are all different. -/
theorem nodup_placed (services : List Service) : (placed services).Nodup := by
  have positions : (placed services).map (·.position) = List.range services.length := by
    simp [placed, Function.comp_def, List.zipIdx_map_snd, List.range_eq_range']
  exact List.Nodup.of_map _ (positions ▸ List.nodup_range)

/-- What the clock cannot show from a time on it cannot show from a later one. -/
theorem isBeyondClock_mono {first later : Nat} {ahead : Duration} (order : first ≤ later)
    (beyond : isBeyondClock first ahead = true) : isBeyondClock later ahead = true := by
  refine decide_eq_true (Nat.le_trans (of_decide_eq_true beyond) (Nat.div_le_div_right ?_))
  simp only [Duration.ofMillis]
  omega

/-- Three services of which one is refused: the first is slow, and the second never stops by
itself. -/
def refusal : List Service :=
  [⟨"store", [.sleep 3], [.sleep 2]⟩, ⟨"api", [], [.hang]⟩, ⟨"feed", [.fail "refused"], []⟩]

/-- A supervisor with short timeouts that has prepared its first run. -/
def prompt : Supervisor where
  settings := { startupTimeout := .ofMillis 10, stopTimeout := .ofMillis 5, osSignals := false }
  group := some 0
  listener := some 0

/-- The world in which that run has been prepared and is given a second. -/
def promptWorld : World :=
  { ((Flow.prepare { settings := prompt.settings }).run {}).2 with horizon := 1000 }

/-- Where the call with these services ends. -/
def refusalEnd : World :=
  ((Flow.startServices prompt 0 (placed refusal)).run promptWorld).2

/-- The run that refuses ends with the refusal. -/
theorem refusal_ends : (Flow.startServices prompt 0 (placed refusal)).run promptWorld =
    (.ok (some (.cancelled (.startFailed "feed" "refused"))), refusalEnd) :=
  Flow.run_of_result (by decide +kernel)

/-- The supervisor of that run has prepared it. -/
theorem prompt_prepared : Prepared prompt 0 promptWorld :=
  ⟨{ settings := prompt.settings }, {}, ((Flow.prepare { settings := prompt.settings }).run {}).2,
    ⟨prompt.settings, .refl⟩, Flow.run_of_result (by decide +kernel), .single (.prolongs 1000 _)⟩

variable {supervisor : Supervisor} {run : RunId} {w w' : World}

/-- The law of stops: in a run that was prepared, nothing is stopped before every service has been
launched, every race is resolved and the run is cancelled; only what reported before its deadline is
stopped, once, in reverse order and one after another; and if the call returns, all of that has been
stopped. -/
theorem startServices_stops_lawfully (prepared : Prepared supervisor run w)
    (services : List Service) {result : Except Halt (Option RunError)}
    (ran : (Flow.startServices supervisor run (placed services)).run w = (result, w')) :
    ∃ trace : Trace, w'.trace = w.trace ++ trace ∧
      trace.StopsLawfully supervisor.settings.startupTimeout.ceilMillis (placed services)
        run w.trace ∧
      ∀ error, result = .ok error →
        trace.StopsAll supervisor.settings.startupTimeout.ceilMillis (placed services) := by
  obtain ⟨group, own, ready⟩ := prepared.ready
  have ends := (Flow.startServices_yields own ready (nodup_placed services)).of_run ran
  -- The call returns once all is stopped, or it is cut; the law of stops holds of either.
  cases result with
  | ok error =>
    obtain ⟨trace, concluded⟩ := ends.1 error rfl
    exact ⟨trace, concluded.written, concluded.lawful, fun _ _ => concluded.complete⟩
  | error halt =>
    obtain ⟨trace, cut⟩ := ends.2 halt rfl
    exact ⟨trace, cut.written, cut.lawful, by simp⟩

/-- The law of stops in a run in which one of three services is refused: the two others are
stopped. -/
theorem refusal_stops_lawfully :
    refusalEnd.trace.stopActs = StopAct.course ((placed refusal).take 2).reverse ∧
    ∃ trace : Trace, refusalEnd.trace = promptWorld.trace ++ trace ∧
      trace.StopsLawfully prompt.settings.startupTimeout.ceilMillis (placed refusal) 0
        promptWorld.trace ∧
      ∀ error,
        (Except.ok (some (.cancelled (.startFailed "feed" "refused"))) : Except Halt
        (Option RunError)) = .ok error →
        trace.StopsAll prompt.settings.startupTimeout.ceilMillis (placed refusal) :=
  ⟨by decide +kernel, startServices_stops_lawfully prompt_prepared refusal refusal_ends⟩

/-- The result: if the call returns, the run is cancelled, and the result is the cause of the first
call that ever asked for that, which was not the group's own. Whatever happens afterwards, this
remains the cause of the run. -/
theorem startServices_gives_first_cause (prepared : Prepared supervisor run w)
    (services : List Service) {result : Option RunError}
    (ran : (Flow.startServices supervisor run (placed services)).run w = (.ok result, w')) :
    ∃ call, w'.trace.firstCall run = some call ∧ call.caller ≠ .group ∧
      result = some (.cancelled call.cause) ∧
      w'.isCancelled run = true ∧
      ∀ later w'', Relation.ReflTransGen Moves (supervisor.spent, w') (later, w'') →
        w''.cause? run = some call.cause := by
  obtain ⟨group, own, ready⟩ := prepared.ready
  obtain ⟨trace, concluded⟩ :=
    ((Flow.startServices_yields own ready (nodup_placed services)).of_run ran).1 result rfl
  have sound : w'.Sound :=
    ((Flow.startServices_grows run (placed services)).of_run ran).sound ready.sound
  obtain ⟨call, first, outsider, same⟩ := concluded.called
  -- The cause is that of the first call, and no later move takes that call back.
  have known : w'.cause? run = some call.cause := by rw [sound.cause?_eq, first, Option.map_some]
  refine ⟨call, first, outsider, same, ?_, fun later w'' moves => cause?_of_moves sound known moves⟩
  rw [sound.isCancelled_iff, first]
  rfl

/-- The result of a run in which one of three services is refused is that refusal. -/
theorem refusal_gives_first_cause :
    ∃ call, refusalEnd.trace.firstCall 0 = some call ∧ call.caller ≠ .group ∧
    some (.cancelled (.startFailed "feed" "refused")) = some (RunError.cancelled call.cause) ∧
    refusalEnd.isCancelled 0 = true ∧
    ∀ later w'', Relation.ReflTransGen Moves (prompt.spent, refusalEnd) (later, w'') →
      w''.cause? 0 = some call.cause :=
  startServices_gives_first_cause prompt_prepared refusal refusal_ends

/-- A call that was given more time than that has returned by then. -/
def ReturnsBy (latest : Nat) (w : World) (result : Except Halt (Option RunError)) (w' : World) :
    Prop :=
  latest < w.horizon → (∃ error, result = .ok error) ∧ w'.now ≤ latest

/-- The time of the end: if no stop panics, the clock can show every deadline and the process goes
on, the call returns as soon as the timeouts allow once the run is cancelled, and without a call
from outside if a service does not start. A call that does not return has come to its horizon. -/
theorem startServices_returns_in_time (prepared : Prepared supervisor run w)
    (services : List Service) {result : Except Halt (Option RunError)}
    (ran : (Flow.startServices supervisor run (placed services)).run w = (result, w'))
    (going : w'.exited = none)
    (calm : ∀ service ∈ services, ∀ payload, .panic payload ∉ service.stop)
    (shown : ∀ launch < services.length,
      isBeyondClock (w.now + launch * supervisor.settings.startupTimeout.ceilMillis)
        supervisor.settings.startupTimeout = false) :
    ∃ trace : Trace, w'.trace = w.trace ++ trace ∧
      (∀ call, w'.trace.firstCall run = some call →
        ReturnsBy (supervisor.settings.latest w.now services.length call.time trace.started.length)
          w result w') ∧
      (trace.started.length < services.length →
        ReturnsBy (supervisor.settings.latest w.now services.length w.now trace.started.length) w
          result w') ∧
      ∀ halt, result = .error halt → halt = .stuck ∧ w.horizon ≤ w'.now := by
  obtain ⟨group, own, ready⟩ := prepared.ready
  have ends := (Flow.startServices_yields own ready (nodup_placed services)).of_run ran
  have count : (placed services).length = services.length := by simp [placed]
  cases result with
  -- The call returned: what is known of it bounds its end.
  | ok error =>
    obtain ⟨trace, concluded⟩ := ends.1 error rfl
    have soon := concluded.soon
    have lost := concluded.lost
    rw [count] at soon lost
    refine ⟨trace, concluded.written, fun call first _ => ⟨⟨error, rfl⟩, soon call first⟩,
      fun short _ => ⟨⟨error, rfl⟩, ?_⟩, nofun⟩
    -- Fewer have started than there are, so that a call came no later than the last deadline.
    obtain ⟨call, first, _⟩ := concluded.called
    have early := lost short call first
    have ended := soon call first
    simp only [Settings.latest] at ended ⊢
    omega
  | error halt =>
    obtain ⟨trace, written, _, excuse⟩ := ends.2 halt rfl
    have horizon : w'.horizon = w.horizon :=
      ((Flow.startServices_grows run (placed services)).of_run ran).horizon
    -- Of all that could have cut the run, only that its time ran out is left.
    obtain ⟨rfl, reached, soon, lost⟩ : halt = .stuck ∧ w'.horizon ≤ w'.now ∧
        (∀ call, w'.trace.firstCall run = some call →
          w'.now ≤
            supervisor.settings.latest w.now services.length call.time trace.started.length) ∧
        (trace.started.length < services.length →
          w'.now ≤
            supervisor.settings.latest w.now services.length w.now trace.started.length) := by
      rw [← count]
      -- The process is still there, the clock shows all deadlines, and no stop panics.
      cases excuse with
      | gone code exited => simp [going] at exited
      | overdue reached soon lost => exact ⟨rfl, reached, soon, lost⟩
      | beyond launch now few ahead beyond =>
        have unshown := isBeyondClock_mono ahead beyond
        simp [shown launch (count ▸ few)] at unshown
      | stopPanicked service member payload panics =>
        obtain ⟨⟨inner, position⟩, listed, rfl⟩ := List.mem_map.mp member
        exact absurd panics (calm inner (List.fst_mem_of_mem_zipIdx listed) payload)
    rw [horizon] at reached
    -- If there had been room, the horizon could not have been reached by then.
    refine ⟨trace, written, fun call first room => ?_, fun short room => ?_, ?_⟩
    · exact absurd (Nat.le_trans reached (soon call first)) (Nat.not_le.mpr room)
    · exact absurd (Nat.le_trans reached (lost short)) (Nat.not_le.mpr room)
    · rintro _ ⟨rfl⟩
      exact ⟨rfl, reached⟩

/-- A run in which one of three services is refused returns in time without any call from
outside. -/
theorem refusal_returns_in_time :
    refusalEnd.now = 20 ∧ ∃ trace : Trace, refusalEnd.trace = promptWorld.trace ++ trace ∧
    (∀ call, refusalEnd.trace.firstCall 0 = some call →
      ReturnsBy
        (prompt.settings.latest promptWorld.now refusal.length call.time trace.started.length)
        promptWorld
        (.ok (some (.cancelled (.startFailed "feed" "refused")))) refusalEnd) ∧
    (trace.started.length < refusal.length →
      ReturnsBy
        (prompt.settings.latest promptWorld.now refusal.length promptWorld.now trace.started.length)
        promptWorld
        (.ok (some (.cancelled (.startFailed "feed" "refused")))) refusalEnd) ∧
    ∀ halt,
      (Except.ok (some (.cancelled (.startFailed "feed" "refused"))) : Except Halt
      (Option RunError)) = .error halt →
      halt = .stuck ∧ promptWorld.horizon ≤ refusalEnd.now :=
  ⟨by decide +kernel,
    startServices_returns_in_time prompt_prepared refusal refusal_ends (by decide +kernel)
    (by simp [refusal]) (by decide +kernel)⟩

end Warden.Supervision
