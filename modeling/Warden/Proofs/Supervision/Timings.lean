import Warden.Proofs.Config.Accepted
import Warden.Proofs.Supervision.Laws
import Warden.Scenario.Container

/-!
What the timings of an accepted configuration can do to a run: the deadline of a launch may lie
beyond the clock.
-/

namespace Warden.Supervision

open World

variable {supervisor : Supervisor} {group : GroupId} {run : RunId} {w w' : World}

/-- Whole seconds are beyond the clock if they and those that have passed reach its limit. -/
theorem isBeyondClock_ofSecs {now secs : Nat} :
    isBeyondClock now (.ofSecs secs) = true ↔ clockLimit ≤ now / 1000 + secs := by
  have parts : (now * 1000000 + secs * 1000000000) / 1000000000 = now / 1000 + secs := by omega
  simp only [isBeyondClock, Duration.ofMillis, Duration.ofSecs, parts, decide_eq_true_eq]

namespace Flow

/-- Launching panics at the first service if the clock cannot show its deadline. -/
theorem startAll_panics (deadline : Duration) {service : Placed} {rest : List Placed}
    (beyond : isBeyondClock w.now deadline = true) :
    (startAll group run deadline (service :: rest)).Yields w (fun _ _ => False)
      fun halt _ => halt = .panicked clockOverflow := by
  -- The clock stands still while the task of the start is spawned and the launch is noted.
  have still : isBeyondClock
      ((w.spawnDetached group service.name (startTask run service)).2.emit (.launched service)).now
        deadline = true := beyond
  simp only [startAll, launch, yields_bind, yields_answer, yields_emit, yields_look, still, if_true,
    yields_throw]

/-- A deadline that the clock cannot show breaks the run at its first launch. -/
theorem startServices_panics (own : supervisor.group = some group) {services : List Placed}
    (given : services ≠ [])
    (beyond : isBeyondClock w.now supervisor.settings.startupTimeout = true) :
    (startServices supervisor run services).Yields w (fun _ _ => False)
      fun halt _ => halt = .panicked clockOverflow := by
  -- Nothing that comes before the launch loop takes time.
  obtain ⟨service, rest, rfl⟩ := List.exists_cons_of_ne_nil given
  simp only [startServices, own, supervise, yields_tryCatch, yields_bind, yields_answer,
    yields_change, yields_throw]
  have still : isBeyondClock (w.watching group run).now supervisor.settings.startupTimeout =
    true := beyond
  exact (startAll_panics _ still).mono (fun _ _ never => never.elim) fun _ _ same => same

end Flow

/-- What the timings of a configuration do to the run of some services that begins at a time. -/
structure TimingsKept (config : Config) (services : List Service) (now : Nat)
    (result : Except Halt (Option RunError)) :
    Prop where
  /-- No service is given no time at all. -/
  positive : 0 < (Settings.ofConfig config.supervisor).startupTimeout.nanos ∧
    0 < (Settings.ofConfig config.supervisor).stopTimeout.nanos
  /-- The rules set no limit: with any other time for a start the configuration is still
  accepted. -/
  unlimited : ∀ secs, secs ≠ 0 →
    { config with
      supervisor := { config.supervisor with
        startupTimeoutSecs := secs } : Config }.validate = .ok ()
  /-- If the clock cannot show the first deadline, the run panics as soon as there is something to
  start. -/
  panics : services ≠ [] → clockLimit ≤ now / 1000 + config.supervisor.startupTimeoutSecs.toNat →
    result = .error (.panicked clockOverflow)
  /-- Otherwise it panics for a stop that does, and for no timeout: neither for that of a stop,
  however long, nor for that of a start, if the clock can show them all. -/
  shown : now / 1000 + services.length * config.supervisor.startupTimeoutSecs.toNat < clockLimit →
    ∀ message, result = .error (.panicked message) →
      ∃ service ∈ services, ∃ payload, .panic payload ∈ service.stop ∧ message = payload.message

/-- The time for a start may be any but none. -/
theorem accepts_anyStartup {config : Config} (accepted : config.Accepted) {secs : UInt64}
    (some : secs ≠ 0) :
    { config with
      supervisor := { config.supervisor with
        startupTimeoutSecs := secs } : Config }.validate = .ok () :=
  Config.validate_eq_ok_iff.mpr { accepted with startup := some }

/-- The deadlines of launches are all shown if the clock reaches as far as the starts can take
together. -/
theorem not_isBeyondClock {now secs count launch : Nat} (few : launch < count)
    (room : now / 1000 + count * secs < clockLimit) :
    isBeyondClock (now + launch * (Duration.ofSecs secs).ceilMillis) (.ofSecs secs) = false := by
  rw [Bool.eq_false_iff, Ne, isBeyondClock_ofSecs, Duration.ceilMillis_ofSecs]
  -- The launches before this one have taken as many times the timeout at most, and this one takes
  -- it once more.
  have least : (launch + 1) * secs ≤ count * secs := Nat.mul_le_mul_right secs few
  have whole : (now + launch * (1000 * secs)) / 1000 = now / 1000 + launch * secs := by
    rw [Nat.mul_left_comm, Nat.add_mul_div_left _ _ (by decide)]
  rw [Nat.add_one_mul] at least
  omega

/-- With the timings of an accepted configuration a run panics where the clock cannot show the
deadline of a launch, and for no other timing. -/
theorem startServices_keeps_timings {config : Config} (accepted : config.validate = .ok ())
    (own : supervisor.settings = .ofConfig config.supervisor) (prepared : Prepared supervisor run w)
    (services : List Service) {result : Except Halt (Option RunError)}
    (ran : (Flow.startServices supervisor run (placed services)).run w = (result, w')) :
    TimingsKept config services w.now result := by
  -- The rules give positive timeouts; where a run ends in a panic is known of every run that was
  -- prepared.
  have accepted : config.Accepted := Config.validate_eq_ok_iff.mp accepted
  obtain ⟨group, holds, ready⟩ := prepared.ready
  have timeout : supervisor.settings.startupTimeout =
    .ofSecs config.supervisor.startupTimeoutSecs.toNat := by rw [own]; rfl
  have count : (placed services).length = services.length := by simp [placed]
  refine ⟨?_, fun secs some => accepts_anyStartup accepted some, fun given beyond => ?_,
    fun room message panicked => ?_⟩
  -- The rules ask for more than no time at all.
  · have startup : 0 < config.supervisor.startupTimeoutSecs.toNat :=
      Config.toNat_pos accepted.startup
    have stop : 0 < config.supervisor.stopTimeoutSecs.toNat := Config.toNat_pos accepted.stop
    simp only [Settings.ofConfig, Duration.ofSecs]
    omega
  · -- The group of the run is still unused, so that the launch loop is reached.
    have given : placed services ≠ [] :=
      fun none => given (List.length_eq_zero_iff.mp (by rw [← count, none, List.length_nil]))
    have beyond : isBeyondClock w.now supervisor.settings.startupTimeout = true := by
      rw [timeout]
      exact isBeyondClock_ofSecs.mpr beyond
    have ends := (Flow.startServices_panics holds given beyond).of_run ran
    cases result with
    | ok error => exact (ends.1 error rfl).elim
    | error halt => rw [ends.2 halt rfl]
  · subst panicked
    obtain ⟨trace, _, _, excuse⟩ :=
      ((Flow.startServices_yields holds ready (nodup_placed services)).of_run ran).2 _ rfl
    -- Of the ways in which a run is cut, two are panics, and that of the clock is excluded.
    cases excuse with
    | beyond launch now few ahead beyond =>
      have unshown := isBeyondClock_mono ahead beyond
      rw [timeout, not_isBeyondClock (count ▸ few) room] at unshown
      cases unshown
    | stopPanicked service member payload panics =>
      obtain ⟨⟨inner, position⟩, listed, rfl⟩ := List.mem_map.mp member
      exact ⟨inner, List.fst_mem_of_mem_zipIdx listed, payload, panics, rfl⟩

/-- A configuration that gives its services the longest time that the clock has. -/
def endless : Config where
  ens := { contractAddress := "" }
  supervisor := { startupTimeoutSecs := 0x7fffffffffffffff }

/-- The supervisor that it asks for, with its first run prepared. -/
def endlessSupervisor : Supervisor where
  settings := .ofConfig endless.supervisor
  group := some 0
  listener := some 1

/-- The world in which that run has been prepared. -/
def endlessWorld : World :=
  ((Flow.prepare { settings := .ofConfig endless.supervisor }).run {}).2

/-- The endless run has been prepared. -/
theorem endless_prepared : Prepared endlessSupervisor 0 endlessWorld :=
  ⟨{ settings := .ofConfig endless.supervisor }, {}, endlessWorld,
    ⟨.ofConfig endless.supervisor, .refl⟩,
    Flow.run_of_result (by decide +kernel), .refl⟩

/-- With the longest time for a start, the first launch panics. -/
theorem endless_keeps_timings :
    TimingsKept endless [⟨"a", [], []⟩] endlessWorld.now (.error (.panicked clockOverflow)) :=
  startServices_keeps_timings (by decide +kernel) rfl endless_prepared [⟨"a", [], []⟩]
    (Flow.run_of_result (by decide +kernel))

/-- The run of one service panics with its deadline, though the configuration is accepted and the
service starts and stops at once; and so does a container with that configuration. -/
theorem accepted_timing_panics :
    endless.validate = .ok () ∧
    ((Flow.startServices endlessSupervisor 0 (placed [⟨"a", [], []⟩])).run endlessWorld).1 =
      .error (.panicked clockOverflow) ∧
    ((Scenario.containerScenario { name := "node", source := .value endless }
        { files := fun _ => .error .missing, network := Ethereum.sealed, machine := Net.secluded }
        { services := [⟨"a", [], []⟩], actions := [.sleep 1, .cancel .requested] }).1.toOption.map
          fun report =>
      match report.outcome with
      | .error answer => some answer
      | .ok _ => none) = some (some (.panicked clockOverflow)) := by
  decide +kernel

end Warden.Supervision
