import Warden.Cli.Program
import Warden.Proofs.Container.Steps
import Warden.Scenario.Container
import Warden.Scenario.Contexts

/-!
The law of a container's run: when its services are built, with what, and what is left of the run
when it returns.
-/

namespace Warden

open Supervision World Flow

namespace Supervision.Flow

variable {w : World} {halts : Halt → World → Prop} {supervisor : Supervisor}

/-- A run is refused if the system keeps its signals to itself and they are wanted for the first
time. -/
theorem tryPrepare_refused {fault : String} (wanted : supervisor.settings.osSignals = true)
    (deaf : w.forwarder = none) :
    (tryPrepare (some fault) supervisor).run w = (.ok (.error fault), w.openRun.2) := by
  -- The forwarder is asked for before anything changes.
  have looked : (look fun w => supervisor.settings.osSignals && w.forwarder.isNone).run w =
    (.ok true, w) := by
    show (Except.ok (supervisor.settings.osSignals && w.forwarder.isNone), w) = (.ok true, w)
    simp [wanted, deaf]
  rw [tryPrepare, run_bind_of_ok looked]
  rfl

/-- Otherwise a run is prepared, and it is a new one. -/
theorem tryPrepare_granted {refusal : Option String}
    (granted : refusal = none ∨ supervisor.settings.osSignals = false ∨ w.forwarder.isSome = true) :
    (tryPrepare refusal supervisor).Yields w (fun result w' => ∃ prepared,
      result = .ok (prepared, w.runs.length) ∧
      w'.runs = w.runs ++ [⟨{}, []⟩] ∧ Calm w w') halts := by
  -- There is no refusal, or it does not count.
  have unrefused : (refusal.filter fun _ => supervisor.settings.osSignals && w.forwarder.isNone) =
    none := by
    rcases granted with rfl | silent | heard
    · rfl
    · simp [silent]
    · simp [Option.isNone_eq_false_iff.mpr heard]
  simp only [tryPrepare, yields_bind, yields_look, unrefused, yields_pure]
  refine (prepare_opens supervisor).mono (fun prepared w' opens => ?_) fun _ _ halt => halt
  obtain ⟨run, runs, calm⟩ := opens
  exact ⟨prepared.1, by rw [← run], runs, calm⟩

end Supervision.Flow

/-- Whether a token is cancelled: with its run or on its own. -/
def Scenario.Child.isCancelledIn (child : Scenario.Child) (w : World) : Bool :=
  child.cancelled || w.isCancelled child.run

/-- The factory comes back, with services or without; it starts none of them itself and forgets no
run. -/
def Factory.Builds (factory : Factory) : Prop :=
  ∀ run config w, (factory run config).Yields w (fun _ w' => Calm w w') fun _ _ => False

namespace Container

/-- Nothing keeps the services of a container from being built: its configuration is loaded and
holds to the rules, its log level is known, and the signals of the system can be had or are not
asked for. -/
structure Cleared (c : Container) (around : Surroundings) (w : World) (config : Config) : Prop where
  loads : c.loadConfig around.files = .ok config
  level : ∃ level, Log.Level.parse? config.log.level = some level
  granted : around.signalFault = none ∨ (c.supervisorFor config).settings.osSignals = false ∨
    w.forwarder.isSome = true

/-- What else keeps them from being built, the first that applies. -/
inductive Refuses (c : Container) (around : Surroundings) (w : World) : Refusal → Prop
  | config {failure : Config.Failure} (fails : c.loadConfig around.files = .error failure) :
    Refuses c around w (.config failure)
  | level {config : Config} (loads : c.loadConfig around.files = .ok config)
    (unknown : Log.Level.parse? config.log.level = none) :
    Refuses c around w (.level config.log.level)
  | signals {config : Config} {fault : String} {level : Log.Level}
    (loads : c.loadConfig around.files = .ok config)
    (known : Log.Level.parse? config.log.level = some level)
    (refused : around.signalFault = some fault)
    (wanted : (c.supervisorFor config).settings.osSignals = true) (deaf : w.forwarder = none) :
    Refuses c around w (.signals fault)

variable {c : Container} {around : Surroundings} {w : World} {config : Config}

/-- Either services are built or something keeps them from it. -/
theorem cleared_or_refuses (c : Container) (around : Surroundings) (w : World) :
    (∃ config, c.Cleared around w config) ∨ ∃ refusal, c.Refuses around w refusal := by
  -- The steps one after another: the configuration, the level, and the signals.
  cases loads : c.loadConfig around.files with
  | error failure => exact .inr ⟨_, .config loads⟩
  | ok config =>
    cases known : Log.Level.parse? config.log.level with
    | none => exact .inr ⟨_, .level loads known⟩
    | some level =>
      cases refused : around.signalFault with
      | none => exact .inl ⟨config, loads, ⟨level, known⟩, .inl refused⟩
      -- A refusal of the signals counts only where they are wanted and nobody forwards them yet.
      | some fault =>
        cases wanted : (c.supervisorFor config).settings.osSignals with
        | false => exact .inl ⟨config, loads, ⟨level, known⟩, .inr (.inl wanted)⟩
        | true =>
          cases deaf : w.forwarder with
          | none => exact .inr ⟨_, .signals loads known refused wanted deaf⟩
          | some id => exact .inl ⟨config, loads, ⟨level, known⟩, .inr (.inr (by rw [deaf]; rfl))⟩

/-- What services are built with: a run of their own that is not cancelled, and the valid
configuration, into which nothing but the contracts that were found is written; until then nothing
has been started. -/
structure Hands (c : Container) (around : Surroundings) (w : World) (config : Config) (run : RunId)
    (handed : Config) (w₁ : World) : Prop where
  fresh : run = w.runs.length
  opened : run < w₁.runs.length
  live : w₁.isCancelled run = false
  valid : config.validate = .ok ()
  found : ∃ found, c.Found around.network config.ens w found ∧ handed = config.settled found
  kept : { handed with
    registry := config.registry
    scannerVersionAddress := config.scannerVersionAddress
    agentRegistryAddress := config.agentRegistryAddress } = config
  calm : Calm w w₁

/-- The supervisor of a run does not depend on the contracts. -/
theorem supervisorFor_settled (c : Container) (config : Config)
    (found : Option (Except Ethereum.ChainError Ethereum.Contracts)) :
    c.supervisorFor (config.settled found) = c.supervisorFor config := by
  simp [supervisorFor]

/-- A container whose configuration is loaded and whose log level is known comes to supervise,
whatever its factory and whatever becomes of the contracts. -/
theorem run_comes_to_supervise {level : Log.Level} (loads : c.loadConfig around.files = .ok config)
    (known : Log.Level.parse? config.log.level = some level) :
    ∃ found w₁, c.Found around.network config.ens w found ∧
      Writes w w₁ ∧
      ∀ factory : Factory, (c.run around factory).run w =
        (c.superviseWith around factory (config.settled found)).run w₁ := by
  -- Each step before goes on, and where it leads does not depend on the factory.
  obtain ⟨handed, w₁, resolved, ⟨found, way, rfl⟩, writes₁⟩ :=
    (c.resolveContracts_yields (w := w) around.network config).total
  obtain ⟨_, w₂, applied, rfl, writes₂⟩ := (c.applyLevel_yields (w := w₁) known).total
  obtain ⟨_, w₃, offered, writes₃⟩ :=
    (writeAll_writes (w := w₂)
      (metricsEntries around.machine (config.settled found).observability)).total
  obtain ⟨_, w₄, began, writes₄⟩ := (writeAll_writes (w := w₃) [starting c.name]).total
  -- The level that is applied is the one that was loaded: settling the contracts leaves it alone.
  rw [← config.log_settled found] at applied
  refine ⟨found, w₄, way, ((writes₁.trans writes₂).trans writes₃).trans writes₄, fun factory => ?_⟩
  simp only [Container.run, loads, runWith, write]
  rw [run_bind_of_ok resolved, run_bind_of_ok applied, run_bind_of_ok offered, run_bind_of_ok began]

/-- A container that is cleared calls whatever factory it is given, once, and concludes with what
that has built. -/
theorem run_calls (cleared : c.Cleared around w config) : ∃ supervisor run handed w₁,
    c.Hands around w config run handed w₁ ∧
      ∀ factory : Factory, (c.run around factory).run w =
        (factory run handed >>= c.conclude supervisor run).run w₁ := by
  -- The steps before have only written, so that the run that is prepared is the next one of the
  -- world.
  obtain ⟨loads, ⟨level, known⟩, granted⟩ := cleared
  obtain ⟨found, w₁, way, writes, comes⟩ := c.run_comes_to_supervise (w := w) loads known
  have granted : around.signalFault = none ∨
    (c.supervisorFor (config.settled found)).settings.osSignals = false ∨
      w₁.forwarder.isSome = true := by
    -- Neither the contracts nor what was written change what is asked of the system.
    rw [c.supervisorFor_settled, writes.forwarder]
    exact granted
  obtain ⟨_, w₂, prepared, supervisor, rfl, runs, calm⟩ := (tryPrepare_granted granted).total
  refine ⟨supervisor, w₁.runs.length, config.settled found, w₂, ?_, fun factory => ?_⟩
  · exact {
      fresh := by rw [writes.runs]
      opened := by simp [runs]
      live := by simp [isCancelled, runs]
      valid := loadConfig_validates loads
      found := ⟨found, way, rfl⟩
      kept := config.settled_keeps found
      calm := writes.calm.trans calm }
  · rw [comes, superviseWith, run_bind_of_ok prepared]

/-- A container that is not cleared says why, starts nothing, and calls no factory. -/
theorem run_refuses {refusal : Refusal} (refuses : c.Refuses around w refusal) :
    ∃ w', Calm w w' ∧ ∀ factory : Factory, (c.run around factory).run w =
      (.ok (.refused refusal), w') := by
  -- Each refusal comes from one step, before which the others have gone on.
  cases refuses with
  -- A configuration that does not load ends the run before anything else is done.
  | @config failure fails =>
    obtain ⟨_, w', said, writes⟩ := (writeAll_writes (w := w) [configRefused c.name failure]).total
    refine ⟨w', writes.calm, fun factory => ?_⟩
    simp only [Container.run, fails, write]
    rw [run_bind_of_ok said]
    rfl
  -- The level is read only after the contracts have been looked for.
  | @level config loads unknown =>
    obtain ⟨handed, w₁, resolved, ⟨found, way, rfl⟩, writes₁⟩ :=
      (c.resolveContracts_yields (w := w) around.network config).total
    obtain ⟨_, w', said, writes⟩ :=
      (writeAll_writes (w := w₁) [levelRefused config.log.level]).total
    -- The level is that of the configuration as loaded, and it is unknown.
    have refused : (c.applyLevel (config.settled found).log.level).run w₁ =
      (.ok (.error config.log.level), w₁) := by
      rw [Config.log_settled, applyLevel, unknown]
      rfl
    refine ⟨w', (writes₁.trans writes).calm, fun factory => ?_⟩
    simp only [Container.run, loads, write]
    rw [run_bind_of_ok resolved, run_bind_of_ok refused]
    dsimp only
    rw [run_bind_of_ok said]
    rfl
  -- The signals come last: a run has been opened by then, which nobody supervises.
  | @signals config fault level loads known refused wanted deaf =>
    obtain ⟨found, w₁, way, writes, comes⟩ := c.run_comes_to_supervise (w := w) loads known
    have failed : (tryPrepare (some fault) (c.supervisorFor (config.settled found))).run w₁ =
        (.ok (.error fault), w₁.openRun.2) :=
      tryPrepare_refused (by rw [c.supervisorFor_settled]; exact wanted)
        (by rw [writes.forwarder, deaf])
    obtain ⟨_, w', said, more⟩ := (writeAll_writes (w := w₁.openRun.2) [signalsRefused fault]).total
    refine ⟨w', (writes.calm.trans (openRun_calm w₁)).trans more.calm, fun factory => ?_⟩
    rw [comes, superviseWith, refused, run_bind_of_ok failed]
    simp only [write]
    rw [run_bind_of_ok said]
    rfl

variable {supervisor : Supervisor} {run : RunId}

/-- How services that were built, or could not be, come out, if they do: the run is cancelled, and
in the second case nothing has been started. -/
theorem conclude_yields (c : Container) (supervisor : Supervisor)
    (built : Except BuildError (List Service)) (opened : run < w.runs.length) :
    (c.conclude supervisor run built).Yields w
      (fun outcome w' => w'.isCancelled run = true ∧
        match built with
        | .error error => outcome = .refused (.construction error) ∧ Calm w w'
        | .ok _ => outcome.isFinished = true) fun _ _ => True := by
  cases built with
  | error error =>
    -- The run is cancelled by the container itself when the factory has failed.
    simp only [conclude, write, yields_bind, yields_writeAll, yields_answer, yields_pure]
    have writes := entries_write [buildRefused error] w
    have opened : run < (w.emitAll
      ([buildRefused error].map fun entry => .notice .main (.other entry))).runs.length := opened
    exact ⟨isCancelled_cancel .owner .requested opened, trivial,
      writes.calm.trans (cancel_calm run .requested _)⟩
  | ok services =>
    -- Whatever happens while services are supervised, no run is forgotten.
    simp only [conclude, write, yields_bind]
    refine (startServices_grows run (placed services) w).mono (fun error w₁ grows => ?_)
      fun _ _ _ => trivial
    have opened : run < w₁.runs.length := Nat.lt_of_lt_of_le opened grows.runs
    cases error with
    | none => exact ⟨isCancelled_cancel .owner .requested opened, rfl⟩
    | some error => exact ⟨isCancelled_cancel .owner .requested opened, rfl⟩

/-- How a container whose factory builds runs from a world on. -/
structure RunsLawfully (c : Container) (around : Surroundings) (factory : Factory) (w : World) :
    Prop where
  /-- A container that is cleared calls the factory, whichever it is, once; what this builds decides
  how the run ends. -/
  called : ∀ config, c.Cleared around w config → ∃ supervisor run handed w₁ built w₂,
    c.Hands around w config run handed w₁ ∧
    (∀ any : Factory, (c.run around any).run w =
      (any run handed >>= c.conclude supervisor run).run w₁) ∧
    (factory run handed).run w₁ = (.ok built, w₂) ∧
    ∀ outcome w', (c.run around factory).run w = (.ok outcome, w') →
      match built with
      | .error error => outcome = .refused (.construction error)
      | .ok _ => outcome.isFinished = true
  /-- A container that is not cleared calls no factory: its outcome is the same refusal for all of
  them. -/
  uncalled : (∀ config, ¬ c.Cleared around w config) → ∃ refusal w', c.Refuses around w refusal ∧
    ∀ any : Factory, (c.run around any).run w = (.ok (.refused refusal), w')
  /-- No service is started unless the services were supervised. -/
  unstarted : ∀ outcome w', (c.run around factory).run w = (.ok outcome, w') →
    outcome.isFinished = false → Calm w w'
  /-- Once a run has been prepared, it and all tokens derived from it are cancelled when the
  container returns. -/
  cancelled : ∀ outcome w', (c.run around factory).run w = (.ok outcome, w') →
    (∃ error, outcome = .refused (.construction error)) ∨ outcome.isFinished = true →
    w'.isCancelled w.runs.length = true ∧ ∀ child : Scenario.Child, child.run = w.runs.length →
      child.isCancelledIn w' = true

/-- A container that is cleared hands what the factory has built to its conclusion. -/
theorem run_concludes {factory : Factory} (builds : factory.Builds)
    (cleared : c.Cleared around w config) :
    ∃ supervisor run handed w₁ built w₂, c.Hands around w config run handed w₁ ∧
      (∀ any : Factory, (c.run around any).run w =
        (any run handed >>= c.conclude supervisor run).run w₁) ∧
      (factory run handed).run w₁ = (.ok built, w₂) ∧
      ∀ outcome w', (c.run around factory).run w = (.ok outcome, w') → w'.isCancelled run = true ∧
        match built with
        | .error error => outcome = .refused (.construction error) ∧ Calm w w'
        | .ok _ => outcome.isFinished = true := by
  -- The factory keeps the run that it is given, so that there is still something to cancel at the
  -- end.
  obtain ⟨supervisor, run, handed, w₁, hands, calls⟩ := run_calls cleared
  obtain ⟨built, w₂, made, calm⟩ := (builds run handed w₁).total
  refine ⟨supervisor, run, handed, w₁, built, w₂, hands, calls, made, fun outcome w' ran => ?_⟩
  rw [calls, run_bind_of_ok made] at ran
  obtain ⟨cancelled, ends⟩ :=
    -- What the factory did has forgotten no run, so that the one it was called with can be
    -- concluded.
    ((c.conclude_yields supervisor built (Nat.lt_of_lt_of_le hands.opened calm.runs)).of_run ran).1
      outcome rfl
  cases built with
  | error error => exact ⟨cancelled, ends.1, (hands.calm.trans calm).trans ends.2⟩
  | ok services => exact ⟨cancelled, ends⟩

/-- The law of a container's run, for every source of its configuration, every way to its contracts,
every supervisor and every factory that builds. -/
theorem run_lawful {factory : Factory} (builds : factory.Builds) (c : Container)
    (around : Surroundings) (w : World) :
    c.RunsLawfully around factory w where
  called config cleared := by
    -- The factory is called once, with what is handed to it, and what it built decides.
    obtain ⟨supervisor, run, handed, w₁, built, w₂, hands, calls, made, ends⟩ :=
      run_concludes builds cleared
    refine ⟨supervisor, run, handed, w₁, built, w₂, hands, calls, made, fun outcome w' ran => ?_⟩
    have ends := (ends outcome w' ran).2
    cases built with
    | error error => exact ends.1
    | ok services => exact ends
  uncalled never := by
    -- A container that is not cleared is refused at one of the steps, whichever the factory is.
    obtain ⟨config, cleared⟩ | ⟨refusal, refuses⟩ := c.cleared_or_refuses around w
    · exact absurd cleared (never config)
    · obtain ⟨w', _, refused⟩ := run_refuses refuses
      exact ⟨refusal, w', refuses, refused⟩
  unstarted outcome w' ran unfinished := by
    -- Either nothing was built, or the run was refused before; neither has started a service.
    obtain ⟨config, cleared⟩ | ⟨refusal, refuses⟩ := c.cleared_or_refuses around w
    · obtain ⟨_, _, _, _, built, _, _, _, _, ends⟩ := run_concludes builds cleared
      have ends := (ends outcome w' ran).2
      cases built with
      | error error => exact ends.2
      | ok services => simp [ends] at unfinished
    · obtain ⟨w₁, calm, refused⟩ := run_refuses refuses
      cases (refused factory).symm.trans ran
      exact calm
  cancelled outcome w' ran supervised := by
    obtain ⟨config, cleared⟩ | ⟨refusal, refuses⟩ := c.cleared_or_refuses around w
    -- A token derived from the run is cancelled with it, whatever was done with the token itself.
    · obtain ⟨_, run, _, _, _, _, hands, _, _, ends⟩ := run_concludes builds cleared
      have cancelled := hands.fresh ▸ (ends outcome w' ran).1
      refine ⟨cancelled, fun child own => ?_⟩
      rw [Scenario.Child.isCancelledIn, own, cancelled, Bool.or_true]
    · -- The refusals before a run is prepared are not among these outcomes.
      obtain ⟨w₁, _, refused⟩ := run_refuses refuses
      cases (refused factory).symm.trans ran
      rcases supervised with ⟨error, same⟩ | finished
      · cases same
        cases refuses
      · cases finished

end Container

/-- A plan builds: it may cancel the run, it may fail, and it spawns its actions, but starts
nothing. -/
theorem Scenario.FactoryPlan.build_builds (plan : Scenario.FactoryPlan) : plan.build.Builds := by
  intro run config w
  obtain ⟨cancel, fail, services, actions⟩ := plan
  -- The plan says that it builds, may cancel the run, and then fails at once or has its actions
  -- spawned.
  have told : Calm w (w.emit (.deed (.built config))) := (emit_writes rfl).calm
  have spawned : ∀ w₁ : World,
      Calm w₁ (w₁.spawn ⟨.action, ⟨"action", run, none⟩, actions, .fresh, none, false⟩).2 :=
    fun w₁ => (spawn_keeps rfl (by simp)).calm
  cases cancel with
  | none =>
    cases fail with
    | none => exact told.trans (spawned _)
    | some error => exact told
  | some cause =>
    have cancelled := told.trans (cancel_calm run cause _)
    cases fail with
    | none => exact cancelled.trans (spawned _)
    | some error => exact cancelled

/-- The program's own factory builds: it asks no server while it does so. -/
theorem Cli.factory_builds (machine : Net.Machine) (container : String) (beside : Script) :
    (Cli.factory machine container beside).Builds := by
  intro run config w
  -- A monitor that cannot be built is the only way to fail.
  have monitored : (Cli.monitorServices config.chain).Yields w (fun _ w' => Calm w w') fun _ _ =>
    False := by
    unfold Cli.monitorServices
    split
    · simp only [yields_bind]
      refine (asking_yields _).mono (fun client w₁ asked => ?_) fun _ _ halt => halt
      cases client with
      | error error => exact asked.2.calm
      | ok client => exact asked.2.calm
    · exact .refl w
  simp only [Cli.factory, yields_bind]
  refine monitored.mono (fun monitor w₁ calm => ?_) fun _ _ halt => halt
  cases monitor with
  | error error => exact calm
  | ok monitor =>
    simp only [spawnAction, yields_bind, yields_answer, yields_pure]
    exact calm.trans (spawn_keeps rfl (by simp)).calm

namespace Container

/-- A container whose given contracts cannot be found. -/
def unresolved : Container where
  name := "node"
  source := .value {}
  contracts := some (.error (.nameNotFound Ethereum.dispatchName))

/-- A place without files and servers. -/
def wilderness : Surroundings where
  files := fun _ => .error .missing
  network := Ethereum.sealed
  machine := Net.secluded

/-- One service that runs until it is cancelled. -/
def single : Scenario.FactoryPlan where
  services := [⟨"a", [], []⟩]
  actions := [.sleep 1, .cancel .requested]

/-- The container runs to its end although its contracts are not found. -/
theorem unresolved_lawful :
    (((unresolved.run wilderness single.build).run { horizon := 1000 }).1.toOption.map
      (·.isFinished)) = some true ∧
      unresolved.RunsLawfully wilderness single.build { horizon := 1000 } :=
  ⟨by decide +kernel, run_lawful single.build_builds unresolved wilderness { horizon := 1000 }⟩

end Container

end Warden
