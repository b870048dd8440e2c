import Warden.Proofs.Config.Accepted
import Warden.Proofs.Container.RunLaw

/-!
What the rules accept serves: no later stage of a run stumbles over a value that they have let pass.
-/

namespace Warden

open Supervision World Flow

namespace Ethereum

/-- A locator that can be read is the locator of a server. -/
theorem serverUrl_of_parse {text : String} {url : Net.Url} (read : Net.Url.parse text = .ok url) :
    serverUrl text = .ok url := by
  simp only [serverUrl, read]

/-- A registry that obeys the rules can be asked. -/
theorem Resolver.open?_of_usable {ens : Config.Ens} (usable : ens.Usable) :
    ∃ resolver, Resolver.open? ens = .ok resolver := by
  obtain ⟨⟨server, reads⟩, registry, parses⟩ := usable
  exact ⟨⟨registry, server, ens.timeoutSecs⟩,
    by simp only [Resolver.open?, parses, serverUrl_of_parse reads]⟩

/-- A chain that obeys the rules has a client, whose first server is the one that is configured. -/
theorem Client.open?_of_usable {chain : Config.Chain} (usable : chain.Usable) (s : Session) :
    ∃ client s', (Client.open? chain).run s = (.ok client, s') ∧
      Net.Url.parse chain.rpcUrl = .ok client.primary ∧
      client.providers.head? = some client.primary ∧ client.config = chain := by
  -- Failovers that cannot be read are left out, which is no error.
  obtain ⟨primary, reads⟩ := usable.url
  have opens :
    Client.open? chain = do return .ok ⟨primary, ← Client.usable chain.failoverUrls, chain⟩ := by
    simp only [Client.open?, serverUrl_of_parse reads]
  rw [opens, Asking.run_bind]
  exact ⟨⟨primary, _, chain⟩, _, rfl, reads, rfl, rfl⟩

end Ethereum

/-- The ticker of a monitor whose chain obeys the rules does not panic. -/
theorem Service.ChainMonitor.ticker_of_usable {monitor : Service.ChainMonitor}
    (usable : monitor.client.config.Usable) :
    ∃ period, monitor.ticker = .ok period ∧ 0 < period.nanos := by
  have some : 0 < monitor.client.config.pollIntervalMs.toNat := Config.toNat_pos usable.interval
  have period : 0 < (Duration.ofMillis monitor.client.config.pollIntervalMs.toNat).nanos := by
    simp only [Duration.ofMillis]
    omega
  exact ⟨_, by simp only [ticker, Nat.ne_of_gt period, if_false], period⟩

namespace Config

/-- A configuration whose values every later stage can use. -/
structure Serves (c : Config) : Prop where
  /-- The level of the log can be applied, with a handle or without. -/
  level : ∀ (container : Container) w, ∃ w', (container.applyLevel c.log.level).run w =
    (.ok (.ok ()), w')
  /-- Names can be looked up unless the registry is left out. -/
  names : c.ens.contractAddress.isEmpty = false → ∃ resolver, Ethereum.Resolver.open? c.ens =
    .ok resolver
  /-- Metrics that are switched on have an address, and nothing is logged about one that cannot be
  read. -/
  metrics : c.observability.metricsEnabled = true →
    (∃ address, Net.SocketAddress.parse? c.observability.metricsAddress = some address) ∧
      ∀ machine text,
        Container.metricsUnreadable text ∉ Container.metricsEntries machine c.observability
  /-- The chain has a client with the configured server as its first, and a monitor whose ticker
  does not panic. -/
  chain : c.chain.enabled = true → ∀ s, ∃ client s', (Ethereum.Client.open? c.chain).run s =
    (.ok client, s') ∧
    Net.Url.parse c.chain.rpcUrl = .ok client.primary ∧
      client.providers.head? = some client.primary ∧
    ∃ period, ({ client } : Service.ChainMonitor).ticker = .ok period ∧ 0 < period.nanos
  /-- The health endpoint has one address at which it listens. -/
  health : c.health.enabled = true → ∃ address, ∀ machine : Net.Machine,
    machine.lookUp c.health.bindAddress = .ok [address]
  /-- The program can build its services. -/
  services : ∀ machine name beside run w, ∃ services w',
    (Cli.factory machine name beside run c).run w = (.ok (.ok services), w')

/-- The program's services can be built if the chain obeys the rules or is not followed. -/
theorem factory_of_usable {c : Config} (chain : c.chain.enabled = true → c.chain.Usable)
    (machine : Net.Machine) (name : String) (beside : Script) (run : RunId) (w : World) :
    ∃ services w',
      (Cli.factory machine name beside run c).run w = (.ok (.ok services), w') := by
  -- The client is the only part that can fail, and it does so for its locator alone.
  have monitored :
    (Cli.monitorServices c.chain).Yields w (fun built _ => ∃ services, built = .ok services)
      fun _ _ => False := by
    unfold Cli.monitorServices
    split
    · rename_i enabled
      simp only [yields_bind]
      -- What the client is opened with depends on the attempts so far, and that it is opened does
      -- not.
      refine (asking_yields _).mono (fun client w₁ asked => ?_) fun _ _ halt => halt
      obtain ⟨rfl, _⟩ := asked
      obtain ⟨client, s', opened, _⟩ :=
        Ethereum.Client.open?_of_usable (chain enabled) { attempts := w.trace.attempts }
      rw [opened]
      exact ⟨_, rfl⟩
    · exact ⟨_, rfl⟩
  obtain ⟨_, w₁, ran, services, rfl⟩ := monitored.total
  simp only [Cli.factory]
  rw [run_bind_of_ok ran]
  exact ⟨_, _, rfl⟩

/-- What the rules accept serves. -/
theorem Accepted.serves {c : Config} (accepted : c.Accepted) : c.Serves where
  level container w := by
    obtain ⟨level, known⟩ := accepted.level
    obtain ⟨_, w', ran, rfl, _⟩ := (container.applyLevel_yields (w := w) known).total
    exact ⟨w', ran⟩
  names wanted := Ethereum.Resolver.open?_of_usable (accepted.ens wanted)
  metrics enabled := by
    obtain ⟨address, reads⟩ := accepted.metrics enabled
    refine ⟨⟨address, reads⟩, fun machine text member => ?_⟩
    -- An address that was read is never reported as one that could not be.
    simp only [Container.metricsEntries, enabled, if_true, reads] at member
    split at member <;> simp [Container.metricsUnreadable, Container.metricsListening,
      Container.metricsRefused] at member
  chain enabled s := by
    -- The rules have read the locator and checked the times, so that neither can fail here.
    have usable := accepted.chain enabled
    obtain ⟨client, s', opened, reads, first, own⟩ := Ethereum.Client.open?_of_usable usable s
    exact ⟨client, s', opened, reads, first, Service.ChainMonitor.ticker_of_usable (own ▸ usable)⟩
  health enabled := by
    obtain ⟨address, reads⟩ := accepted.health enabled
    exact ⟨address, fun machine => by simp only [Net.Machine.lookUp, reads]⟩
  services := factory_of_usable accepted.chain

/-- Contracts that are written into a configuration change nothing of what the later stages use. -/
theorem Serves.withContracts {c : Config} (serves : c.Serves) (contracts : Ethereum.Contracts) :
    (c.withContracts contracts).Serves :=
  ⟨serves.level, serves.names, serves.metrics, serves.chain, serves.health, serves.services⟩

end Config

namespace Container

/-- A container that concludes never complains about the level of its log. -/
theorem conclude_keeps_level (c : Container) (supervisor : Supervisor) (run : RunId)
    (built : Except BuildError (List Service)) (w : World) :
    (c.conclude supervisor run built).Yields w
      (fun outcome _ => ∀ name, outcome ≠ .refused (.level name)) fun _ _ => True := by
  -- The level was set before anything was built, and nothing that comes after it is refused for it.
  cases built with
  | error error =>
    simp only [conclude, write, yields_bind, yields_writeAll, yields_answer, yields_pure]
    simp
  | ok services =>
    simp only [conclude, write, yields_bind]
    refine (startServices_grows run (placed services) w).mono (fun error w₁ _ => ?_) fun _ _ _ =>
      trivial
    cases error with
    -- Whatever the run ended with, it is finished, and that is no refusal.
    | none => exact fun _ differs => by cases differs
    | some error => exact fun _ differs => by cases differs

/-- No container refuses to run for the level of its log: the rules have seen to that before. -/
theorem run_keeps_level (c : Container) (around : Surroundings) (factory : Factory) (w : World)
    (name : String) (w' : World) :
    (c.run around factory).run w ≠ (.ok (.refused (.level name)), w') := by
  intro ran
  -- A container that is cleared is past its level, and one that is not has had it checked by the
  -- rules.
  obtain ⟨config, cleared⟩ | ⟨refusal, refuses⟩ := c.cleared_or_refuses around w
  · obtain ⟨supervisor, run, handed, w₁, _, calls⟩ := run_calls cleared
    -- Whatever the factory does, what it has built is concluded or nothing comes back.
    have ends : (factory run handed >>= c.conclude supervisor run).Yields w₁
        (fun outcome _ => ∀ name, outcome ≠ .refused (.level name)) fun _ _ => True := by
      rw [yields_bind]
      unfold Flow.Yields
      split
      · exact c.conclude_keeps_level supervisor run _ _
      · trivial
    exact (ends.of_run ((calls factory).symm.trans ran)).1 _ rfl name rfl
  · obtain ⟨w₁, _, refused⟩ := run_refuses refuses
    cases (refused factory).symm.trans ran
    cases refuses with
    | level loads unknown =>
      obtain ⟨level, known⟩ := (Config.validate_eq_ok_iff.mp (loadConfig_validates loads)).level
      cases unknown.symm.trans known

end Container

/-- The rules cover their consumers: an accepted configuration serves, also with any contracts
written into it, and no container refuses to run for the level of its log. -/
theorem Config.accepted_serves {config : Config} (accepted : config.validate = .ok ()) :
    config.Serves ∧ (∀ contracts, (config.withContracts contracts).Serves) ∧
      ∀ (c : Container) around factory w name w', (c.run around factory).run w ≠
        (.ok (.refused (.level name)), w') := by
  have serves : config.Serves := (Config.validate_eq_ok_iff.mp accepted).serves
  exact ⟨serves, serves.withContracts, Container.run_keeps_level⟩

/-- A configuration with every section switched on. -/
def Config.busy : Config where
  chain := { enabled := true, failoverUrls := ["http://backup:8545"] }
  observability := { metricsEnabled := true }

/-- With every section switched on, the defaults serve. -/
theorem Config.busy_serves :
    Config.busy.Serves ∧ (∀ contracts, (Config.busy.withContracts contracts).Serves) ∧
    ∀ (c : Container) around factory w name w', (c.run around factory).run w ≠
      (.ok (.refused (.level name)), w') :=
  Config.accepted_serves (by decide +kernel)

end Warden
