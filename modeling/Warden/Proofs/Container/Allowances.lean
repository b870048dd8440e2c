import Warden.Proofs.Container.Serving
import Warden.Proofs.Ethereum.Failover
import Warden.Proofs.Ethereum.Settling

/-!
The time that an accepted configuration allows: some to each start and stop, to each question about
the chain and between two polls of it, but to the lookup of names whatever is configured, be it
none.
-/

namespace Warden

namespace Ethereum

/-- Every server replies within a second. -/
def Prompt (network : Network) : Prop :=
  ∀ before url request, ∃ delay reply, network before url request = .reply delay reply ∧
    delay < 1000

variable {α : Type} {network : Network} {timeout : Nat} {url : Net.Url} {request : Request}
  {read : Reply → Except CallFailure α} {before : List Attempt} {error : ChainError} {secs : Nat}

/-- A question to a prompt server is late exactly if there is no time for it at all. -/
theorem Prompt.late_iff (prompt : Prompt network) :
    Answered network timeout url request read before .late ↔ isSupported url = true ∧
      timeout = 0 := by
  obtain ⟨delay, reply, delivered, soon⟩ := prompt before url request
  constructor
  · intro answered
    -- A prompt server answers within a second, so that its answer is late only for those who wait
    -- no time.
    cases answered with
    | silent supported silence => cases delivered.symm.trans silence
    | late supported later expired =>
      cases delivered.symm.trans later
      exact ⟨supported, by omega⟩
  · rintro ⟨supported, rfl⟩
    exact .late supported delivered (by omega)

/-- While there is some time for its questions, no server of a client is late if all are prompt. -/
theorem Client.answersAt_in_time (prompt : Prompt network) (time : timeout ≠ 0)
    (servers : List Net.Url) (position : Nat) :
    ¬ AnswersAt network timeout request servers before position .late := by
  rintro ⟨url, _, answered⟩
  exact time (prompt.late_iff.mp answered).2

namespace Resolver

variable {resolver : Resolver} {contract : Address} {lookup : Lookup} {node : Word} {name : String}
  {s : Session}

/-- A contract on a prompt server times out exactly if there is no time for its answer. -/
theorem answers_timeout_iff (prompt : Prompt network) :
    resolver.Answers network before contract lookup node (.error (.timeout secs)) ↔
      isSupported resolver.server = true ∧ resolver.timeoutSecs = 0 ∧ secs = 0 := by
  -- A contract times out in one way only: its answer is late.
  constructor
  · intro answers
    cases answers with
    | late answered =>
      obtain ⟨supported, none⟩ := prompt.late_iff.mp answered
      exact ⟨supported, UInt64.toNat_inj.mp none, none⟩
  · rintro ⟨supported, none, rfl⟩
    have given : resolver.timeoutSecs.toNat = 0 := by rw [none]; rfl
    exact given ▸ .late (prompt.late_iff.mpr ⟨supported, given⟩)

/-- On a prompt server the resolution of a name times out exactly if there is no time for its
questions. -/
theorem resolve_timeout_iff (prompt : Prompt network) :
    ((resolver.resolve network name).run s).1 = .error (.timeout secs) ↔
    isSupported resolver.server = true ∧ resolver.timeoutSecs = 0 ∧ secs = 0 := by
  have exactly := (resolver.resolve_search network name s).exactly.failed (.timeout secs) nofun
  rw [exactly, answers_timeout_iff prompt]
  constructor
  · -- Whichever of the two questions it is that times out, there is no time for it.
    rintro (first | ⟨contract, _, second⟩)
    · exact first
    · exact (answers_timeout_iff prompt).mp second
  · exact .inl

/-- Without any time for its questions no contract ever answers with an address. -/
theorem not_answers_of_timeout_zero (none : resolver.timeoutSecs = 0) {address : Address} :
    ¬ resolver.Answers network before contract lookup node (.ok address) := by
  intro answers
  cases answers with
  | address answered => cases answered with
    | value supported delivered timely readable =>
      rw [none] at timely
      exact absurd timely (by simp)

/-- What becomes of the first name becomes of the search for the contracts, unless the name is
found. -/
theorem contracts_error {error : ChainError}
    (lost : ((resolver.resolve network dispatchName).run s).1 = .error error) :
    ((resolver.contracts network).run s).1 = .error error := by
  rcases first : (resolver.resolve network dispatchName).run s with ⟨result, s'⟩
  rw [first] at lost
  simp only [Resolver.contracts, Asking.run_bind, first, lost]
  rfl

/-- Without any time for its questions a resolver finds no contracts, on no network. -/
theorem not_contracts_of_timeout_zero (none : resolver.timeoutSecs = 0) (network : Network)
    (s : Session) (contracts : Contracts) :
    ((resolver.contracts network).run s).1 ≠ .ok contracts := by
  -- Already the first name is not found, as the registry does not answer.
  cases first : ((resolver.resolve network dispatchName).run s).1 with
  | error error =>
    rw [contracts_error first]
    exact nofun
  | ok address =>
    obtain ⟨contract, ⟨registers, _⟩, _⟩ :=
      ((resolver.resolve_search network dispatchName s).exactly.found address).mp first
    exact absurd registers.1 (not_answers_of_timeout_zero none)

end Resolver

end Ethereum

namespace Config

open Ethereum

/-- The time that a run allows to its services and to the chain that it follows. -/
structure Allows (c : Config) : Prop where
  /-- Without a supervisor of its own, a container allows some time to each start and to each
  stop. -/
  services : ∀ container : Container, container.supervisor = none →
    0 < (container.supervisorFor c).settings.startupTimeout.nanos ∧
      0 < (container.supervisorFor c).settings.stopTimeout.nanos
  /-- A chain that is followed is asked with some time, in which prompt servers answer, and polled
  at some distance. -/
  chain : c.chain.enabled = true → ∀ s client s', (Client.open? c.chain).run s = (.ok client, s') →
    0 < client.timeout ∧
      (∃ period, ({ client } : Service.ChainMonitor).ticker = .ok period ∧ 0 < period.nanos) ∧
      ∀ network, Prompt network → ∀ request before position,
        ¬ Client.AnswersAt network client.timeout request client.providers before position .late

/-- And to the lookup of names, if a registry is configured. -/
structure AllowsNames (c : Config) : Prop extends Allows c where
  names : c.ens.contractAddress.isEmpty = false → ∀ resolver, Resolver.open? c.ens = .ok resolver →
    resolver.timeoutSecs ≠ 0

/-- To the lookup of names it allows what is configured, which may be none. -/
structure AllowsButNames (c : Config) : Prop extends Allows c where
  /-- The rules do not look at the time for names. -/
  unlimited :
    ∀ secs, { c with ens := { c.ens with timeoutSecs := secs } : Config }.validate = .ok ()
  names : c.ens.contractAddress.isEmpty = false →
    ∃ resolver, Resolver.open? c.ens = .ok resolver ∧ resolver.timeoutSecs = c.ens.timeoutSecs
  /-- If the servers are prompt, the resolution of a name times out exactly if none is
  configured. -/
  late : ∀ resolver, Resolver.open? c.ens = .ok resolver → ∀ network, Prompt network →
    ∀ name s secs,
    ((resolver.resolve network name).run s).1 = .error (.timeout secs) ↔
      isSupported resolver.server = true ∧ c.ens.timeoutSecs = 0 ∧ secs = 0
  /-- With none, no contracts are found, however fast the servers are. -/
  lost : ∀ resolver, Resolver.open? c.ens = .ok resolver → c.ens.timeoutSecs = 0 →
    ∀ network s contracts, ((resolver.contracts network).run s).1 ≠ .ok contracts

variable {c : Config}

/-- What the rules ask of the timings is enough for the services and the chain. -/
theorem Accepted.allows (accepted : c.Accepted) : c.Allows where
  services container own := by
    have startup : 0 < c.supervisor.startupTimeoutSecs.toNat := toNat_pos accepted.startup
    have stop : 0 < c.supervisor.stopTimeoutSecs.toNat := toNat_pos accepted.stop
    simp only [Container.supervisorFor, own, Option.getD_none, Supervision.Settings.ofConfig,
      Duration.ofSecs]
    omega
  chain enabled s client s' opened := by
    have usable := accepted.chain enabled
    obtain ⟨client', s'', opened', _, _, own⟩ := Client.open?_of_usable usable s
    cases opened.symm.trans opened'
    -- The time to answer in is the configured one, of which the rules ask that there be some.
    have time : 0 < client.timeout := by
      rw [Client.timeout, own]
      exact toNat_pos usable.timeout
    refine ⟨time, Service.ChainMonitor.ticker_of_usable (own ▸ usable),
      fun network prompt request before position => ?_⟩
    exact Client.answersAt_in_time prompt (Nat.ne_of_gt time) client.providers position

/-- The rules pass over the time for names. -/
theorem Accepted.allowsButNames (accepted : c.Accepted) : c.AllowsButNames where
  toAllows := accepted.allows
  unlimited secs := by
    -- What they ask of the section is the locator and the registry's address.
    refine validate_eq_ok_iff.mpr { accepted with ens := fun wanted => ?_ }
    exact ⟨(accepted.ens wanted).url, (accepted.ens wanted).registry⟩
  names wanted := by
    -- The time for a name is the configured one, whatever it is.
    obtain ⟨resolver, opened⟩ := Resolver.open?_of_usable (accepted.ens wanted)
    exact ⟨resolver, opened, (Resolver.open?_eq_ok opened).2.2.symm⟩
  late resolver opened network prompt name s secs := by
    rw [(Resolver.open?_eq_ok opened).2.2]
    exact Resolver.resolve_timeout_iff prompt
  lost resolver opened none network s contracts :=
    Resolver.not_contracts_of_timeout_zero ((Resolver.open?_eq_ok opened).2.2.symm.trans none)
      network s contracts

/-- An accepted configuration allows time to all but the lookup of names, also with any contracts
written into it. -/
theorem accepted_allows_all_but_names (accepted : c.validate = .ok ()) :
    c.AllowsButNames ∧ ∀ contracts, (c.withContracts contracts).AllowsButNames := by
  have accepted := validate_eq_ok_iff.mp accepted
  exact ⟨accepted.allowsButNames, fun contracts =>
    (accepted.settledAfter [.ok contracts]).allowsButNames⟩

/-- A configuration that follows a chain and allows no time to the lookup of names. -/
def hurried : Config where
  ens := { timeoutSecs := 0 }
  chain := { enabled := true }

/-- The rules allow the hurried configuration everything but its names, with or without
contracts. -/
theorem hurried_allows_all_but_names :
    hurried.AllowsButNames ∧ ∀ contracts, (hurried.withContracts contracts).AllowsButNames :=
  accepted_allows_all_but_names (by decide +kernel)

/-- The network whose servers answer every question at once, with one. -/
def instant : Network := fun _ _ _ =>
  .reply 0 (.answered (some (.string ("0x" ++ String.ofList (List.replicate 63 '0') ++ "1"))) none)

/-- It is accepted, and yet its search for contracts times out wherever servers are prompt, also
where a second would be enough to find them. -/
theorem hurried_names_time_out :
    hurried.validate = .ok () ∧ ¬ hurried.AllowsNames ∧
      (∃ resolver, Resolver.open? hurried.ens = .ok resolver ∧
        ∀ network, Prompt network → ∀ s, ((resolver.contracts network).run s).1 =
          .error (.timeout 0)) ∧
      Prompt instant ∧
      ((Resolver.open? { hurried.ens with timeoutSecs := 1 }).toOption.any fun resolver =>
        ((resolver.contracts instant).run {}).1.isOk) = true := by
  have accepted : hurried.validate = .ok () := by decide +kernel
  -- What is accepted opens a resolver, whose server can be asked; but there is no time for its
  -- answers.
  obtain ⟨resolver, opened, same⟩ :=
    (validate_eq_ok_iff.mp accepted).allowsButNames.names (by decide)
  have supported : isSupported resolver.server = true := by
    have all :
      ((Resolver.open? hurried.ens).toOption.all fun resolver => isSupported resolver.server) =
        true := by
      decide +kernel
    rwa [opened] at all
  refine ⟨accepted, fun allows => allows.names (by decide) resolver opened same,
    ⟨resolver, opened, fun network prompt s => ?_⟩, fun _ _ _ =>
      ⟨0, _, rfl, by decide⟩, by decide +kernel⟩
  -- The search for the first name times out, and with it all of it.
  exact Resolver.contracts_error ((Resolver.resolve_timeout_iff prompt).mpr ⟨supported, same, rfl⟩)

end Config

end Warden
