import Warden.Config.Rule

/-!
What the rules grant: a configuration that breaks none of them is accepted, and has usable values
where they matter.
-/

namespace Warden.Config

/-- Nothing is wrong exactly where what is demanded holds. -/
@[simp] theorem demand_eq_nil {holds : Bool} {violation : Violation} :
    demand holds violation = [] ↔ holds = true := by
  cases holds <;> simp [demand]

@[simp] theorem checkLevel_eq_nil {value : String} :
    checkLevel value = [] ↔ ∃ level, Log.Level.parse? value = some level := by
  rw [checkLevel, demand_eq_nil, Option.isSome_iff_exists]

@[simp] theorem checkPositive_eq_nil {field : String} {value : UInt64} :
    checkPositive field value = [] ↔ value ≠ 0 := by
  simp [checkPositive]

@[simp] theorem checkUrl_eq_nil {field value : String} :
    checkUrl field value = [] ↔ ∃ url, Net.Url.parse value = .ok url := by
  rw [checkUrl, demand_eq_nil, Net.Url.isValid]
  cases Net.Url.parse value <;> simp [Except.toOption]

@[simp] theorem checkAddress_eq_nil {field value : String} :
    checkAddress field value = [] ↔ ∃ address, Ethereum.Address.parse value = .ok address := by
  rw [checkAddress, demand_eq_nil]
  cases Ethereum.Address.parse value <;> simp [Except.isOk, Except.toBool]

@[simp] theorem checkSocket_eq_nil {field value : String} :
    checkSocket field value = [] ↔ ∃ address, Net.SocketAddress.parse? value = some address := by
  rw [checkSocket, demand_eq_nil, Option.isSome_iff_exists]

/-- A number of the configuration that is not zero is positive. -/
theorem toNat_pos {value : UInt64} (some : value ≠ 0) : 0 < value.toNat :=
  Nat.pos_of_ne_zero fun none => some (UInt64.toNat_inj.mp none)

/-- An address that may be left out reads as an address if it is there. -/
def OptionalAddress (value : String) : Prop :=
  value.isEmpty = false → ∃ address, Ethereum.Address.parse value = .ok address

@[simp] theorem checkOptionalAddress_eq_nil {field value : String} :
    checkOptionalAddress field value = [] ↔ OptionalAddress value := by
  unfold checkOptionalAddress OptionalAddress
  cases value.isEmpty <;> simp

/-- The registry of names can be asked. -/
structure Ens.Usable (c : Ens) : Prop where
  url : ∃ url, Net.Url.parse c.jsonRpcUrl = .ok url
  registry : ∃ address, Ethereum.Address.parse c.contractAddress = .ok address

/-- A section for names has no violation where its locator and its address are usable, or the
address is left out. -/
@[simp] theorem checkEns_eq_nil {c : Ens} :
    checkEns c = [] ↔ (c.contractAddress.isEmpty = false → c.Usable) := by
  -- Without a registry nothing is looked at, whatever else the section holds.
  unfold checkEns
  cases c.contractAddress.isEmpty with
  | true => simp
  | false =>
    simp only [Bool.false_eq_true, if_false, List.append_eq_nil_iff, checkUrl_eq_nil,
      checkAddress_eq_nil, forall_const]
    exact ⟨fun ⟨url, registry⟩ => ⟨url, registry⟩, fun usable => ⟨usable.url, usable.registry⟩⟩

/-- The chain can be asked and followed. -/
structure Chain.Usable (c : Chain) : Prop where
  url : ∃ url, Net.Url.parse c.rpcUrl = .ok url
  timeout : c.rpcTimeoutSecs ≠ 0
  interval : c.pollIntervalMs ≠ 0

/-- Nor has the section of the chain where it is usable or switched off. -/
@[simp] theorem checkChain_eq_nil {c : Chain} :
    checkChain c = [] ↔ (c.enabled = true → c.Usable) := by
  -- A chain that is switched off need not be usable.
  unfold checkChain
  cases c.enabled with
  | false => simp
  | true =>
    simp only [if_true, List.append_eq_nil_iff, checkUrl_eq_nil, checkPositive_eq_nil,
      forall_const, and_assoc]
    exact ⟨fun ⟨url, timeout, interval⟩ => ⟨url, timeout, interval⟩,
      fun usable => ⟨usable.url, usable.timeout, usable.interval⟩⟩

@[simp] theorem checkHealth_eq_nil {c : Health} :
    checkHealth c = [] ↔
      (c.enabled = true → ∃ address, Net.SocketAddress.parse? c.bindAddress = some address) := by
  unfold checkHealth
  cases c.enabled <;> simp

@[simp] theorem checkObservability_eq_nil {c : Observability} : checkObservability c = [] ↔
    (c.metricsEnabled = true → ∃ address, Net.SocketAddress.parse? c.metricsAddress =
      some address) := by
  unfold checkObservability
  cases c.metricsEnabled <;> simp

/-- What the rules ask of a configuration: a section that is switched off need not be usable. -/
structure Accepted (c : Config) : Prop where
  level : ∃ level, Log.Level.parse? c.log.level = some level
  startup : c.supervisor.startupTimeoutSecs ≠ 0
  stop : c.supervisor.stopTimeoutSecs ≠ 0
  ens : c.ens.contractAddress.isEmpty = false → c.ens.Usable
  registry : OptionalAddress c.registry.contractAddress
  scannerVersion : OptionalAddress c.scannerVersionAddress
  agentRegistry : OptionalAddress c.agentRegistryAddress
  health : c.health.enabled = true → ∃ address, Net.SocketAddress.parse? c.health.bindAddress =
    some address
  chain : c.chain.enabled = true → c.chain.Usable
  metrics : c.observability.metricsEnabled = true →
    ∃ address, Net.SocketAddress.parse? c.observability.metricsAddress = some address

/-- A configuration is accepted exactly if it violates nothing. -/
theorem validate_eq_ok {c : Config} : c.validate = .ok () ↔ c.violations = [] := by
  unfold validate
  split
  · rename_i none
    simp [none]
  · rename_i broken
    simpa using broken

/-- A configuration is accepted exactly when it meets all that the rules ask. -/
theorem validate_eq_ok_iff {c : Config} : c.validate = .ok () ↔ c.Accepted := by
  simp only [validate_eq_ok, violations, List.append_eq_nil_iff, checkLevel_eq_nil,
    checkPositive_eq_nil, checkEns_eq_nil, checkOptionalAddress_eq_nil, checkHealth_eq_nil,
    checkChain_eq_nil, checkObservability_eq_nil, and_assoc]
  -- One condition for each rule, in the order of the rules.
  constructor
  · rintro ⟨level, startup, stop, ens, registry, scannerVersion, agentRegistry, health, chain,
      metrics⟩
    exact
      { level, startup, stop, ens, registry, scannerVersion, agentRegistry, health, chain, metrics }
  · rintro ⟨level, startup, stop, ens, registry, scannerVersion, agentRegistry, health, chain,
      metrics⟩
    exact ⟨level, startup, stop, ens, registry, scannerVersion, agentRegistry, health,
      chain, metrics⟩

end Warden.Config
