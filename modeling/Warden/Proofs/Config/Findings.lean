import Mathlib.Data.List.Nodup
import Warden.Proofs.Config.Accepted

/-!
The rules one by one: the setting that each of them reads, the switch of its section and what it
asks. The violations of a configuration are those of the rules that it breaks, and each of them has
to do with no other setting.
-/

namespace Warden.Config

/-- What is asked of the value of a setting. -/
inductive Requirement
  | level (value : String)
  | positive (value : UInt64)
  | url (value : String)
  | address (value : String)
  /-- An address that may be left out. -/
  | optionalAddress (value : String)
  | socket (value : String)
deriving Repr, DecidableEq

namespace Requirement

/-- What it takes for a value to meet a requirement: the parser of the section that uses it accepts
it. -/
def Met : Requirement → Prop
  | .level value => ∃ level, Log.Level.parse? value = some level
  | .positive value => value ≠ 0
  | .url value => ∃ url, Net.Url.parse value = .ok url
  | .address value => ∃ address, Ethereum.Address.parse value = .ok address
  | .optionalAddress value => OptionalAddress value
  | .socket value => ∃ address, Net.SocketAddress.parse? value = some address

instance : (requirement : Requirement) → Decidable requirement.Met
  | .level value => decidable_of_iff (checkLevel value = []) checkLevel_eq_nil
  | .positive value => inferInstanceAs (Decidable (value ≠ 0))
  | .url value => decidable_of_iff (checkUrl "" value = []) checkUrl_eq_nil
  | .address value => decidable_of_iff (checkAddress "" value = []) checkAddress_eq_nil
  | .optionalAddress value =>
    decidable_of_iff (checkOptionalAddress "" value = []) checkOptionalAddress_eq_nil
  | .socket value => decidable_of_iff (checkSocket "" value = []) checkSocket_eq_nil

/-- How a value that does not meet what is asked of it is reported. -/
def violation (field : String) : Requirement → Violation
  | .level value => .unknownLevel value
  | .positive _ => .zero field
  | .url value => .badUrl field value
  | .address value | .optionalAddress value => .badAddress field value
  | .socket value => .badSocket field value

/-- A value that does not meet what is asked of it is reported once. -/
def report (field : String) (requirement : Requirement) : List Violation :=
  if requirement.Met then [] else [requirement.violation field]

end Requirement

/-- The rules, each named for the one setting that it reads. -/
inductive Rule
  | level
  | startupTimeout
  | stopTimeout
  | namesUrl
  | namesRegistry
  | registry
  | scannerVersion
  | agentRegistry
  | health
  | chainUrl
  | chainTimeout
  | chainInterval
  | metrics
deriving Repr, DecidableEq

namespace Rule

/-- The rules in their order. -/
def all : List Rule :=
  [.level, .startupTimeout, .stopTimeout, .namesUrl, .namesRegistry, .registry, .scannerVersion,
    .agentRegistry, .health, .chainUrl, .chainTimeout, .chainInterval, .metrics]

/-- The setting that a rule reads, by its path in a configuration file. -/
def field : Rule → String
  | .level => "log.level"
  | .startupTimeout => "supervisor.startup_timeout_secs"
  | .stopTimeout => "supervisor.stop_timeout_secs"
  | .namesUrl => "ens.json_rpc_url"
  | .namesRegistry => "ens.contract_address"
  | .registry => "registry.contract_address"
  | .scannerVersion => "scanner_version_contract_address"
  | .agentRegistry => "agent_registry_contract_address"
  | .health => "health.bind_address"
  | .chainUrl => "chain.rpc_url"
  | .chainTimeout => "chain.rpc_timeout_secs"
  | .chainInterval => "chain.poll_interval_ms"
  | .metrics => "observability.metrics_address"

/-- What a rule asks, with the value of the setting that it reads. -/
def requirement (c : Config) : Rule → Requirement
  | .level => .level c.log.level
  | .startupTimeout => .positive c.supervisor.startupTimeoutSecs
  | .stopTimeout => .positive c.supervisor.stopTimeoutSecs
  | .namesUrl => .url c.ens.jsonRpcUrl
  | .namesRegistry => .address c.ens.contractAddress
  | .registry => .optionalAddress c.registry.contractAddress
  | .scannerVersion => .optionalAddress c.scannerVersionAddress
  | .agentRegistry => .optionalAddress c.agentRegistryAddress
  | .health => .socket c.health.bindAddress
  | .chainUrl => .url c.chain.rpcUrl
  | .chainTimeout => .positive c.chain.rpcTimeoutSecs
  | .chainInterval => .positive c.chain.pollIntervalMs
  | .metrics => .socket c.observability.metricsAddress

/-- Whether the section of the setting is switched on; names are looked up if a registry is
given. -/
def isActive (c : Config) : Rule → Bool
  | .namesUrl | .namesRegistry => !c.ens.contractAddress.isEmpty
  | .health => c.health.enabled
  | .chainUrl | .chainTimeout | .chainInterval => c.chain.enabled
  | .metrics => c.observability.metricsEnabled
  | .level | .startupTimeout | .stopTimeout | .registry | .scannerVersion | .agentRegistry => true

/-- A rule is broken if its section is switched on and what it asks is not met. -/
def Broken (c : Config) (rule : Rule) : Prop :=
  rule.isActive c = true ∧ ¬ (rule.requirement c).Met

instance (c : Config) (rule : Rule) : Decidable (rule.Broken c) :=
  inferInstanceAs (Decidable (_ ∧ _))

/-- How a configuration that breaks a rule is reported. -/
def violation (c : Config) (rule : Rule) : Violation :=
  (rule.requirement c).violation rule.field

/-- What a rule has to report about a configuration. -/
def report (c : Config) (rule : Rule) : List Violation :=
  if rule.Broken c then [rule.violation c] else []

/-- No rule is left out. -/
theorem mem_all (rule : Rule) : rule ∈ all := by
  cases rule <;> decide

/-- No two rules have the same path. -/
theorem nodup_map_field : (all.map field).Nodup := by decide

/-- No two rules read the same setting. -/
theorem field_injective : Function.Injective field :=
  fun first second => List.inj_on_of_nodup_map nodup_map_field (mem_all first) (mem_all second)

/-- A violation names the setting of its rule. -/
@[simp] theorem field_violation (c : Config) (rule : Rule) :
    (rule.violation c).field = rule.field := by
  cases rule <;> rfl

variable {c c' : Config} {rule : Rule}

/-- In a section that is switched on a rule reports what its requirement does. -/
theorem report_of_active (active : rule.isActive c = true) :
    rule.report c = (rule.requirement c).report rule.field := by
  -- The switch is on, so that only the requirement decides.
  by_cases met : (rule.requirement c).Met
  · rw [report, Requirement.report, if_pos met, if_neg fun broken => broken.2 met]
  · rw [report, Requirement.report, if_neg met, if_pos ⟨active, met⟩, violation]

/-- In a section that is switched off a rule has nothing to report. -/
theorem report_of_inactive (off : rule.isActive c = false) : rule.report c = [] :=
  if_neg fun broken => Bool.false_ne_true (off.symm.trans broken.1)

end Rule

section Checks

variable {p : Prop} [Decidable p] {holds : Bool} {v : Violation}

/-- A check reports exactly if what it asks does not hold. -/
theorem demand_eq_ite (exactly : demand holds v = [] ↔ p) :
    demand holds v = if p then [] else [v] := by
  -- The check is a Boolean and the requirement a proposition; both come to nothing together.
  split
  · rename_i met
    exact exactly.mpr met
  · rename_i unmet
    cases holds with
    | true => exact absurd (exactly.mp rfl) unmet
    | false => rfl

/-- The check of the level reports as its requirement does. -/
theorem checkLevel_eq_report (value : String) :
    checkLevel value = (Requirement.level value).report "log.level" :=
  demand_eq_ite checkLevel_eq_nil

/-- So does the check of a number that may not be zero, -/
theorem checkPositive_eq_report (field : String) (value : UInt64) :
    checkPositive field value = (Requirement.positive value).report field :=
  demand_eq_ite checkPositive_eq_nil

/-- that of a URL, -/
theorem checkUrl_eq_report (field value : String) :
    checkUrl field value = (Requirement.url value).report field :=
  demand_eq_ite checkUrl_eq_nil

/-- that of an address, -/
theorem checkAddress_eq_report (field value : String) :
    checkAddress field value = (Requirement.address value).report field :=
  demand_eq_ite checkAddress_eq_nil

/-- and that of a socket address. -/
theorem checkSocket_eq_report (field value : String) :
    checkSocket field value = (Requirement.socket value).report field :=
  demand_eq_ite checkSocket_eq_nil

/-- An address that is left out is not reported, and any other like one that may not be left out. -/
theorem checkOptionalAddress_eq_report (field value : String) :
    checkOptionalAddress field value = (Requirement.optionalAddress value).report field := by
  by_cases met : (Requirement.optionalAddress value).Met
  · rw [Requirement.report, if_pos met]
    exact checkOptionalAddress_eq_nil.mpr met
  · -- It is given then, and checked like one that has to be.
    have given : value.isEmpty = false :=
      Bool.eq_false_iff.mpr fun empty => met fun given => by simp [given] at empty
    have bad : ¬ (Requirement.address value).Met := fun good => met fun _ => good
    rw [checkOptionalAddress, given, if_neg Bool.false_ne_true, checkAddress_eq_report,
      Requirement.report, if_neg bad, Requirement.report, if_neg met]
    rfl

end Checks

open Rule

variable {c c' : Config} {rule : Rule}

/-- The checks for names are the two rules of the section, in this order. -/
theorem checkEns_eq_report : checkEns c.ens = namesUrl.report c ++ namesRegistry.report c := by
  unfold checkEns
  -- Names are looked up if a registry is given; otherwise neither of the rules is active.
  cases given : c.ens.contractAddress.isEmpty with
  | true => simp [report_of_inactive, isActive, given]
  | false =>
    simp [report_of_active, isActive, given, checkUrl_eq_report, checkAddress_eq_report,
      requirement, field]

/-- The check for the health endpoint is its rule. -/
theorem checkHealth_eq_report : checkHealth c.health = Rule.health.report c := by
  unfold checkHealth
  cases on : c.health.enabled with
  | true => simp [report_of_active, isActive, on, checkSocket_eq_report, requirement, field]
  | false => simp [report_of_inactive, isActive, on]

/-- The checks for the chain are its three rules, in this order. -/
theorem checkChain_eq_report :
    checkChain c.chain = chainUrl.report c ++ chainTimeout.report c ++ chainInterval.report c := by
  -- The one switch of the section turns all three on or off.
  unfold checkChain
  cases on : c.chain.enabled with
  | true =>
    simp [report_of_active, isActive, on, checkUrl_eq_report, checkPositive_eq_report,
      requirement, field]
  | false => simp [report_of_inactive, isActive, on]

/-- The check for metrics is its rule. -/
theorem checkObservability_eq_report : checkObservability c.observability = metrics.report c := by
  unfold checkObservability
  cases on : c.observability.metricsEnabled with
  | true => simp [report_of_active, isActive, on, checkSocket_eq_report, requirement, field]
  | false => simp [report_of_inactive, isActive, on]

/-- Each rule reports for itself, in the order of the rules. -/
theorem violations_eq_flatMap (c : Config) : c.violations = all.flatMap (report c) := by
  have always (rule : Rule) (active : rule.isActive c = true) :
    rule.report c = (rule.requirement c).report rule.field :=
    report_of_active active
  simp only [violations, checkEns_eq_report, checkHealth_eq_report, checkChain_eq_report,
    checkObservability_eq_report, checkLevel_eq_report, checkPositive_eq_report,
    checkOptionalAddress_eq_report, all, List.flatMap_cons, List.flatMap_nil, List.append_nil,
    List.append_assoc]
  -- What is left are the rules of sections that have no switch.
  simp only [always .level rfl, always .startupTimeout rfl, always .stopTimeout rfl,
    always .registry rfl, always .scannerVersion rfl, always .agentRegistry rfl, requirement,
    field]

/-- The violations are those of the rules that are broken. -/
theorem violations_eq_map (c : Config) :
    c.violations = (all.filter (·.Broken c)).map (·.violation c) := by
  -- A rule that is broken reports one violation, and one that is not reports none.
  rw [violations_eq_flatMap]
  induction all with
  | nil => rfl
  | cons rule rest ih =>
    rw [List.flatMap_cons, ih, report]
    split <;> simp [*]

/-- What a rule reports names its own setting. -/
theorem filter_report (keep : String → Bool) :
    (rule.report c).filter (fun v => keep v.field) =
      if keep rule.field = true then rule.report c else [] := by
  unfold report
  -- At most one violation is reported, and its field is that of the rule.
  split
  · by_cases kept : keep rule.field = true <;> simp [kept]
  · simp

/-- The violations that name a setting are what its rule reports. -/
theorem filter_violations_field : c.violations.filter (·.field = rule.field) = rule.report c := by
  -- The setting that a violation names tells which rule has reported it.
  rw [violations_eq_flatMap, List.filter_flatMap]
  simp only [filter_report (fun name => decide (name = rule.field)), decide_eq_true_eq,
    field_injective.eq_iff]
  cases rule <;> simp [all]

/-- And the others are what the other rules report. -/
theorem filter_violations_field_ne : c.violations.filter (·.field ≠ rule.field) =
    all.flatMap fun other => if other ≠ rule then other.report c else [] := by
  -- Each rule's report is kept or dropped as a whole, as its field is not or is that of the rule.
  rw [violations_eq_flatMap, List.filter_flatMap]
  simp only [filter_report (fun name => decide (name ≠ rule.field)), decide_eq_true_eq, ne_eq,
    field_injective.eq_iff]

/-- No setting is named twice. -/
theorem nodup_map_field_violations (c : Config) : (c.violations.map Violation.field).Nodup := by
  rw [violations_eq_map, List.map_map,
    show Violation.field ∘ (·.violation c) = Rule.field from funext (field_violation c)]
  exact nodup_map_field.sublist (List.filter_sublist.map _)

/-- What a rule reports depends on its setting and on the switch of its section only. -/
theorem report_congr (active : rule.isActive c' = rule.isActive c)
    (same : rule.isActive c = true → rule.requirement c' = rule.requirement c) :
    rule.report c' = rule.report c := by
  cases on : rule.isActive c with
  | true => rw [report_of_active on, report_of_active (active.trans on), same on]
  | false => rw [report_of_inactive on, report_of_inactive (active.trans on)]

/-- A setting that is put right has its own violation gone, and those of the others stay as they
are. -/
theorem violations_of_met (active : ∀ other : Rule, other.isActive c' = other.isActive c)
    (same : ∀ other ≠ rule, other.requirement c' = other.requirement c)
    (met : (rule.requirement c').Met) :
    c'.violations = c.violations.filter (·.field ≠ rule.field) := by
  -- The other rules report what they did, and this one has nothing to report any more.
  rw [filter_violations_field_ne, violations_eq_flatMap]
  refine congrArg (fun f => all.flatMap f) (funext fun other => ?_)
  split
  · rename_i apart
    exact report_congr (active other) fun _ => same other apart
  · rename_i itself
    obtain rfl := Classical.not_not.mp itself
    exact if_neg fun broken => broken.2 met

/-- What no rule reads of sections that are switched on does not matter. -/
theorem violations_congr (active : ∀ rule : Rule, rule.isActive c' = rule.isActive c)
    (same : ∀ rule : Rule, rule.isActive c = true → rule.requirement c' = rule.requirement c) :
    c'.violations = c.violations := by
  rw [violations_eq_flatMap, violations_eq_flatMap]
  exact congrArg (fun f => all.flatMap f) (funext fun rule =>
    report_congr (active rule) (same rule))

/-- And neither it does for whether the configuration is accepted. -/
theorem validate_congr (active : ∀ rule : Rule, rule.isActive c' = rule.isActive c)
    (same : ∀ rule : Rule, rule.isActive c = true → rule.requirement c' = rule.requirement c) :
    c'.validate = c.validate := by
  simp only [validate, violations_congr active same]

/-- What the rules look at: all else is as it is if it is not configured, the sections that are
switched off and the time for names, what a second signal does, the further servers of the chain and
its number. -/
def heeded (c : Config) : Config where
  log := c.log
  ens :=
    if c.ens.contractAddress.isEmpty then { contractAddress := "" }
    else { jsonRpcUrl := c.ens.jsonRpcUrl, contractAddress := c.ens.contractAddress }
  registry := c.registry
  scannerVersionAddress := c.scannerVersionAddress
  agentRegistryAddress := c.agentRegistryAddress
  supervisor :=
    { startupTimeoutSecs := c.supervisor.startupTimeoutSecs
      stopTimeoutSecs := c.supervisor.stopTimeoutSecs }
  health := if c.health.enabled then c.health else { enabled := false }
  chain :=
    if c.chain.enabled then
      { enabled := true
        rpcUrl := c.chain.rpcUrl
        rpcTimeoutSecs := c.chain.rpcTimeoutSecs
        pollIntervalMs := c.chain.pollIntervalMs }
    else { enabled := false }
  observability :=
    if c.observability.metricsEnabled then c.observability else { metricsEnabled := false }

/-- The rules say the same of what they look at as of the whole. -/
theorem validate_heeded (c : Config) : c.heeded.validate = c.validate := by
  -- No switch is lost, and a section that is switched on is there with all that its rules read.
  have active (rule : Rule) : rule.isActive c.heeded = rule.isActive c := by
    cases rule with
    | namesUrl | namesRegistry =>
      cases given : c.ens.contractAddress.isEmpty <;> simp [isActive, heeded, given]
    | health => cases on : c.health.enabled <;> simp [isActive, heeded, on]
    | chainUrl | chainTimeout | chainInterval =>
      cases on : c.chain.enabled <;> simp [isActive, heeded, on]
    | metrics => cases on : c.observability.metricsEnabled <;> simp [isActive, heeded, on]
    | _ => rfl
  refine validate_congr active fun rule on => ?_
  cases rule with
  | namesUrl | namesRegistry =>
    have given : c.ens.contractAddress.isEmpty = false := by simpa [isActive] using on
    simp [requirement, heeded, given]
  | health | chainUrl | chainTimeout | chainInterval | metrics =>
    simp only [isActive] at on
    simp [requirement, heeded, on]
  | _ => rfl

/-- Nothing is violated exactly if no rule is broken. -/
theorem violations_eq_nil_iff : c.violations = [] ↔ ∀ rule : Rule, ¬ rule.Broken c := by
  rw [violations_eq_map, List.map_eq_nil_iff, List.filter_eq_nil_iff]
  simp [mem_all]

/-- A configuration is refused with all of its violations, if it has any. -/
theorem validate_eq_error_iff {broken : List Violation} :
    c.validate = .error broken ↔ broken = c.violations ∧ broken ≠ [] := by
  unfold validate
  -- All that was found is refused at once, if anything was found.
  cases c.violations with
  | nil =>
    constructor
    · rintro ⟨⟩
    · rintro ⟨rfl, some⟩
      exact absurd rfl some
  | cons v rest =>
    constructor
    · rintro ⟨⟩
      exact ⟨rfl, List.cons_ne_nil v rest⟩
    · rintro ⟨rfl, _⟩
      rfl

/-- What the rules make of a configuration. -/
structure RuleLaw (c : Config) : Prop where
  /-- The violations are those of the broken rules, all of them in the order of the rules, -/
  exactly : c.violations = (all.filter (·.Broken c)).map (·.violation c)
  /-- with each rule among them, -/
  all_rules : ∀ rule : Rule, rule ∈ all
  /-- and no two of them name the same setting. -/
  once : (c.violations.map Violation.field).Nodup
  accepted : c.validate = .ok () ↔ ∀ rule : Rule, ¬ rule.Broken c
  refused : ∀ broken, c.validate = .error broken ↔ broken = c.violations ∧ broken ≠ []
  /-- Whether and how a setting is reported depends on this setting and on the switch of its section
  only. -/
  own : ∀ (c' : Config) (rule : Rule), rule.isActive c' = rule.isActive c →
    rule.requirement c' = rule.requirement c →
    c'.violations.filter (·.field = rule.field) = c.violations.filter (·.field = rule.field)
  /-- If one setting is put right and no switch is flipped, its own violation is gone and all others
  stay. -/
  repaired : ∀ (c' : Config) (rule : Rule), (∀ other : Rule, other.isActive c' = other.isActive c) →
    (∀ other ≠ rule, other.requirement c' = other.requirement c) → (rule.requirement c').Met →
    c'.violations = c.violations.filter (·.field ≠ rule.field)
  /-- Configurations with the same switches get the same result if the rules of the sections that
  are switched on read the same in both, -/
  alike : ∀ c' : Config, (∀ rule : Rule, rule.isActive c' = rule.isActive c) →
    (∀ rule : Rule, rule.isActive c = true → rule.requirement c' = rule.requirement c) →
      c'.validate = c.validate
  /-- so that what sections hold that are switched off, and what no rule reads, makes no
  difference. -/
  unread : ∀ c' : Config, c'.heeded = c.heeded → c'.validate = c.validate

/-- The violations of a configuration are those of the rules that it breaks, and no rule has to do
with another's setting. -/
theorem violations_follow_rules (c : Config) : RuleLaw c where
  exactly := violations_eq_map c
  all_rules := mem_all
  once := nodup_map_field_violations c
  accepted := validate_eq_ok.trans violations_eq_nil_iff
  refused _ := validate_eq_error_iff
  -- Of either report only what the rule itself gives is left, and that reads its own setting alone.
  own c' rule active same := by
    rw [filter_violations_field, filter_violations_field, report_congr active fun _ => same]
  repaired _ _ := violations_of_met
  alike _ := validate_congr
  unread c' same := by
    rw [← validate_heeded c', same, validate_heeded]

end Warden.Config
