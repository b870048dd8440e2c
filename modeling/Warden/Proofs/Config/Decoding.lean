import Warden.Config.Encode
import Warden.Config.Source
import Warden.Proofs.Document.Parts

/-!
Configurations are had back from the tables that are written for them, and from whatever those are
revised to.
-/

namespace Warden

namespace Document

/-- Every whole number that is written reads back. -/
theorem word_ofWord (n : UInt64) : word (ofWord n) = .ok n := by
  have small : n.toNat < UInt64.size := n.toNat_lt
  simp [word, ofWord, small]

/-- And so does every list of strings. -/
theorem stringsFrom_map (position : Nat) (ss : List String) :
    stringsFrom position (ss.map .string) = .ok ss := by
  induction ss generalizing position with
  | nil => rfl
  | cons s ss ih => simp [stringsFrom, string, at_, ih]

namespace Part

variable {σ τ : Type} (name : String)

/-- A part that is a text. -/
abbrev ofString (get : σ → String) (set : String → σ → σ) :
    Part σ := ⟨name, .string, string, get, set⟩

/-- A part that is true or false. -/
abbrev ofBoolean (get : σ → Bool) (set : Bool → σ → σ) :
    Part σ := ⟨name, .boolean, boolean, get, set⟩

/-- A part that is a number. -/
abbrev ofWord (get : σ → UInt64) (set : UInt64 → σ → σ) :
    Part σ := ⟨name, Document.ofWord, word, get, set⟩

/-- A part that is a list of texts. -/
abbrev ofStrings (get : σ → List String) (set : List String → σ → σ) : Part σ :=
  ⟨name, fun ss => .list (ss.map .string), strings, get, set⟩

/-- A part that is a record itself. -/
abbrev ofLayout (layout : Layout τ) (form : ListForm) (get : σ → τ) (set : τ → σ → σ) : Part σ :=
  ⟨name, layout.encode, layout.decode form, get, set⟩

variable {default : σ} {name}

-- What is no table is not revised at all, so it only has to be read as it was written.

@[simp] theorem reads_ofString {get : σ → String} {set : String → σ → σ} :
    (ofString name get set).Reads default := by
  rintro _ _ ⟨⟩
  rfl

@[simp] theorem reads_ofBoolean {get : σ → Bool} {set : Bool → σ → σ} :
    (ofBoolean name get set).Reads default := by
  rintro _ _ ⟨⟩
  rfl

@[simp] theorem reads_ofWord {get : σ → UInt64} {set : UInt64 → σ → σ} :
    (ofWord name get set).Reads default := by
  rintro n _ ⟨⟩
  exact word_ofWord n

@[simp] theorem reads_ofStrings {get : σ → List String} {set : List String → σ → σ} :
    (ofStrings name get set).Reads default := by
  rintro ss _ ⟨⟩
  exact stringsFrom_map 0 ss

@[simp] theorem reads_ofLayout {layout : Layout τ} {form : ListForm} {get : σ → τ} {set : τ → σ → σ}
    (same : get default = layout.default) : (ofLayout name layout form get set).Reads default := by
  intro record value revised
  exact Layout.decode_revised (same ▸ revised)

end Part

end Document

namespace Config

open Document

/-- The section on logging. -/
def Log.layout : Layout Log where
  name := "LogConfig"
  default := {}
  parts := [.ofString "level" Log.level fun v c => { c with level := v }]

/-- The section on names. -/
def Ens.layout : Layout Ens where
  name := "EnsConfig"
  default := {}
  parts := [
    .ofString "json_rpc_url" Ens.jsonRpcUrl fun v c => { c with jsonRpcUrl := v },
    .ofString "contract_address" Ens.contractAddress fun v c => { c with contractAddress := v },
    .ofWord "timeout_secs" Ens.timeoutSecs fun v c => { c with timeoutSecs := v }]

/-- The section on the registry. -/
def Registry.layout : Layout Registry where
  name := "RegistryConfig"
  default := {}
  parts :=
    [.ofString "contract_address" Registry.contractAddress fun v c =>
      { c with contractAddress := v }]

/-- The section on supervision. -/
def Supervision.layout : Layout Supervision where
  name := "SupervisorConfig"
  default := {}
  parts := [
    .ofWord "startup_timeout_secs" Supervision.startupTimeoutSecs fun v c =>
      { c with startupTimeoutSecs := v },
    .ofWord "stop_timeout_secs" Supervision.stopTimeoutSecs fun v c =>
      { c with stopTimeoutSecs := v },
    .ofBoolean "force_exit_on_second_signal" Supervision.forceExitOnSecondSignal fun v c =>
      { c with forceExitOnSecondSignal := v }]

/-- The section on health. -/
def Health.layout : Layout Health where
  name := "HealthConfig"
  default := {}
  parts := [
    .ofBoolean "enabled" Health.enabled fun v c => { c with enabled := v },
    .ofString "bind_address" Health.bindAddress fun v c => { c with bindAddress := v }]

/-- The section on the chain. -/
def Chain.layout : Layout Chain where
  name := "ChainConfig"
  default := {}
  parts := [
    .ofBoolean "enabled" Chain.enabled fun v c => { c with enabled := v },
    .ofString "rpc_url" Chain.rpcUrl fun v c => { c with rpcUrl := v },
    .ofStrings "failover_urls" Chain.failoverUrls fun v c => { c with failoverUrls := v },
    .ofWord "chain_id" Chain.chainId fun v c => { c with chainId := v },
    .ofWord "rpc_timeout_secs" Chain.rpcTimeoutSecs fun v c => { c with rpcTimeoutSecs := v },
    .ofWord "poll_interval_ms" Chain.pollIntervalMs fun v c => { c with pollIntervalMs := v }]

/-- The section on observation. -/
def Observability.layout : Layout Observability where
  name := "ObservabilityConfig"
  default := {}
  parts := [
    .ofBoolean "metrics_enabled" Observability.metricsEnabled fun v c =>
      { c with metricsEnabled := v },
    .ofString "metrics_address" Observability.metricsAddress fun v c =>
      { c with metricsAddress := v }]

/-- A configuration, whose sections are records themselves with the same defaults. -/
def layout (form : ListForm) : Layout Config where
  name := "NodeConfig"
  default := {}
  parts := [
    .ofLayout "log" Log.layout form Config.log fun v c => { c with log := v },
    .ofLayout "ens" Ens.layout form Config.ens fun v c => { c with ens := v },
    .ofLayout "registry" Registry.layout form Config.registry fun v c => { c with registry := v },
    .ofString "scanner_version_contract_address" Config.scannerVersionAddress fun v c =>
      { c with scannerVersionAddress := v },
    .ofString "agent_registry_contract_address" Config.agentRegistryAddress fun v c =>
      { c with agentRegistryAddress := v },
    .ofLayout "supervisor" Supervision.layout form Config.supervisor fun v c =>
      { c with supervisor := v },
    .ofLayout "health" Health.layout form Config.health fun v c => { c with health := v },
    .ofLayout "chain" Chain.layout form Config.chain fun v c => { c with chain := v },
    .ofLayout "observability" Observability.layout form Config.observability fun v c =>
      { c with observability := v }]
  reads := by
    simp [Log.layout, Ens.layout, Registry.layout, Supervision.layout, Health.layout, Chain.layout,
      Observability.layout]

/-- How the reading of configurations goes with their writing. -/
structure ReadsBack : Prop where
  /-- A configuration is had back from what is written for it. -/
  encoded : ∀ form c, decode form (encode c) = .ok c
  /-- And from whatever that is revised to, without what is the default's, with unknown keys and in
  any order. -/
  revised : ∀ form c value, Revised (encode {}) (encode c) value → decode form value = .ok c
  /-- Also where a text comes to such tables. -/
  text : ∀ text node, Toml.read text = .ok node → ∀ c, Revised (encode {}) (encode c) node.value →
    ofText text = .ok c
  /-- Each part of a configuration, and of each of its sections, is taken from its own value, or
  else from the default. -/
  root : ∀ form, (layout form).ReadBy (decode form)
  log : ∀ form, Log.layout.ReadBy (Log.decode form)
  ens : ∀ form, Ens.layout.ReadBy (Ens.decode form)
  registry : ∀ form, Registry.layout.ReadBy (Registry.decode form)
  supervisor : ∀ form, Supervision.layout.ReadBy (Supervision.decode form)
  health : ∀ form, Health.layout.ReadBy (Health.decode form)
  chain : ∀ form, Chain.layout.ReadBy (Chain.decode form)
  observability : ∀ form, Observability.layout.ReadBy (Observability.decode form)

/-- Whatever is made of the tables that are written for a configuration is read as that
configuration. -/
theorem decode_revised (form : ListForm) (c : Config) {value : Value}
    (revised : Revised (encode {}) (encode c) value) :
    decode form value = .ok c := by
  -- A configuration is written and read as its layout says.
  have revised : Revised ((layout form).encode {}) ((layout form).encode c) value := revised
  have read : (layout form).decode form value = .ok c := Layout.decode_revised revised
  exact read

example :
    decode .lenient
      (.table [("health", .table [("port", .null), ("enabled", .boolean false)]),
      ("name", .null)]) =
    .ok { health := { enabled := false } } := rfl

/-- Configurations are read part by part from whatever is written for them. -/
theorem tables_read_back : ReadsBack where
  encoded form c := decode_revised form c .same
  revised form c _ := decode_revised form c
  -- How a text was laid out plays no part once it has been read.
  text text node parsed c revised := by
    rw [ofText, parsed]
    simp only [decode_revised .lenient c revised]
  root form := (layout form).decode_readBy form
  log := Log.layout.decode_readBy
  ens := Ens.layout.decode_readBy
  registry := Registry.layout.decode_readBy
  supervisor := Supervision.layout.decode_readBy
  health := Health.layout.decode_readBy
  chain := Chain.layout.decode_readBy
  observability := Observability.layout.decode_readBy

end Config

end Warden
