import Warden.Config.Basic
import Warden.Document.Value

/-! Reading a configuration from a document: what a table leaves out keeps its default. -/

namespace Warden

namespace Document

/-- What is wrong with a value. -/
inductive Problem
  | wrongType (found : Value) (expected : String)
  | wrongValue (found : Int) (expected : String)
  | surplus (length : Nat)
deriving Repr, Inhabited

/-- A value that does not fit, and the way to it. -/
structure Mismatch where
  path : List PathStep
  problem : Problem
deriving Repr, Inhabited

/-- What a report says of a problem. -/
def Problem.message : Problem → String
  | .wrongType found expected => "invalid type: " ++ found.describe ++ ", expected " ++ expected
  | .wrongValue found expected =>
    "invalid value: integer `" ++ toString found ++ "`, expected " ++ expected
  | .surplus length =>
    "invalid length " ++ toString length ++ ", expected fewer elements in array"

/-- What a report says of a mismatch; the way to it is shown apart. -/
def Mismatch.message (m : Mismatch) : String := m.problem.message

/-- A reading of a document's value. -/
abbrev Decoder (α : Type) := Value → Except Mismatch α

/-- The mismatch seen from one step further out. -/
def Mismatch.under (step : PathStep) (m : Mismatch) : Mismatch :=
  ⟨step :: m.path, m.problem⟩

/-- A reading at the end of one step. -/
def at_ {α : Type} (step : PathStep) (result : Except Mismatch α) : Except Mismatch α :=
  match result with
  | .ok a => .ok a
  | .error m => .error (m.under step)

/-- The mismatch of a value with what was expected in its place. -/
def mismatch {α : Type} (found : Value) (expected : String) : Except Mismatch α :=
  .error ⟨[], .wrongType found expected⟩

/-- A text. -/
def string : Decoder String
  | .string s => .ok s
  | value => mismatch value "a string"

/-- A truth value. -/
def boolean : Decoder Bool
  | .boolean b => .ok b
  | value => mismatch value "a boolean"

/-- A whole number of sixty-four bits without sign. -/
def word : Decoder UInt64
  | .integer n =>
    -- A number that does not fit is told by its value if it is negative, and by its type if it is
    -- too large.
    if n < 0 then .error ⟨[], .wrongValue n "u64"⟩
    else if h : n.toNat < UInt64.size then .ok (UInt64.ofNatLT n.toNat h)
    else .error ⟨[], .wrongType (.integer n) "u64"⟩
  | value => mismatch value "u64"

/-- The strings of a list; `position` is the place of the first one. -/
def stringsFrom (position : Nat) : List Value → Except Mismatch (List String)
  | [] => .ok []
  | value :: rest =>
    match at_ (.index position) (string value) with
    | .error m => .error m
    | .ok s =>
      match stringsFrom (position + 1) rest with
      | .error m => .error m
      | .ok rest => .ok (s :: rest)

/-- A list of texts. -/
def strings : Decoder (List String)
  | .list items => stringsFrom 0 items
  | value => mismatch value "a sequence"

/-- A part of a record: its key, and how a value changes the record there. -/
structure Setting (σ : Type) where
  name : String
  put : Value → σ → Except Mismatch σ

/-- The part of a record that a setter reaches. -/
def field {σ α : Type} (name : String) (decode : Decoder α) (set : α → σ → σ) : Setting σ :=
  ⟨name, fun value record =>
    match decode value with
    | .ok a => .ok (set a record)
    | .error m => .error m⟩

/-- The entries of a table change the record one after another; unknown keys change nothing. -/
def putEntries {σ : Type} (fields : List (Setting σ)) :
    List (String × Value) → σ → Except Mismatch σ
  | [], record => .ok record
  | (key, value) :: rest, record =>
    match fields.find? (·.name == key) with
    | none => putEntries fields rest record
    | some field =>
      match at_ (.key key) (field.put value record) with
      | .error m => .error m
      | .ok record => putEntries fields rest record

/-- The items of a list change the parts of the record in their order. -/
def putItems {σ : Type} (position : Nat) :
    List (Setting σ) → List Value → σ → Except Mismatch σ
  | field :: fields, value :: rest, record =>
    match at_ (.index position) (field.put value record) with
    | .error m => .error m
    | .ok record => putItems (position + 1) fields rest record
  -- Parts beyond the end of the list keep their default.
  | _, _, record => .ok record

/-- Whether a list may hold more items than the record has parts. -/
inductive ListForm
  | lenient
  | exact
deriving Repr, DecidableEq

/-- Reads a record given as a table or as the list of its parts. -/
def record {σ : Type} (form : ListForm) (name : String) (default : σ) (fields : List (Setting σ)) :
    Decoder σ
  | .table entries => putEntries fields entries default
  | .list items =>
    match putItems 0 fields items default with
    | .error m => .error m
    | .ok record =>
      -- Only a list can hold more than there are parts: in a table what is unknown is passed over.
      if form = .exact ∧ fields.length < items.length then .error ⟨[], .surplus items.length⟩
      else .ok record
  | value => mismatch value ("struct " ++ name)

end Document

namespace Config

open Document

/-- The parts of the section of the log. -/
def Log.fields : List (Setting Log) :=
  [field "level" string fun v c => { c with level := v }]

/-- The parts of the section of the names. -/
def Ens.fields : List (Setting Ens) :=
  [field "json_rpc_url" string fun v c => { c with jsonRpcUrl := v },
   field "contract_address" string fun v c => { c with contractAddress := v },
   field "timeout_secs" word fun v c => { c with timeoutSecs := v }]

/-- The parts of the section of the registry. -/
def Registry.fields : List (Setting Registry) :=
  [field "contract_address" string fun v c => { c with contractAddress := v }]

/-- The parts of the section of the supervisor. -/
def Supervision.fields : List (Setting Supervision) :=
  [field "startup_timeout_secs" word fun v c => { c with startupTimeoutSecs := v },
   field "stop_timeout_secs" word fun v c => { c with stopTimeoutSecs := v },
   field "force_exit_on_second_signal" boolean fun v c =>
     { c with forceExitOnSecondSignal := v }]

/-- The parts of the section of the health endpoint. -/
def Health.fields : List (Setting Health) :=
  [field "enabled" boolean fun v c => { c with enabled := v },
   field "bind_address" string fun v c => { c with bindAddress := v }]

/-- The parts of the section of the chain. -/
def Chain.fields : List (Setting Chain) :=
  [field "enabled" boolean fun v c => { c with enabled := v },
   field "rpc_url" string fun v c => { c with rpcUrl := v },
   field "failover_urls" strings fun v c => { c with failoverUrls := v },
   field "chain_id" word fun v c => { c with chainId := v },
   field "rpc_timeout_secs" word fun v c => { c with rpcTimeoutSecs := v },
   field "poll_interval_ms" word fun v c => { c with pollIntervalMs := v }]

/-- The parts of the section of the metrics. -/
def Observability.fields : List (Setting Observability) :=
  [field "metrics_enabled" boolean fun v c => { c with metricsEnabled := v },
   field "metrics_address" string fun v c => { c with metricsAddress := v }]

/-- The section of the log from its value. -/
def Log.decode (form : ListForm) : Decoder Log := record form "LogConfig" {} Log.fields

/-- That of the names. -/
def Ens.decode (form : ListForm) : Decoder Ens := record form "EnsConfig" {} Ens.fields

/-- That of the registry. -/
def Registry.decode (form : ListForm) : Decoder Registry :=
  record form "RegistryConfig" {} Registry.fields

/-- That of the supervisor. -/
def Supervision.decode (form : ListForm) : Decoder Supervision :=
  record form "SupervisorConfig" {} Supervision.fields

/-- That of the health endpoint. -/
def Health.decode (form : ListForm) : Decoder Health := record form "HealthConfig" {} Health.fields

/-- That of the chain. -/
def Chain.decode (form : ListForm) : Decoder Chain := record form "ChainConfig" {} Chain.fields

/-- That of the metrics. -/
def Observability.decode (form : ListForm) : Decoder Observability :=
  record form "ObservabilityConfig" {} Observability.fields

/-- The parts of a configuration; the sections in it take the same form of lists. -/
def fields (form : ListForm) : List (Setting Config) :=
  [field "log" (Log.decode form) fun v c => { c with log := v },
   field "ens" (Ens.decode form) fun v c => { c with ens := v },
   field "registry" (Registry.decode form) fun v c => { c with registry := v },
   field "scanner_version_contract_address" string fun v c =>
     { c with scannerVersionAddress := v },
   field "agent_registry_contract_address" string fun v c =>
     { c with agentRegistryAddress := v },
   field "supervisor" (Supervision.decode form) fun v c => { c with supervisor := v },
   field "health" (Health.decode form) fun v c => { c with health := v },
   field "chain" (Chain.decode form) fun v c => { c with chain := v },
   field "observability" (Observability.decode form) fun v c => { c with observability := v }]

/-- Reads a configuration; the first value that does not fit in document order is reported. -/
def decode (form : ListForm) : Decoder Config := record form "NodeConfig" {} (fields form)

end Config

end Warden
