import Warden.Container.Run
import Warden.Proofs.Ethereum.Resolving
import Warden.Proofs.Supervision.History

/-!
What the steps of a container's run do before its services are built: they write, and at last they
open a run.
-/

namespace Warden

namespace Supervision

/-- Whether an event belongs to the start of a service. -/
def Event.isStart : Event → Bool
  | .launched _ | .deed (.start _) => true
  | _ => false

/-- A later state in which no run is forgotten and no service has been started since. -/
structure World.Calm (w w' : World) : Prop where
  runs : w.runs.length ≤ w'.runs.length
  trace : ∃ later : Trace, w'.trace = w.trace ++ later ∧
    ∀ stamped ∈ later, stamped.event.isStart = false

/-- A later state in which something has been written, but no start, and nothing else has
changed. -/
def World.Writes (w w' : World) : Prop :=
  ∃ later : Trace, w' = { w with trace := w.trace ++ later } ∧
    ∀ stamped ∈ later, stamped.event.isStart = false

namespace World

variable {w w₁ w₂ : World}

/-- Nothing has happened yet. -/
theorem Calm.refl (w : World) : Calm w w := ⟨Nat.le_refl _, [], by simp, by simp⟩

/-- What has not started a service before does not when it goes on. -/
theorem Calm.trans (first : Calm w w₁) (second : Calm w₁ w₂) : Calm w w₂ := by
  obtain ⟨runs, before, written, quiet⟩ := first
  obtain ⟨runs', later, written', quiet'⟩ := second
  exact ⟨Nat.le_trans runs runs', before ++ later, by rw [written', written, List.append_assoc],
    List.forall_mem_append.mpr ⟨quiet, quiet'⟩⟩

/-- Nothing has been written yet. -/
theorem Writes.refl (w : World) : Writes w w := ⟨[], by simp, by simp⟩

/-- Entries are written one after another. -/
theorem Writes.trans (first : Writes w w₁) (second : Writes w₁ w₂) : Writes w w₂ := by
  obtain ⟨before, rfl, quiet⟩ := first
  obtain ⟨later, rfl, quiet'⟩ := second
  exact ⟨before ++ later, by simp [List.append_assoc], List.forall_mem_append.mpr ⟨quiet, quiet'⟩⟩

/-- Writing is calm. -/
theorem Writes.calm (writes : Writes w w₁) : Calm w w₁ := by
  obtain ⟨later, rfl, quiet⟩ := writes
  exact ⟨Nat.le_refl _, later, rfl, quiet⟩

/-- Writing leaves the runs as they are. -/
theorem Writes.runs (writes : Writes w w₁) : w₁.runs = w.runs := by
  obtain ⟨later, rfl, _⟩ := writes
  rfl

/-- Writing leaves the forwarder as it is. -/
theorem Writes.forwarder (writes : Writes w w₁) : w₁.forwarder = w.forwarder := by
  obtain ⟨later, rfl, _⟩ := writes
  rfl

/-- Events that are no starts are only written. -/
theorem emitAll_writes {events : List Event} (quiet : ∀ event ∈ events, event.isStart = false) :
    Writes w (w.emitAll events) := by
  refine ⟨_, rfl, fun stamped member => ?_⟩
  obtain ⟨event, among, rfl⟩ := List.mem_map.mp member
  exact quiet event among

/-- So is a single one. -/
theorem emit_writes {event : Event} (quiet : event.isStart = false) : Writes w (w.emit event) :=
  ⟨_, rfl, by simp [quiet]⟩

/-- What keeps runs and trace is calm. -/
theorem Keeps.calm (keeps : Keeps w w₁) : Calm w w₁ :=
  ⟨Nat.le_of_eq (congrArg List.length keeps.runs).symm, [], by simp [keeps.trace], by simp⟩

/-- A run is opened beside the others. -/
theorem openRun_calm (w : World) :
    Calm w w.openRun.2 := ⟨by simp [openRun], [], by simp [openRun], by simp⟩

/-- So is a group. -/
theorem openGroup_calm (run : RunId) (w : World) : Calm w (w.openGroup run).2 :=
  ⟨Nat.le_refl _, [], by simp [openGroup], by simp⟩

/-- The owner's cancellation is a call, and its other effects are those of waking. -/
theorem cancel_calm (run : RunId) (cause : Cause) (w : World) :
    Calm w (w.cancel .owner run cause).2 := by
  -- A call for the end of a run writes of the call and of nothing else.
  have acts : Acts (fun event => event.isStart = false) .main w (w.cancel .owner run cause).2 :=
    cancel_acts rfl rfl rfl
  obtain ⟨events, written, quiet⟩ := acts.trace
  refine ⟨Nat.le_of_eq acts.runs.symm, _, written, fun stamped member => ?_⟩
  obtain ⟨event, among, rfl⟩ := List.mem_map.mp member
  exact quiet event among

end World

namespace Flow

open World

variable {w : World} {goes : Unit → World → Prop} {halts : Halt → World → Prop}

@[simp] theorem yields_writeAll (entries : List Log.Entry) :
    (writeAll entries).Yields w goes halts ↔
    goes () (w.emitAll (entries.map fun entry => .notice .main (.other entry))) := Iff.rfl

/-- Entries that are written change nothing else. -/
theorem entries_write (entries : List Log.Entry) (w : World) :
    Writes w (w.emitAll (entries.map fun entry => .notice .main (.other entry))) :=
  emitAll_writes fun event member => by
    obtain ⟨entry, _, rfl⟩ := List.mem_map.mp member
    rfl

/-- Entries are written in any case. -/
theorem writeAll_writes (entries : List Log.Entry) :
    (writeAll entries).Yields w (fun _ => Writes w) halts :=
  entries_write entries w

/-- Questions are put as part of the flow: their answer depends on those before, and what is told of
them is written. -/
theorem asking_yields {α : Type} (questions : Ethereum.Asking α) :
    (asking questions).Yields w (fun a w' => a =
      (questions.run { attempts := w.trace.attempts }).1 ∧ Writes w w') halts := by
  -- The attempts, the values shown and the entries of the session are told one after another.
  simp only [asking, yields_bind, yields_look]
  rcases questions.run { attempts := w.trace.attempts } with ⟨a, session⟩
  simp only [yields_bind, yields_change, yields_pure]
  refine (writeAll_writes session.entries).mono
    (fun _ w' writes => ⟨trivial, .trans (emitAll_writes fun event member => ?_) writes⟩)
    fun _ _ halt => halt
  simp only [List.mem_append, List.mem_map] at member
  rcases member with ⟨attempt, _, rfl⟩ | ⟨reading, _, rfl⟩ <;> rfl

/-- A run that is prepared is a new one that nobody has cancelled. -/
theorem prepare_opens (supervisor : Supervisor) : (prepare supervisor).Yields w
    (fun prepared w' => prepared.2 = w.runs.length ∧ w'.runs = w.runs ++ [⟨{}, []⟩] ∧
      Calm w w') halts := by
  -- The run is opened first, so that its number is that of the runs before.
  simp only [prepare, arm, yields_bind, yields_answer, yields_change, yields_notice, yields_pure]
  refine (forwardSignals_keeps _).mono (fun _ w₁ keeps => ⟨rfl, ?_⟩) fun _ _ halt => halt
  -- After the run has been opened, everything else leaves the runs alone.
  have armed : Keeps w₁ (w₁.spawn
      ⟨.listener supervisor.settings.escalation, ⟨"", w.openRun.1, none⟩, [], .fresh, none,
        false⟩).2 :=
    spawn_keeps rfl (by simp)
  have keeps :=
    keeps.trans
      ((armed.trans (relieve_keeps supervisor.listener _)).trans (drop_keeps supervisor.group _))
  exact ⟨keeps.runs,
    (((openRun_calm w).trans keeps.calm).trans (openGroup_calm _ _)).trans (emit_writes rfl).calm⟩

end Flow

end Supervision

open Supervision World Flow

namespace Config

/-- The configuration with which services are built: the addresses of the contracts are written into
it if they are found, and otherwise nothing is. -/
def settled (config : Config) : Option (Except Ethereum.ChainError Ethereum.Contracts) → Config
  | some (.ok contracts) => config.withContracts contracts
  | some (.error _) | none => config

/-- However the search for the contracts ends, no more than their three addresses is written. -/
theorem settled_keeps (config : Config)
    (found : Option (Except Ethereum.ChainError Ethereum.Contracts)) :
    { config.settled found with
      registry := config.registry
      scannerVersionAddress := config.scannerVersionAddress
      agentRegistryAddress := config.agentRegistryAddress } = config := by
  unfold settled
  split <;> rfl

/-- What is parsed is held to the rules. -/
theorem parse_validates {text : String} {config : Config} (parsed : parse text = .ok config) :
    config.validate = .ok () := by
  unfold parse at parsed
  split at parsed
  · cases parsed
  · split at parsed
    · cases parsed
    · cases parsed
      assumption

@[simp] theorem log_settled (config : Config)
    (found : Option (Except Ethereum.ChainError Ethereum.Contracts)) :
    (config.settled found).log = config.log := by
  unfold settled
  split <;> rfl

@[simp] theorem supervisor_settled (config : Config)
    (found : Option (Except Ethereum.ChainError Ethereum.Contracts)) :
    (config.settled found).supervisor = config.supervisor := by
  unfold settled
  split <;> rfl

end Config

namespace Container

/-- A configuration that is loaded holds to the rules, wherever it comes from. -/
theorem loadConfig_validates {c : Container} {files : String → Except Config.FileFault String}
    {config : Config} (loads : c.loadConfig files = .ok config) : config.validate = .ok () := by
  -- A file is parsed and then checked, and a value is checked as it is.
  unfold loadConfig at loads
  -- A file that parses has been validated by the parser.
  split at loads
  · unfold Config.load at loads
    split at loads
    · cases loads
    · exact Config.parse_validates loads
  -- A value is validated where the container is run.
  · split at loads
    · cases loads
      assumption
    · cases loads

/-- The four ways in which a container comes by its contracts, or by none. -/
inductive Found (c : Container) (network : Ethereum.Network) (ens : Config.Ens) (w : World) :
    Option (Except Ethereum.ChainError Ethereum.Contracts) → Prop
  | given {found : Except Ethereum.ChainError Ethereum.Contracts}
    (given : c.contracts = some found) :
    Found c network ens w (some found)
  | skipped (bare : c.contracts = none) (empty : ens.contractAddress.isEmpty = true) :
    Found c network ens w none
  | unbuilt {error : Ethereum.ChainError} (bare : c.contracts = none)
    (wanted : ens.contractAddress.isEmpty = false)
    (broken : Ethereum.Resolver.open? ens = .error error) :
    Found c network ens w (some (.error error))
  | searched {resolver : Ethereum.Resolver} (bare : c.contracts = none)
    (wanted : ens.contractAddress.isEmpty = false)
    (opened : Ethereum.Resolver.open? ens = .ok resolver) :
    Found c network ens w
      (some ((resolver.contracts network).run { attempts := w.trace.attempts }).1)

variable {c : Container} {network : Ethereum.Network} {w : World} {halts : Halt → World → Prop}

/-- The search for the contracts comes to its end in one of these ways. -/
theorem findContracts_yields (c : Container) (network : Ethereum.Network) (ens : Config.Ens) :
    (c.findContracts network ens).Yields w (fun found w' => c.Found network ens w found ∧
      Writes w w') halts := by
  -- Contracts that are given come first, then a registry that is left out, and last whether it can
  -- be asked.
  unfold findContracts
  split
  -- What was given is not looked for.
  · rename_i found given
    exact ⟨.given given, .refl w⟩
  · rename_i bare
    -- An empty address asks for no resolver.
    split
    · rename_i empty
      exact ⟨.skipped bare empty, .refl w⟩
    · rename_i wanted
      have wanted : ens.contractAddress.isEmpty = false := Bool.eq_false_iff.mpr wanted
      split
      · rename_i error broken
        exact ⟨.unbuilt bare wanted broken, .refl w⟩
      -- Asking the network writes its attempts, and nothing else.
      · rename_i resolver opened
        simp only [yields_bind, yields_pure]
        refine (Flow.asking_yields _).mono (fun found w' asked => ?_) fun _ _ halt => halt
        obtain ⟨rfl, writes⟩ := asked
        exact ⟨.searched bare wanted opened, writes⟩

/-- Whatever becomes of the contracts, there is a configuration afterwards. -/
theorem resolveContracts_yields (c : Container) (network : Ethereum.Network) (config : Config) :
    (c.resolveContracts network config).Yields w
      (fun handed w' =>
        (∃ found, c.Found network config.ens w found ∧ handed = config.settled found) ∧
        Writes w w') halts := by
  -- What was found decides what is written, and in no case is there nothing to go on with.
  simp only [resolveContracts, yields_bind]
  refine (c.findContracts_yields network config.ens).mono (fun found w₁ ends => ?_) fun _ _ halt =>
    halt
  obtain ⟨way, writes⟩ := ends
  cases found with
  | none =>
    simp only [yields_bind, yields_pure]
    exact (Flow.writeAll_writes _).mono (fun _ w' more => ⟨⟨none, way, rfl⟩, writes.trans more⟩)
      fun _ _ halt => halt
  | some found =>
    simp only [yields_bind]
    refine (Flow.asking_yields _).mono (fun result w₂ asked => ?_) fun _ _ halt => halt
    obtain ⟨rfl, more⟩ := asked
    cases found with
    -- A search that failed leaves the configuration as it was, and says so.
    | error error =>
      rw [Config.run_settleContracts_error]
      simp only [yields_bind, yields_pure]
      exact (Flow.writeAll_writes _).mono
        (fun _ w' last => ⟨⟨_, way, rfl⟩, (writes.trans more).trans last⟩)
        fun _ _ halt => halt
    | ok contracts =>
      rw [Config.run_settleContracts_ok]
      exact ⟨⟨_, way, rfl⟩, writes.trans more⟩

/-- A name of a level is applied. -/
theorem applyLevel_yields (c : Container) {name : String} {level : Log.Level}
    (known : Log.Level.parse? name = some level) :
    (c.applyLevel name).Yields w (fun result w' => result = .ok () ∧ Writes w w') halts := by
  -- With a handle the level is set, and without one there is nothing to set.
  simp only [applyLevel, known]
  split
  · exact ⟨rfl, emit_writes rfl⟩
  · exact ⟨rfl, .refl w⟩

end Container

end Warden
