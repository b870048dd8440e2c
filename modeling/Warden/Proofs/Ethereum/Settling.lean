import Warden.Proofs.Config.Accepted
import Warden.Proofs.Ethereum.Resolving
import Warden.Proofs.Ethereum.Spelling

/-!
Contracts that are searched for again and again: the first that are found give a registry that was
left out, the last that are found give the other two addresses, and what the rules have accepted
they still accept.
-/

namespace Warden.Config

open Ethereum

/-- What searches for the contracts find, one after another, each of which is settled before the
next. -/
def settleAll : List (Asking (Except ChainError Contracts)) → Config →
    Asking (List (Except ChainError Contracts) × Config)
  | [], config => return ([], config)
  | search :: rest, config => do
    let found ← search
    let (_, config) ← config.settleContracts found
    let (later, config) ← settleAll rest config
    return (found :: later, config)

/-- The contracts of those searches that found them. -/
def successes (founds : List (Except ChainError Contracts)) : List Contracts :=
  founds.filterMap Except.toOption

/-- What a configuration comes to after what some searches have found: a registry that is left out
is that of the first contracts, the other two addresses are those of the last ones, and the rest
stays. -/
def settledAfter (config : Config) (founds : List (Except ChainError Contracts)) : Config :=
  { config with
    registry :=
      if config.registry.contractAddress.isEmpty then
        ⟨(successes founds).head?.elim "" fun contracts => contracts.dispatch.text⟩
      else config.registry
    scannerVersionAddress :=
      (successes founds).getLast?.elim config.scannerVersionAddress fun contracts =>
        contracts.scannerVersion.text
    agentRegistryAddress :=
      (successes founds).getLast?.elim config.agentRegistryAddress fun contracts =>
        contracts.agent.text }

variable {config : Config} {founds : List (Except ChainError Contracts)}

/-- Those that succeed of two lists succeed in order. -/
theorem successes_append (first later : List (Except ChainError Contracts)) :
    successes (first ++ later) = successes first ++ successes later :=
  List.filterMap_append

/-- Without searches a configuration stays as it is. -/
theorem settledAfter_nil (config : Config) : config.settledAfter [] = config := by
  obtain ⟨log, ens, ⟨address⟩, scannerVersion, agentRegistry, supervisor, health, chain,
    observability⟩ := config
  by_cases none : address.isEmpty
  · simp [settledAfter, successes, String.isEmpty_iff.mp none]
  · simp [settledAfter, successes, none]

/-- One search is settled as it comes out. -/
theorem settleContracts_once (config : Config) (found : Except ChainError Contracts) (s : Session) :
    ((config.settleContracts found).run s).1.2 = config.settledAfter [found] := by
  cases found with
  | error error =>
    rw [run_settleContracts_error]
    exact (settledAfter_nil config).symm
  | ok contracts =>
    rw [run_settleContracts_ok]
    rfl

/-- What more searches find comes on top of what those before have found. -/
theorem settledAfter_append (config : Config) (first later : List (Except ChainError Contracts)) :
    (config.settledAfter first).settledAfter later = config.settledAfter (first ++ later) := by
  unfold settledAfter
  rw [successes_append, List.head?_append, List.getLast?_append]
  -- The registry is settled by the first contracts, and the other addresses by the last ones.
  congr 1
  · cases none : config.registry.contractAddress.isEmpty with
    | false => simp [none]
    | true => cases (successes first).head? <;> simp [Address.isEmpty_text]
  · cases (successes later).getLast? <;> rfl
  · cases (successes later).getLast? <;> rfl

/-- A search may come to find this. -/
def Finds (search : Asking (Except ChainError Contracts)) (found : Except ChainError Contracts) :
    Prop :=
  ∃ s, (search.run s).1 = found

/-- Settling searches one after another comes to what they have found. -/
theorem settleAll_run (searches : List (Asking (Except ChainError Contracts))) (config : Config)
    (s : Session) :
    ∃ founds s', List.Forall₂ Finds searches founds ∧
      (settleAll searches config).run s = ((founds, config.settledAfter founds), s') := by
  -- By induction on the searches, each of which is settled in the session that it leaves.
  induction searches generalizing config s with
  | nil => exact ⟨[], s, .nil, by rw [settledAfter_nil]; rfl⟩
  | cons search rest ih =>
    -- The first search is settled, and the rest in the configuration and the session that it
    -- leaves.
    obtain ⟨later, s', found, ran⟩ := ih (config.settledAfter [(search.run s).1])
      ((config.settleContracts (search.run s).1).run (search.run s).2).2
    refine ⟨(search.run s).1 :: later, s', .cons ⟨s, rfl⟩ found, ?_⟩
    simp only [settleAll, Asking.run_bind, settleContracts_once, ran, settledAfter_append,
      List.singleton_append]
    rfl

/-- The text of an address may stand wherever an address may be left out. -/
theorem optionalAddress_text (a : Address) : OptionalAddress a.text :=
  fun _ => ⟨a, a.parse_text⟩

/-- What the rules accept they accept after any searches. -/
theorem Accepted.settledAfter (accepted : config.Accepted)
    (founds : List (Except ChainError Contracts)) :
    (config.settledAfter founds).Accepted := by
  -- Each of the three addresses is the one that was accepted, or the text of one that was found.
  refine { accepted with registry := ?_, scannerVersion := ?_, agentRegistry := ?_ }
  · simp only [Config.settledAfter]
    -- A registry that was left out is the text of an address, or still left out.
    split
    · cases (successes founds).head? with
      | none => exact fun some => absurd some (by simp)
      | some contracts => exact optionalAddress_text _
    · exact accepted.registry
  · simp only [Config.settledAfter]
    cases (successes founds).getLast? with
    | none => exact accepted.scannerVersion
    | some contracts => exact optionalAddress_text _
  · simp only [Config.settledAfter]
    cases (successes founds).getLast? with
    -- The last ones that were found have written both, or none were found.
    | none => exact accepted.agentRegistry
    | some contracts => exact optionalAddress_text _

/-- What becomes of a configuration by searches that have found something or nothing, one after
another. -/
structure SettlesInOrder (config : Config) (founds : List (Except ChainError Contracts))
    (result : Config) : Prop where
  /-- A registry that was there stays; one that was left out is that of the first contracts that
  were found. -/
  registry : result.registry.contractAddress =
    if config.registry.contractAddress.isEmpty then
      (successes founds).head?.elim "" fun contracts => contracts.dispatch.text
    else config.registry.contractAddress
  /-- The other two addresses are those of the last contracts that were found. -/
  scannerVersion : result.scannerVersionAddress =
    (successes founds).getLast?.elim config.scannerVersionAddress fun contracts =>
      contracts.scannerVersion.text
  agentRegistry : result.agentRegistryAddress =
    (successes founds).getLast?.elim config.agentRegistryAddress fun contracts =>
      contracts.agent.text
  /-- Nothing else is touched. -/
  rest : { result with
    registry := config.registry
    scannerVersionAddress := config.scannerVersionAddress
    agentRegistryAddress := config.agentRegistryAddress } = config
  /-- What is written for an address is its checksummed text, and no other text is. -/
  checksummed : ∀ (a : Address) (text : String), a.Checksummed text ↔ text = a.text
  /-- What is written for an address reads back as that address, so that what was accepted still
  is. -/
  readable : ∀ a : Address, Address.parse a.text = .ok a
  accepted : config.validate = .ok () → result.validate = .ok ()

/-- Whatever the searches find, and however often they fail, they settle a configuration in that
order. -/
theorem searches_settle_in_order (searches : List (Asking (Except ChainError Contracts)))
    (config : Config) (s : Session) :
    ∃ founds result s', List.Forall₂ Finds searches founds ∧
      (settleAll searches config).run s = ((founds, result), s') ∧
        config.SettlesInOrder founds result := by
  -- The searches are run first; what the configuration comes to is then a matter of what they
  -- found.
  obtain ⟨founds, s', found, ran⟩ := settleAll_run searches config s
  refine ⟨founds, config.settledAfter founds, s', found, ran, ?_⟩
  constructor
  case registry => exact apply_ite Registry.contractAddress ..
  case checksummed => exact fun _ _ => Address.checksummed_iff
  case readable => exact Address.parse_text
  case accepted =>
    intro accepted
    exact validate_eq_ok_iff.mpr ((validate_eq_ok_iff.mp accepted).settledAfter founds)
  all_goals rfl

/-- A search that fails, and then one that finds contracts. -/
def retried : List (Asking (Except ChainError Contracts)) :=
  [pure (.error (.rpc "unreachable")), pure (.ok { dispatch := Address.motley })]

/-- The second search gives the registry that was left out, with its checksum. -/
theorem retried_settles_in_order : ∃ founds result s', List.Forall₂ Finds retried founds ∧
    (settleAll retried {}).run {} = ((founds, result), s') ∧
      ({} : Config).SettlesInOrder founds result ∧
    result.registry.contractAddress = "0x5aAeb6053F3E94C9b9A09f33669435E7Ef1BeAed" := by
  obtain ⟨founds, result, s', found, ran, settles⟩ := searches_settle_in_order retried {} {}
  have founds_eq : founds = [.error (.rpc "unreachable"), .ok { dispatch := Address.motley }] :=
    (congrArg (fun last => last.1.1) ran).symm
  have registry : result.registry.contractAddress = Address.motley.text := by
    rw [settles.registry, founds_eq]
    rfl
  exact ⟨founds, result, s', found, ran, settles, registry.trans Address.text_motley⟩

end Warden.Config
