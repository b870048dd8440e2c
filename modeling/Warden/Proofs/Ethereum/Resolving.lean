import Warden.Ethereum.Contracts
import Warden.Proofs.Ethereum.Asking
import Warden.Proofs.Ethereum.Replies

/-!
What a resolver finds: the address of a name exactly where both contracts answer with one, and all
contracts or none.
-/

namespace Warden

open Ethereum in
/-- Without contracts nothing is settled. -/
theorem Config.run_settleContracts_error (config : Config) (error : ChainError) (s : Session) :
    (config.settleContracts (.error error)).run s = ((.error error, config), s) := rfl

open Ethereum in
/-- With contracts their addresses are, and the log says so. -/
theorem Config.run_settleContracts_ok (config : Config) (contracts : Contracts) (s : Session) :
    (config.settleContracts (.ok contracts)).run s = ((.ok (), config.withContracts contracts),
      { s with entries := s.entries ++ [(config.withContracts contracts).contractsEntry] }) := rfl

end Warden

namespace Warden.Ethereum

namespace Resolver

/-- What a contract answers about a node, after the questions before: an address, or why there is
none. -/
inductive Answers (resolver : Resolver) (network : Network) (before : List Attempt)
    (contract : Address) (lookup : Lookup) (node : Word) : Except ChainError Address → Prop
  | address {a : Address} (answered : Answered network resolver.timeoutSecs.toNat resolver.server
      (.call contract lookup node) (Reply.address lookup) before (.value a)) :
    Answers resolver network before contract lookup node (.ok a)
  | failure {failure : CallFailure}
    (answered : Answered network resolver.timeoutSecs.toNat resolver.server
      (.call contract lookup node) (Reply.address lookup) before (.failure failure)) :
    Answers resolver network before contract lookup node (.error (.rpc failure.message))
  | late (answered : Answered network resolver.timeoutSecs.toNat resolver.server
      (.call contract lookup node) (Reply.address lookup) before .late) :
    Answers resolver network before contract lookup node
      (.error (.timeout resolver.timeoutSecs.toNat))

/-- What asking a contract adds to the questions before. -/
def asked (resolver : Resolver) (network : Network) (contract : Address) (lookup : Lookup)
    (node : Word) (before : List Attempt) : List Attempt :=
  sent network resolver.server (.call contract lookup node) before

/-- The questions once the registry has been asked about a name. -/
def askedRegistry (resolver : Resolver) (network : Network) (name : String)
    (before : List Attempt) : List Attempt :=
  before ++ resolver.asked network resolver.registry .resolver (namehash name) before

/-- The registry knows a contract that can be asked for the address of a name. -/
def Registers (resolver : Resolver) (network : Network) (name : String) (before : List Attempt)
    (contract : Address) : Prop :=
  resolver.Answers network before resolver.registry .resolver (namehash name) (.ok contract) ∧
    contract.isZero = false

/-- How the search for the address of a name goes: from the questions before, to what it gives and
the questions after. -/
inductive Search (resolver : Resolver) (network : Network) (name : String) (before : List Attempt) :
    Except ChainError Address → List Attempt → Prop
  | unanswered {error : ChainError}
    (first : resolver.Answers network before resolver.registry .resolver (namehash name)
      (.error error)) :
    Search resolver network name before (.error error) (resolver.askedRegistry network name before)
  | unregistered {contract : Address}
    (first : resolver.Answers network before resolver.registry .resolver (namehash name)
      (.ok contract))
    (none : contract.isZero = true) :
    Search resolver network name before (.error (.nameNotFound name))
      (resolver.askedRegistry network name before)
  | broken {contract : Address} {error : ChainError}
    (registers : resolver.Registers network name before contract)
    (second : resolver.Answers network (resolver.askedRegistry network name before) contract .addr
      (namehash name) (.error error)) :
    Search resolver network name before (.error error)
      (resolver.askedRegistry network name before ++
        resolver.asked network contract .addr (namehash name)
          (resolver.askedRegistry network name before))
  | unset {contract address : Address} (registers : resolver.Registers network name before contract)
    (second : resolver.Answers network (resolver.askedRegistry network name before) contract .addr
      (namehash name) (.ok address)) (none : address.isZero = true) :
    Search resolver network name before (.error (.nameNotFound name))
      (resolver.askedRegistry network name before ++
        resolver.asked network contract .addr (namehash name)
          (resolver.askedRegistry network name before))
  | found {contract address : Address} (registers : resolver.Registers network name before contract)
    (second : resolver.Answers network (resolver.askedRegistry network name before) contract .addr
      (namehash name) (.ok address)) (some : address.isZero = false) :
    Search resolver network name before (.ok address)
      (resolver.askedRegistry network name before ++
        resolver.asked network contract .addr (namehash name)
          (resolver.askedRegistry network name before))

variable {resolver : Resolver} {network : Network} {before after : List Attempt}
  {contract : Address} {lookup : Lookup} {node : Word} {result : Except ChainError Address}
  {name : String} {s s' : Session}

/-- A contract answers what it is found to answer. -/
theorem Answers.run (answers : resolver.Answers network s.attempts contract lookup node result) :
    (resolver.lookUp network contract lookup node).run s =
      (result, s.putting (resolver.asked network contract lookup node s.attempts)) := by
  -- The outcome of the one question is read in one way only.
  cases answers with
  | address answered | failure answered | late answered =>
    simp only [lookUp, Asking.run_bind, answered.run]
    rfl

/-- A contract answers one way or another, whatever the network does. -/
theorem exists_answers (resolver : Resolver) (network : Network) (before : List Attempt)
    (contract : Address) (lookup : Lookup) (node : Word) :
    ∃ result, resolver.Answers network before contract lookup node result := by
  -- The question has an outcome, and each outcome reads as one answer.
  obtain ⟨outcome, answered⟩ := exists_answered network resolver.timeoutSecs.toNat resolver.server
    (.call contract lookup node) (Reply.address lookup) before
  cases outcome with
  | value a => exact ⟨_, .address answered⟩
  | failure failure => exact ⟨_, .failure answered⟩
  | late => exact ⟨_, .late answered⟩

/-- A contract has one answer. -/
theorem Answers.unique {other : Except ChainError Address}
    (answers : resolver.Answers network before contract lookup node result)
    (others : resolver.Answers network before contract lookup node other) : result = other := by
  -- Both are what the contract is found to answer in a session that knows these questions.
  have ran := Answers.run (s := { attempts := before }) answers
  rw [Answers.run (s := { attempts := before }) others] at ran
  exact (congrArg Prod.fst ran).symm

/-- What a resolver finds is what the search for the name gives. -/
theorem Search.run (search : resolver.Search network name s.attempts result after) :
    ((resolver.resolve network name).run s).1 = result ∧
      ((resolver.resolve network name).run s).2.attempts = after := by
  -- Each way in which the search can go is one branch of the resolution.
  cases search with
  | unanswered first =>
    simp only [resolve, Asking.run_bind, first.run]
    exact ⟨rfl, rfl⟩
  | unregistered first none =>
    simp only [resolve, Asking.run_bind, first.run, none]
    exact ⟨rfl, rfl⟩
  -- The second question is put in the session that the first has left.
  | broken registers second =>
    have second := Answers.run (s := s.putting (resolver.asked network _ _ _ s.attempts)) second
    simp only [resolve, Asking.run_bind, registers.1.run, registers.2, Bool.false_eq_true,
      if_false, second]
    exact ⟨rfl, rfl⟩
  | unset registers second none =>
    have second := Answers.run (s := s.putting (resolver.asked network _ _ _ s.attempts)) second
    simp only [resolve, Asking.run_bind, registers.1.run, registers.2, Bool.false_eq_true, if_false,
      second, none]
    exact ⟨rfl, rfl⟩
  | found registers second some =>
    have second := Answers.run (s := s.putting (resolver.asked network _ _ _ s.attempts)) second
    simp only [resolve, Asking.run_bind, registers.1.run, registers.2, Bool.false_eq_true, if_false,
      second, some]
    exact ⟨rfl, rfl⟩

/-- There is a search, whatever the network does. -/
theorem exists_search (resolver : Resolver) (network : Network) (name : String)
    (before : List Attempt) :
    ∃ result after, resolver.Search network name before result after := by
  -- The registry's answer is looked at first, and the contract's only if the registry knows one.
  obtain ⟨registered, first⟩ :=
    exists_answers resolver network before resolver.registry .resolver (namehash name)
  cases registered with
  | error error => exact ⟨_, _, .unanswered first⟩
  | ok contract =>
    cases some : contract.isZero with
    | true => exact ⟨_, _, .unregistered first some⟩
    | false =>
      have registers : resolver.Registers network name before contract := ⟨first, some⟩
      obtain ⟨given, second⟩ :=
        exists_answers resolver network (resolver.askedRegistry network name before) contract
        .addr (namehash name)
      cases given with
      | error error => exact ⟨_, _, .broken registers second⟩
      | ok address =>
        cases some : address.isZero with
        | true => exact ⟨_, _, .unset registers second some⟩
        | false => exact ⟨_, _, .found registers second some⟩

/-- Every resolution is a search. -/
theorem resolve_search (resolver : Resolver) (network : Network) (name : String) (s : Session) :
    resolver.Search network name s.attempts ((resolver.resolve network name).run s).1
      ((resolver.resolve network name).run s).2.attempts := by
  obtain ⟨result, after, search⟩ := exists_search resolver network name s.attempts
  rw [search.run.1, search.run.2]
  exact search

/-- The registry knows one contract at most. -/
theorem Registers.unique {other : Address}
    (registers : resolver.Registers network name before contract)
    (others : resolver.Registers network name before other) : contract = other :=
  Except.ok.inj (registers.1.unique others.1)

/-- The second question of a search, about the address that a contract has for the name. -/
def Refers (resolver : Resolver) (network : Network) (name : String) (before : List Attempt)
    (contract : Address) (result : Except ChainError Address) : Prop :=
  resolver.Registers network name before contract ∧
    resolver.Answers network (resolver.askedRegistry network name before) contract .addr
      (namehash name) result

/-- What the resolution of a name promises: which result it has, and which questions it puts. -/
structure ResolvesExactly (resolver : Resolver) (network : Network) (name : String)
    (before : List Attempt) (result : Except ChainError Address) (after : List Attempt) : Prop where
  /-- An address is found exactly where the registry gives a contract that is not zero, and that
  contract the address, which is not zero. -/
  found : ∀ address, result = .ok address ↔
    ∃ contract, resolver.Refers network name before contract (.ok address) ∧ address.isZero = false
  /-- The name is not known exactly where one of the two answers is the zero address. -/
  unknown : ∀ missing, result = .error (.nameNotFound missing) ↔ missing = name ∧
    (resolver.Answers network before resolver.registry .resolver (namehash name) (.ok .zero) ∨
      ∃ contract, resolver.Refers network name before contract (.ok .zero))
  /-- Any other error is that of the question that failed, a failure of the call or a timeout. -/
  failed : ∀ error, (∀ missing, error ≠ .nameNotFound missing) → (result = .error error ↔
    resolver.Answers network before resolver.registry .resolver (namehash name) (.error error) ∨
      ∃ contract, resolver.Refers network name before contract (.error error))
  /-- The second question is put exactly where the first answer is an address that is not zero, and
  to that contract. -/
  second : ∀ contract, resolver.Registers network name before contract ↔
    ∃ received, after = resolver.askedRegistry network name before ++
      [⟨resolver.server, .call contract .addr (namehash name), received⟩]
  /-- Where it is not put, the first question was the last. -/
  once : (∀ contract, ¬ resolver.Registers network name before contract) →
    after = resolver.askedRegistry network name before

/-- A search goes in one way. -/
theorem Search.unique {other : Except ChainError Address} {later : List Attempt}
    (search : resolver.Search network name before result after)
    (others : resolver.Search network name before other later) :
    result = other ∧ after = later := by
  -- Both are what the resolver finds in a session that knows these questions.
  have ran := Search.run (s := { attempts := before }) search
  have again := Search.run (s := { attempts := before }) others
  exact ⟨ran.1.symm.trans again.1, ran.2.symm.trans again.2⟩

/-- The zero address is the one whose bytes are zero. -/
theorem isZero_iff {address : Address} : address.isZero = true ↔ address = .zero := beq_iff_eq

/-- No contract answers that a name is not known: that is for the resolver to say. -/
theorem Answers.not_unknown {missing : String}
    (answers : resolver.Answers network before contract lookup node
      (.error (.nameNotFound missing))) :
    False := by
  cases answers

/-- A contract that answers with an address has been sent the question. -/
theorem Answers.asked {address : Address}
    (answers : resolver.Answers network before contract lookup node (.ok address)) :
    isSupported resolver.server = true := by
  cases answers with
  | address answered => cases answered with
    | value supported => exact supported

/-- Where the registry knows a contract, that contract is asked next. -/
theorem Search.asks (search : resolver.Search network name before result after)
    (registers : resolver.Registers network name before contract) :
    after = resolver.askedRegistry network name before ++
      resolver.asked network contract .addr (namehash name)
        (resolver.askedRegistry network name before) := by
  -- The registry answers once: a search that goes on goes to the contract that it gave.
  cases search with
  | unanswered first => cases first.unique registers.1
  | unregistered first none =>
    cases first.unique registers.1
    simp [registers.2] at none
  | broken others second | unset others second none | found others second some =>
    rw [registers.unique others]

/-- A search that puts a second question puts it to the contract that the registry knows. -/
theorem Search.asks_registered {received : Bool}
    (search : resolver.Search network name before result
      (resolver.askedRegistry network name before ++
      [⟨resolver.server, .call contract .addr (namehash name), received⟩])) :
    resolver.Registers network name before contract := by
  -- The question that was put is the one that is put to the contract of the registry, so that the
  -- contracts are the same.
  have same : ∀ {other more}, resolver.Registers network name before other →
      resolver.askedRegistry network name before ++
          [⟨resolver.server, .call contract .addr (namehash name), received⟩] =
        resolver.askedRegistry network name before ++
          resolver.asked network other .addr (namehash name) more →
      resolver.Registers network name before contract := by
    -- Both questions were put behind the same first one, so that they are the same question.
    intro other more registers puts
    have puts := List.append_cancel_left puts
    simp only [asked, sent, registers.1.asked, if_true, List.cons.injEq, Attempt.mk.injEq,
      Request.call.injEq] at puts
    rw [puts.1.2.1.1]
    exact registers
  generalize last : resolver.askedRegistry network name before ++
    [⟨resolver.server, .call contract .addr (namehash name), received⟩] = after at search
  cases search with
  | unanswered first | unregistered first none => simp at last
  | broken registers second | unset registers second none | found registers second some =>
    exact same registers last

/-- A search for a name promises all of that. -/
theorem Search.exactly (search : resolver.Search network name before result after) :
    resolver.ResolvesExactly network name before result after where
  -- Each equivalence is read in two ways: what a search gives is taken apart, and what is given
  -- makes up a search, of which there is only one.
  -- An address that is found makes up a search, and so does a search that finds it.
  found address := by
    constructor
    · rintro rfl
      cases search with
      | found registers second some => exact ⟨_, ⟨registers, second⟩, some⟩
    · rintro ⟨contract, ⟨registers, second⟩, some⟩
      exact (search.unique (.found registers second some)).1
  -- A zero address is told of where it was met; no answer is an error of that kind.
  unknown missing := by
    constructor
    · rintro rfl
      cases search with
      -- Errors of calls are failures and timeouts, never an unknown name.
      | unanswered first => exact first.not_unknown.elim
      | broken registers second => exact second.not_unknown.elim
      | unregistered first none => exact ⟨rfl, .inl (isZero_iff.mp none ▸ first)⟩
      | unset registers second none => exact ⟨rfl, .inr ⟨_, registers, isZero_iff.mp none ▸ second⟩⟩
    · rintro ⟨rfl, first | ⟨contract, registers, second⟩⟩
      · exact (search.unique (.unregistered first rfl)).1
      · exact (search.unique (.unset registers second rfl)).1
  -- An error is either that of the first answer or that of the second.
  failed error other := by
    constructor
    · rintro rfl
      cases search with
      | unanswered first => exact .inl first
      | broken registers second => exact .inr ⟨_, registers, second⟩
      | unregistered first none | unset registers second none => exact absurd rfl (other name)
    · rintro (first | ⟨contract, registers, second⟩)
      · exact (search.unique (.unanswered first)).1
      · exact (search.unique (.broken registers second)).1
  -- After the registry there is one more question, exactly if it gave a contract.
  second contract := by
    constructor
    · intro registers
      rw [search.asks registers]
      simp only [asked, sent, registers.1.asked, if_true]
      exact ⟨_, rfl⟩
    · rintro ⟨received, rfl⟩
      exact search.asks_registered
  once never := by
    cases search with
    | unanswered first | unregistered first none => rfl
    | broken registers second | unset registers second none | found registers second some =>
      exact absurd registers (never _)

/-- The names of the contracts, in the order in which they are looked up. -/
def contractNames : List String := [dispatchName, scannerVersionName, agentRegistryName]

/-- The addresses of contracts in the order of their names. -/
def addresses (contracts : Contracts) :
    List Address := [contracts.dispatch, contracts.scannerVersion, contracts.agent]

/-- How names are searched for one after another: the first that is not found ends this, with its
error and no further question. -/
inductive Searches (resolver : Resolver) (network : Network) :
    List String → List Attempt → Except ChainError (List Address) → List Attempt → Prop
  | done (before : List Attempt) : Searches resolver network [] before (.ok []) before
  | stops {name : String} {rest : List String} {before after : List Attempt}
    {error : ChainError} (lost : resolver.Search network name before (.error error) after) :
    Searches resolver network (name :: rest) before (.error error) after
  | goes {name : String} {rest : List String} {before between after : List Attempt}
    {address : Address} {result : Except ChainError (List Address)}
    (found : resolver.Search network name before (.ok address) between)
    (later : Searches resolver network rest between result after) :
    Searches resolver network (name :: rest) before (result.map (address :: ·)) after

/-- The search for the contracts is the search for their names. -/
theorem contracts_searches (resolver : Resolver) (network : Network) (s : Session) :
    resolver.Searches network contractNames s.attempts
      (((resolver.contracts network).run s).1.map addresses)
      ((resolver.contracts network).run s).2.attempts := by
  -- Each name is searched for from the session in which the one before was found.
  have search : ∀ {name s result s'}, (resolver.resolve network name).run s = (result, s') →
      resolver.Search network name s.attempts result s'.attempts := by
    intro name s result s' ran
    simpa only [ran] using resolver.resolve_search network name s
  simp only [contracts, Asking.run_bind]
  -- The three names one after another; the first error ends it.
  rcases first : (resolver.resolve network dispatchName).run s with ⟨error | dispatch, s₁⟩
  · exact .stops (search first)
  simp only [Asking.run_bind]
  rcases second :
    (resolver.resolve network scannerVersionName).run s₁ with ⟨error | scannerVersion, s₂⟩
  · exact .goes (search first) (.stops (search second))
  simp only [Asking.run_bind]
  rcases third : (resolver.resolve network agentRegistryName).run s₂ with ⟨error | agent, s₃⟩
  · exact .goes (search first) (.goes (search second) (.stops (search third)))
  · exact .goes (search first) (.goes (search second) (.goes (search third) (.done s₃.attempts)))

/-- What is found is not zero. -/
theorem Search.isZero_found {address : Address}
    (search : resolver.Search network name before (.ok address) after) :
    address.isZero = false := by
  cases search with
  | found registers second some => exact some

/-- Of names that are all found, no address is zero. -/
theorem Searches.isZero_found {names : List String} {result : Except ChainError (List Address)}
    (searches : resolver.Searches network names before result after) :
    ∀ addresses, result = .ok addresses → ∀ address ∈ addresses, address.isZero = false := by
  -- By induction on the names: each that is found adds an address that is not zero.
  induction searches with
  | done before => simp
  | stops lost => simp
  -- What is found later is joined to this address, if nothing goes wrong.
  | @goes name rest before between after first result found later ih =>
    intro addresses same address member
    cases result with
    | error error => cases same
    | ok others =>
      cases same
      rcases List.mem_cons.mp member with rfl | member
      · exact found.isZero_found
      · exact ih others rfl address member

/-- What a search for contracts does to a configuration: everything or nothing. -/
structure SettlesWhole (config : Config) (found : Except ChainError Contracts)
    (result : Except ChainError Unit) (settled : Config) : Prop where
  /-- Its error is that of the search, and with it the configuration stays as it was. -/
  kept : ∀ error, result = .error error ↔ found = .error error ∧ settled = config
  /-- Without an error all three addresses have been found, none of them is zero, and they are what
  is written. -/
  written : result = .ok () ↔ ∃ contracts, found = .ok contracts ∧
    settled = config.withContracts contracts ∧
    ∀ address ∈ addresses contracts, address.isZero = false

/-- Settling what was found is everything or nothing, and asks nobody. -/
theorem settleContracts_whole (config : Config) {found : Except ChainError Contracts}
    (some : ∀ contracts, found = .ok contracts → ∀ address ∈ addresses contracts,
      address.isZero = false)
    (s : Session) :
    SettlesWhole config found ((config.settleContracts found).run s).1.1
      ((config.settleContracts found).run s).1.2 ∧
      ((config.settleContracts found).run s).2.attempts = s.attempts := by
  -- With an error the configuration is handed back, and with contracts all three are written at
  -- once.
  cases found with
  | error error =>
    rw [Config.run_settleContracts_error]
    exact ⟨⟨fun other => by simp, by simp⟩, rfl⟩
  | ok contracts =>
    rw [Config.run_settleContracts_ok]
    exact ⟨⟨fun other => by simp, fun _ => ⟨contracts, rfl, rfl, some contracts rfl⟩, fun _ => rfl⟩,
      rfl⟩

/-- The server tells the address that a contract has for a node, after the questions before: it can
be asked, and replies in time with data whose first word ends in the address. -/
inductive Tells (resolver : Resolver) (network : Network) (before : List Attempt)
    (contract : Address) (lookup : Lookup) (node : Word) (a : Address) : Prop
  | reply {delay : Nat} {reply : Reply} (supported : isSupported resolver.server = true)
    (delivered : network before resolver.server (.call contract lookup node) = .reply delay reply)
    (timely : delay < resolver.timeoutSecs.toNat * 1000) (carried : reply.Carries a) :
    Tells resolver network before contract lookup node a

/-- A contract answers with an address exactly where the server tells it. -/
theorem answers_ok_iff {a : Address} :
    resolver.Answers network before contract lookup node (.ok a) ↔
    resolver.Tells network before contract lookup node a := by
  constructor
  · rintro (⟨supported, delivered, timely, readable⟩)
    exact .reply supported delivered timely (Reply.address_eq_ok_iff.mp readable)
  · rintro ⟨supported, delivered, timely, carried⟩
    exact .address (.value supported delivered timely (Reply.address_eq_ok_iff.mpr carried))

/-- What a resolver promises. -/
structure Law (resolver : Resolver) (network : Network) (s : Session) : Prop where
  /-- Registry, server and timeout are those of its configuration. -/
  configured : ∀ ens, open? ens = .ok resolver →
    Address.parse ens.contractAddress = .ok resolver.registry ∧
    Net.Url.parse ens.jsonRpcUrl = .ok resolver.server ∧ ens.timeoutSecs = resolver.timeoutSecs
  /-- The addresses that contracts answer with are those that the server tells in time. -/
  answers : ∀ before contract lookup node a,
    resolver.Answers network before contract lookup node (.ok a) ↔
      resolver.Tells network before contract lookup node a
  resolves : ∀ name, resolver.ResolvesExactly network name s.attempts
    ((resolver.resolve network name).run s).1 ((resolver.resolve network name).run s).2.attempts
  inOrder : resolver.Searches network contractNames s.attempts
    (((resolver.contracts network).run s).1.map addresses)
    ((resolver.contracts network).run s).2.attempts
  settles : ∀ config : Config, let settled :=
    (resolver.contracts network >>= config.settleContracts).run s
    SettlesWhole config ((resolver.contracts network).run s).1 settled.1.1 settled.1.2 ∧
      settled.2.attempts = ((resolver.contracts network).run s).2.attempts

/-- A resolver comes from its configuration. -/
theorem open?_eq_ok {ens : Config.Ens} (opened : open? ens = .ok resolver) :
    Address.parse ens.contractAddress = .ok resolver.registry ∧
      Net.Url.parse ens.jsonRpcUrl = .ok resolver.server ∧
      ens.timeoutSecs = resolver.timeoutSecs := by
  -- The registry's address is read before the locator, and both have to be.
  unfold open? serverUrl at opened
  split at opened
  · cases opened
  · rename_i registry read
    -- The registry is there, so that only the locator can still be refused.
    cases parsed : Net.Url.parse ens.jsonRpcUrl with
    | error e => simp [parsed] at opened
    | ok server =>
      simp only [parsed, Except.ok.injEq] at opened
      subst opened
      exact ⟨read, rfl, rfl⟩

/-- For every behaviour of the servers, a resolver finds names exactly, and writes all contracts or
none. -/
theorem resolver_exact (resolver : Resolver) (network : Network) (s : Session) :
    resolver.Law network s where
  configured _ opened := open?_eq_ok opened
  answers _ _ _ _ _ := answers_ok_iff
  resolves name := (resolver.resolve_search network name s).exactly
  inOrder := resolver.contracts_searches network s
  settles config := by
    simp only [Asking.run_bind]
    refine settleContracts_whole config (fun contracts same => ?_) _
    exact (resolver.contracts_searches network s).isZero_found _ (by rw [same]; rfl)

/-- The address all of whose bytes are the same. -/
def uniform (byte : UInt8) : Address := ⟨Vector.replicate 20 byte⟩

/-- A reply that carries an address, with other bytes before and behind it. -/
def telling (a : Address) : Reply :=
  .answered (some (.string (hexData (List.replicate 12 0xff ++ a.bytes.toList ++ [1, 2, 3])))) none

/-- A reply that tells an address carries it. -/
theorem carries_telling (a : Address) : (telling a).Carries a := by
  -- Twelve bytes stand before the address, and twenty are its own.
  refine carries_hexData (by simp) ?_
  simp

/-- A network whose registry knows one contract, which has a new address for each name. -/
def directory : Network
  | _, _, .call _ .resolver _ => .reply 5 (telling (uniform 0x11))
  | before, _, .call _ .addr _ => .reply 5 (telling (uniform before.length.toUInt8))
  | _, _, _ => .unreachable

/-- A resolver that waits for a second. -/
def inquirer : Resolver where
  registry := uniform 0x22
  server := localServer 8545
  timeoutSecs := 1

/-- In that network the names of all contracts are found, each with the address that was told. -/
theorem directory_resolved_exactly : inquirer.Law directory {} ∧
    ((inquirer.resolve directory dispatchName).run {}).1 = .ok (uniform 1) ∧
    ((inquirer.contracts directory).run {}).1 = .ok ⟨uniform 1, uniform 3, uniform 5⟩ := by
  have law := resolver_exact inquirer directory {}
  have supported : isSupported inquirer.server = true := by decide
  have tells : ∀ {before contract lookup node a},
      directory before inquirer.server (.call contract lookup node) = .reply 5 (telling a) →
        inquirer.Answers directory before contract lookup node (.ok a) :=
    -- The law itself tells what the replies of the directory are read as.
    fun delivered => (law.answers ..).mpr
      (.reply supported delivered (by decide) (carries_telling _))
  refine ⟨law, ?_, by decide +kernel⟩
  exact ((law.resolves dispatchName).found _).mpr
    ⟨uniform 0x11, ⟨⟨tells rfl, by decide⟩, tells rfl⟩, by decide⟩

end Resolver

end Warden.Ethereum
