import Warden.Proofs.Service.Following
import Warden.Scenario.Monitor

/-!
Where the heads come from that a monitor shows: each from the server that its own poll has selected,
whatever chain that server follows, while the check of the chain has vouched for the one server that
answered it.
-/

namespace Warden.Service.ChainMonitor

open Ethereum

/-- Each server follows one chain, which is the one that it gives whenever it gives a readable
one. -/
def FollowsOwn (network : Network) (chains : Net.Url → Nat) : Prop :=
  ∀ before url delay reply n, network before url .chainId = .reply delay reply →
    reply.number = .ok n → n = chains url

/-- The server that gives its head to a poll that begins in a session. -/
def Gives (client : Client) (network : Network) (began : Session) (url : Net.Url) (block : Nat) :
    Prop :=
  ∃ position, client.providers[position]? = some url ∧
    Client.Selects network client.timeout .blockNumber client.providers began.attempts
      position block

/-- Among the first polls is one that has its head from a server. -/
def HeadFrom (client : Client) (network : Network) (first : Session) (count : Nat) (url : Net.Url)
    (block : Nat) : Prop :=
  ∃ results began, Polls client network first results began ∧ results.length < count ∧
    Gives client network began url block

/-- Whatever the servers of these chains do, once a start has succeeded every head comes from one of
the right chain. -/
def KeepsToChain (client : Client) (chains : Net.Url → Nat) : Prop :=
  ∀ network, FollowsOwn network chains → ∀ cancelled s monitor s',
    (start { client, cancelled } network).run s = ((.ok (), monitor), s') →
      ∀ happenings last, History network (monitor, s') happenings last → ∀ url block,
        HeadFrom client network s' (happenings.countP Happening.isPolled) url block →
          chains url = client.config.chainId.toNat

/-- The servers that questions can be sent to, all of which follow the right chain, or none. -/
def Uniform (client : Client) (chains : Net.Url → Nat) : Prop :=
  (∀ url ∈ client.providers, isSupported url = true → chains url = client.config.chainId.toNat) ∨
    ∀ url ∈ client.providers, isSupported url = true → chains url ≠ client.config.chainId.toNat

variable {client : Client} {network : Network} {chains : Net.Url → Nat}
  {s s' began began' first : Session} {results earlier : List (Except ChainError Nat)}
  {url : Net.Url} {block n position timeout : Nat} {request : Request} {servers : List Net.Url}
  {before : List Attempt} {happenings : List Happening} {origin last : ChainMonitor × Session}
  {monitor : ChainMonitor} {cancelled : Bool}

/-- A number is given in some time and by a server that questions can be sent to. -/
theorem answered_value
    (answered : Answered network timeout url request Reply.number before (.value n)) :
    isSupported url = true ∧ timeout ≠ 0 := by
  cases answered with
  | value supported delivered timely readable => exact ⟨supported, by omega⟩

/-- A chain that is given is the one that the server follows. -/
theorem FollowsOwn.given (own : FollowsOwn network chains)
    (answered : Answered network timeout url .chainId Reply.number before (.value n)) :
    n = chains url := by
  cases answered with
  | value _ delivered _ readable => exact own _ _ _ _ _ delivered readable

/-- The head of a poll is given by the server that gives it, and there is one. -/
theorem blockNumber_ok_iff : ((client.blockNumber network).run began).1 = .ok block ↔
    ∃ url, Gives client network began url block := by
  -- A poll ends at the first server that gives a number, and with that number.
  have asks :=
    Client.firstNumber_failsOver client network .blockNumber Client.blockNumberWording began
  refine (asks.found block).trans ⟨?_, ?_⟩
  · rintro ⟨position, selects⟩
    obtain ⟨url, found, _⟩ := selects.gives
    exact ⟨url, position, found, selects⟩
  · rintro ⟨url, position, _, selects⟩
    exact ⟨position, selects⟩

/-- As many polls from the same session on come out in the same way. -/
theorem Polls.unique (polls : Polls client network first results began)
    (others : Polls client network first earlier began') (same : earlier.length = results.length) :
    earlier = results ∧ began' = began := by
  -- By induction on both, as the question of each poll is asked in the session that those before
  -- have left.
  induction polls generalizing earlier began' with
  | nil =>
    cases others with
    | nil => exact ⟨rfl, rfl⟩
    | snoc => simp at same
  | snoc _ asks ih =>
    cases others with
    | nil => simp at same
    | snoc past asks' =>
      obtain ⟨rfl, rfl⟩ := ih past (by simpa using same)
      -- Both have come to this poll in the same session, so that the network gives it the same.
      obtain ⟨rfl, rfl⟩ := Prod.mk.inj (asks.symm.trans asks')
      exact ⟨rfl, rfl⟩

/-- The heads that polls have found are those that servers have given to them. -/
theorem Polls.ok_mem_iff (polls : Polls client network first results began) :
    .ok block ∈ results ↔ ∃ url, HeadFrom client network first results.length url block := by
  -- By induction on the polls: the last one is the only one that begins where those before it have
  -- ended.
  induction polls with
  | nil => simp [HeadFrom]
  | @snoc results result s s' past asks ih =>
    have came : ((client.blockNumber network).run s).1 = result := by rw [asks]
    rw [List.mem_append, List.mem_singleton, ih, List.length_append, List.length_singleton]
    constructor
    -- The number came in an earlier poll, or in this one.
    · rintro (⟨url, earlier, began, polls, within, gives⟩ | same)
      · exact ⟨url, earlier, began, polls, Nat.lt_succ_of_lt within, gives⟩
      · obtain ⟨url, gives⟩ := blockNumber_ok_iff.mp (came.trans same.symm)
        exact ⟨url, results, s, past, Nat.lt_succ_self _, gives⟩
    · rintro ⟨url, earlier, began, polls, within, gives⟩
      obtain before | last := Nat.lt_succ_iff_lt_or_eq.mp within
      · exact .inl ⟨url, earlier, began, polls, before, gives⟩
      -- There is only one way to have come to the last poll.
      · obtain ⟨rfl, rfl⟩ := past.unique polls last
        exact .inr ((blockNumber_ok_iff.mpr ⟨url, gives⟩).symm.trans came)

/-- A poller that is over has no more polls. -/
theorem History.unpolled (gone : origin.1.poller.isOver = true)
    (history : History network origin happenings last) :
    last.1.poller.isOver = true ∧ happenings.countP Happening.isPolled = 0 := by
  -- By induction on the history: whatever a poller does takes one that is not over.
  induction history with
  | nil => exact ⟨gone, rfl⟩
  | snoc _ next ih =>
    obtain ⟨gone, none⟩ := ih
    cases next with
    | began idle | ended idle _ =>
      rw [idle] at gone
      cases gone
    | asked asking _ | polled asking _ =>
      rw [asking] at gone
      cases gone
    | cancelled | took | joined | returned | abandoned =>
      exact ⟨gone, by simpa [Happening.isPolled] using none⟩

/-- The only server that answers a question is the one that is selected for it. -/
theorem selects_only (listed : url ∈ servers)
    (gives : ∀ before, Answered network timeout url request Reply.number before (.value n))
    (only : ∀ other before m,
      Answered network timeout other request Reply.number before (.value m) → other = url) :
    ∃ position, servers[position]? = some url ∧
      Client.Selects network timeout request servers before position n := by
  obtain ⟨failures, selected, course, _⟩ :=
    Client.firstNumber_run network timeout request Client.chainIdWording servers 0
      { attempts := before }
  cases given : selected with
  | none =>
    -- Then all servers would have failed, and with them the one that answers.
    obtain ⟨position, found⟩ := List.getElem?_of_mem listed
    -- What was given to all servers cannot have come out without a number.
    exact absurd ⟨url, found, gives _⟩ (course.exhausted.mp given position n)
  | some m =>
    have selects := course.selects given
    obtain ⟨other, found, answered⟩ := selects.gives
    obtain rfl := only other _ m answered
    cases answered.unique (gives _)
    exact ⟨_, found, selects⟩

/-- A start succeeds exactly where the server that is selected for it gives the chain that is
configured. -/
theorem start_ok_iff :
    (∃ monitor s', (start { client, cancelled } network).run s = ((.ok (), monitor), s')) ↔
    ∃ position, Client.Selects network client.timeout .chainId client.providers s.attempts position
      client.config.chainId.toNat := by
  rw [← (Client.verify_verifies client network s).verified, start_run]
  rcases (client.verify network).run s with ⟨error | ⟨⟩, s'⟩
  · exact iff_of_false (fun ⟨_, _, same⟩ => nomatch same) nofun
  · exact iff_of_true ⟨_, _, rfl⟩ rfl

/-- A monitor that is idle may come to a poll. -/
theorem exists_poll (network : Network) (idle : monitor.poller = .idle) (s : Session) :
    ∃ happenings last, History network (monitor, s) happenings last ∧
      happenings.countP Happening.isPolled = 1 := by
  have asking :
    monitor.tick.poller = .asking 0 monitor.client.primary monitor.client.failovers := by
    simp only [tick, idle]
  -- The poll begins, and then it is finished with as many replies as there are servers at most.
  obtain ⟨happenings, s', _, once, _, history⟩ :=
    finishPoll_history network monitor.tick asking (Nat.lt_succ_self _) s
  refine ⟨[.began] ++ happenings, _, (Happens.began idle).history.trans history, ?_⟩
  simpa [Happening.isPolled] using once

/-- The poller of a started monitor is over at once if no time passes between its polls. -/
theorem started_isOver (none : client.config.pollIntervalMs = 0) :
    (started client cancelled).poller.isOver = true := by
  have panics : ticker { client, cancelled } = .error noPeriod := by
    simp only [ticker, none]
    rfl
  exact congrArg (fun ticker => (newPoller ticker).isOver) panics

/-- Otherwise it is idle. -/
theorem started_idle (some : client.config.pollIntervalMs ≠ 0) :
    (started client cancelled).poller = .idle := by
  -- An interval of some milliseconds is no empty period, so that the ticker does not panic.
  have some : client.config.pollIntervalMs.toNat ≠ 0 := fun none => some (UInt64.toNat_inj.mp none)
  have period : (Duration.ofMillis client.config.pollIntervalMs.toNat).nanos ≠ 0 := by
    simp only [Duration.ofMillis]
    omega
  have ticks : ticker { client, cancelled } =
    .ok (.ofMillis client.config.pollIntervalMs.toNat) := by
    simp only [ticker, period, if_false]
  exact congrArg newPoller ticks

/-- A network where one server gives its chain and one a head, and where nothing else can be
reached. -/
def parting (vouching heading : Net.Url) (chain : Nat) : Network := fun _ url request =>
  match request with
  | .chainId =>
    if url = vouching then .reply 0 (.answered (some (.integer chain)) none) else .unreachable
  | .blockNumber =>
    if url = heading then .reply 0 (.answered (some (.integer 100)) none) else .unreachable
  | .call _ _ _ => .unreachable

section Parting

variable {vouching heading : Net.Url} {chain : Nat}

/-- A number of sixty-four bits is read as it is given. -/
theorem readQuantity?_integer (small : chain < UInt64.size) :
    readQuantity? (.integer chain) = some chain := by
  have fits : (0 : Int) ≤ chain ∧ (chain : Int) < UInt64.size :=
    ⟨Int.natCast_nonneg chain, Int.ofNat_lt.mpr small⟩
  rw [readQuantity?, if_pos fits, Int.toNat_natCast]

/-- A reply of a readable number is read as that number. -/
theorem number_answered {value : Document.Value} (quantity : readQuantity? value = some chain) :
    (Reply.answered (some value) none).number = .ok chain := by
  simp only [Reply.number, Reply.result, quantity]

/-- The server that vouches tells its own chain. -/
theorem followsOwn_parting (small : chain < UInt64.size) (own : chains vouching = chain) :
    FollowsOwn (parting vouching heading chain) chains := by
  -- Nobody but the vouching server tells its chain.
  intro before url delay reply n delivered readable
  simp only [parting] at delivered
  split at delivered
  · rename_i same
    cases delivered
    rw [number_answered (readQuantity?_integer small)] at readable
    cases readable
    rw [same, own]
  · cases delivered

/-- Nothing else gives a number there. -/
theorem answered_parting
    (answered : Answered (parting vouching heading chain) timeout url request Reply.number before
      (.value n)) :
    request = .chainId ∧ url = vouching ∨ request = .blockNumber ∧ url = heading := by
  -- Only two questions are answered, and each by one server only.
  cases answered with
  | value _ delivered =>
    cases request with
    | chainId =>
      exact .inl ⟨rfl, Classical.byContradiction fun apart => by simp [parting, apart] at delivered⟩
    | blockNumber =>
      exact .inr ⟨rfl, Classical.byContradiction fun apart => by simp [parting, apart] at delivered⟩
    | call => cases delivered

/-- A server that the check of the chain may come to vouches for none of another chain that a poll
may come to. -/
theorem not_keepsToChain (time : client.timeout ≠ 0) (paced : client.config.pollIntervalMs ≠ 0)
    (listed : vouching ∈ client.providers) (supported : isSupported vouching = true)
    (right : chains vouching = client.config.chainId.toNat) (listed' : heading ∈ client.providers)
    (supported' : isSupported heading = true)
    (wrong : chains heading ≠ client.config.chainId.toNat) :
    ¬ KeepsToChain client chains := by
  have small : client.config.chainId.toNat < UInt64.size := client.config.chainId.toNat_lt
  have reads := number_answered (readQuantity?_integer small)
  have soon : 0 < client.timeout * 1000 := by omega
  -- The one server is selected for the check, and the other for the first poll.
  obtain ⟨_, _, vouches⟩ : ∃ position, client.providers[position]? = some vouching ∧
      Client.Selects (parting vouching heading client.config.chainId.toNat) client.timeout .chainId
        client.providers ({} : Session).attempts position client.config.chainId.toNat := by
    refine selects_only listed (fun before => .value supported (if_pos rfl) soon reads)
      fun other before m answered => ?_
    simpa using answered_parting answered
  obtain ⟨monitor, s', ran⟩ : ∃ monitor s',
      (start { client } (parting vouching heading client.config.chainId.toNat)).run {} =
        ((.ok (), monitor), s') :=
    start_ok_iff.mpr ⟨_, vouches⟩
  obtain rfl : monitor = started client false := start_leaves ran
  obtain ⟨position, found, heads⟩ : ∃ position, client.providers[position]? = some heading ∧
      Client.Selects (parting vouching heading client.config.chainId.toNat) client.timeout
        .blockNumber client.providers s'.attempts position 100 := by
    refine selects_only listed' (fun before => .value supported' (if_pos rfl) soon rfl)
      fun other before m answered => ?_
    simpa using answered_parting answered
  have idle : (started client false).poller = .idle := started_idle paced
  obtain ⟨happenings, last, history, once⟩ :=
    exists_poll (parting vouching heading client.config.chainId.toNat) idle s'
  intro keeps
  refine wrong (keeps _ (followsOwn_parting small right) false {} _ s' ran happenings last history
    heading 100 ?_)
  exact ⟨[], s', .nil, by simp [once], position, found, heads⟩

end Parting

/-- Every head comes from the right chain exactly if no server is in time, no poll is made, or the
servers are uniform. -/
theorem keepsToChain_iff (client : Client) (chains : Net.Url → Nat) : KeepsToChain client chains ↔
    client.timeout = 0 ∨ client.config.pollIntervalMs = 0 ∨ Uniform client chains := by
  constructor
  · -- Otherwise there are a server that may vouch and one of another chain that may then be polled.
    refine fun keeps => Classical.byContradiction fun apart => ?_
    simp only [Uniform, not_or, Classical.not_forall] at apart
    obtain ⟨time, paced, ⟨heading, listed', supported', wrong⟩, vouching, listed, supported,
      right⟩ := apart
    exact not_keepsToChain time paced listed supported (Classical.not_not.mp right) listed'
      supported' wrong keeps
  · rintro never network own cancelled s monitor s' ran happenings last history url block
      ⟨results, began, _, within, gives⟩
    obtain rfl : monitor = started client cancelled := start_leaves ran
    -- Both the check and the poll have selected a server.
    obtain ⟨_, vouches⟩ := start_ok_iff.mp ⟨_, _, ran⟩
    obtain ⟨vouching, found, answered⟩ := vouches.gives
    obtain ⟨position, found', heads⟩ := gives
    obtain ⟨_, found'', answered'⟩ := heads.gives
    cases found'.symm.trans found''
    have listed := List.mem_of_getElem? found
    have listed' := List.mem_of_getElem? found'
    obtain ⟨supported, time⟩ := answered_value answered
    obtain ⟨supported', _⟩ := answered_value answered'
    -- Either there is no time, no poll is made, all servers are of the right chain, or none of them
    -- is.
    obtain none | none | right | wrong := never
    · exact absurd none time
    · rw [(history.unpolled (started_isOver none)).2] at within
      exact absurd within (Nat.not_lt_zero _)
    · exact right url listed' supported'
    · exact absurd (own.given answered).symm (wrong vouching listed supported)

/-- Where the heads of a monitor come from, if each server follows one chain. -/
structure HeadsLaw (client : Client) (chains : Net.Url → Nat) : Prop where
  /-- What is shown once a start has succeeded are the heads that servers have given to the polls
  that are over. -/
  heads : ∀ network cancelled s monitor s', (start { client, cancelled } network).run s =
    ((.ok (), monitor), s') →
    ∀ happenings last, History network (monitor, s') happenings last →
      ∃ shown, last.2.readings = s'.readings ++ shown ∧
      ∀ block, .head block ∈ shown ↔
        ∃ url, HeadFrom client network s' (happenings.countP Happening.isPolled) url block
  /-- A start succeeds exactly if the first server that gives a chain gives the right one, which it
  follows. -/
  vouched : ∀ network, FollowsOwn network chains → ∀ cancelled s,
    (∃ monitor s', (start { client, cancelled } network).run s = ((.ok (), monitor), s')) ↔
      ∃ position url, client.providers[position]? = some url ∧
        chains url = client.config.chainId.toNat ∧
        Client.Selects network client.timeout .chainId client.providers s.attempts position
          (chains url)
  /-- Nothing vouches for the servers of the polls: their chain is sure to be the right one only if
  none can be in time, no poll is made, or the check could not have told one server from another. -/
  kept : KeepsToChain client chains ↔
    client.timeout = 0 ∨ client.config.pollIntervalMs = 0 ∨ Uniform client chains

/-- A head is shown exactly if a poll has found it. -/
theorem head_mem_flatMap_shownBy : .head block ∈ results.flatMap shownBy ↔ .ok block ∈ results := by
  rw [List.mem_flatMap]
  constructor
  -- Only a poll that has given a number shows a head, and it shows that number.
  · rintro ⟨result, is, shows⟩
    cases result with
    | ok other =>
      simp only [shownBy, List.mem_cons, Reading.head.injEq, reduceCtorEq, List.not_mem_nil,
        or_false] at shows
      exact shows ▸ is
    | error error => simp [shownBy] at shows
  · exact fun is => ⟨_, is, List.mem_cons_self⟩

/-- Each head comes from the server of its own poll, and the check of the chain is no check of that
server. -/
theorem heads_come_from_polled (client : Client) (chains : Net.Url → Nat) :
    HeadsLaw client chains where
  heads := by
    intro network cancelled s monitor s' ran happenings last history
    obtain rfl : monitor = started client cancelled := start_leaves ran
    obtain ⟨results, began, polls, counted, amid⟩ := history.follows.polls
    refine ⟨results.flatMap shownBy, by rw [amid.readings, polls.readings], fun block => ?_⟩
    rw [head_mem_flatMap_shownBy, ← counted]
    exact polls.ok_mem_iff
  vouched := by
    intro network own cancelled s
    -- A start succeeds exactly if the server that its check selects gives the right chain, which is
    -- its own.
    rw [start_ok_iff]
    constructor
    · rintro ⟨position, selects⟩
      obtain ⟨url, found, answered⟩ := selects.gives
      have same := own.given answered
      exact ⟨position, url, found, same.symm, same ▸ selects⟩
    · rintro ⟨position, url, _, right, selects⟩
      exact ⟨position, right ▸ selects⟩
  kept := keepsToChain_iff client chains

/-- A chain with a server that stands in for the primary one. -/
def relayed : Client where
  primary := localServer 8545
  failovers := [localServer 8546]
  config := { enabled := true, failoverUrls := ["http://localhost:8546"] }

/-- If the primary server follows another chain and gives none as the monitor starts, the other one
vouches for it: it is named as the server of the right chain, and its heads are shown. -/
theorem relayed_shows_other_chain :
    ((Client.open? relayed.config).run {}).1.toOption.map Client.providers =
      some relayed.providers ∧
      ¬ KeepsToChain relayed (fun url => if url = localServer 8545 then 2 else 1) ∧
      let session :=
        (Scenario.monitorScenario (parting (localServer 8546) (localServer 8545) 1) relayed.config
        [.start, .poll 2, .stop]).2
      connected relayed.config ∈ session.entries ∧
        session.shown Reading.headName = ["100", "100"] := by
  have vouches : localServer 8546 ∈ relayed.providers := by decide
  have heads : localServer 8545 ∈ relayed.providers := by decide
  -- One server only tells its chain, and the other one, which is on another chain, only gives
  -- heads.
  refine ⟨by decide +kernel, ?_, by decide +kernel⟩
  exact not_keepsToChain (by decide) (by decide) vouches (by decide) (by decide) heads
    (by decide) (by decide)

end Warden.Service.ChainMonitor
