import Warden.Proofs.Ethereum.Failover
import Warden.Service.ChainMonitor

/-!
Following the head: what a monitor asks and shows poll by poll, when its poller ends, and what a
stop puts an end to.
-/

namespace Warden.Service.ChainMonitor

open Ethereum

/-- What can happen to a monitor once its start is over. -/
inductive Happening
  /-- Some stop, or the run, has cancelled it. -/
  | cancelled
  /-- A tick began a poll. -/
  | began
  /-- A server gave no number, and the poll went on to the next one. -/
  | asked
  /-- The last reply that a poll needed has come, and what it came to is shown. -/
  | polled
  /-- The poller saw the cancellation and ended. -/
  | ended
  /-- A stop took the poller to wait for it. -/
  | took
  /-- A stop came back. -/
  | returned (result : Except String Unit)
  /-- A stop that waited was dropped, and the poller with it. -/
  | abandoned

/-- Whether a poll is over with it. -/
def Happening.isPolled : Happening → Bool
  | .polled => true
  | _ => false

/-- How it happens. A poller that is idle when it is cancelled may see that first, or poll once
more. A stop cancels; then it takes the poller and waits for it, or comes back if there is none to
take; meanwhile no other stop gets that far. -/
inductive Happens (network : Network) :
    Happening → ChainMonitor × Session → ChainMonitor × Session → Prop
  | cancelled {monitor : ChainMonitor} {s : Session} :
    Happens network .cancelled (monitor, s) (monitor.cancel, s)
  | began {monitor : ChainMonitor} {s : Session} (idle : monitor.poller = .idle) :
    Happens network .began (monitor, s) (monitor.tick, s)
  | asked {monitor : ChainMonitor} {s : Session} {index : Nat} {server : Net.Url}
    {rest : List Net.Url}
    (asking : monitor.poller = .asking index server rest)
    (more : ((monitor.reply network).run s).1.poller ≠ .idle) :
    Happens network .asked (monitor, s) ((monitor.reply network).run s)
  | polled {monitor : ChainMonitor} {s : Session} {index : Nat} {server : Net.Url}
    {rest : List Net.Url}
    (asking : monitor.poller = .asking index server rest)
    (finished : ((monitor.reply network).run s).1.poller = .idle) :
    Happens network .polled (monitor, s) ((monitor.reply network).run s)
  | ended {monitor : ChainMonitor} {s : Session} (idle : monitor.poller = .idle)
    (seen : monitor.cancelled = true) :
    Happens network .ended (monitor, s) (monitor.seeCancel, s)
  | took {monitor : ChainMonitor} {s : Session} (called : monitor.cancelled = true)
    (alone : monitor.joining = false) (kept : monitor.kept = true) :
    Happens network .took (monitor, s) (monitor.take, s)
  | joined {monitor : ChainMonitor} {s : Session} (joining : monitor.joining = true)
    (gone : monitor.poller.isOver = true) :
    Happens network (.returned monitor.poller.result) (monitor, s) (monitor.release, s)
  | returned {monitor : ChainMonitor} {s : Session} (called : monitor.cancelled = true)
    (alone : monitor.joining = false) (taken : monitor.kept = false) :
    Happens network (.returned (.ok ())) (monitor, s) (monitor, s)
  | abandoned {monitor : ChainMonitor} {s : Session} (joining : monitor.joining = true) :
    Happens network .abandoned (monitor, s) (monitor.release, s)

/-- What has happened, one thing after another. -/
inductive History (network : Network) (first : ChainMonitor × Session) :
    List Happening → ChainMonitor × Session → Prop
  | nil : History network first [] first
  | snoc {happenings : List Happening} {happening : Happening} {state last : ChainMonitor × Session}
    (past : History network first happenings state) (next : Happens network happening state last) :
    History network first (happenings ++ [happening]) last

/-- What is shown of a poll. -/
def shownBy : Except ChainError Nat → List Reading
  | .ok block => [.head block, .health true]
  | .error _ => [.health false]

/-- Whole polls, one after another, and how each came out. -/
inductive Polls (client : Client) (network : Network) (first : Session) :
    List (Except ChainError Nat) → Session → Prop
  | nil : Polls client network first [] first
  | snoc {results : List (Except ChainError Nat)} {result : Except ChainError Nat} {s s' : Session}
    (past : Polls client network first results s)
    (asks : (client.blockNumber network).run s = (result, s')) :
    Polls client network first (results ++ [result]) ((report result).run s').2

/-- A poll from one of the servers on. -/
def pollFrom (client : Client) (network : Network) (index : Nat) (servers : List Net.Url) :
    Asking (Except ChainError Nat) :=
  Client.firstNumber network client.timeout .blockNumber Client.blockNumberWording index servers

/-- How far a poller is with the poll that began in some session: it has none, or what is left of it
comes to what all of it comes to. -/
inductive Amid (client : Client) (network : Network) (began : Session) : Poller → Session → Prop
  | idle : Amid client network began .idle began
  | gone {poller : Poller} (gone : poller.isOver = true) : Amid client network began poller began
  | within {index : Nat} {server : Net.Url} {rest : List Net.Url} {s : Session}
    (same : (pollFrom client network index (server :: rest)).run s =
      (client.blockNumber network).run began)
    (unshown : s.readings = began.readings)
    (left : index + rest.length + 1 = client.providers.length) :
    Amid client network began (.asking index server rest) s

/-- A monitor whose start has succeeded. -/
def started (client : Client) (cancelled : Bool) : ChainMonitor :=
  { client, cancelled, poller := newPoller (ticker { client, cancelled }), kept := true }

/-- Nothing is left to be done, or to be waited for. -/
structure Settled (monitor : ChainMonitor) : Prop where
  taken : monitor.kept = false
  alone : monitor.joining = false
  gone : monitor.poller.isOver = true

/-- What holds of a started monitor after all that has happened to it. -/
structure Follows (network : Network) (first : ChainMonitor × Session) (happenings : List Happening)
    (state : ChainMonitor × Session) : Prop where
  client : state.1.client = first.1.client
  /-- It has polled as often as polls were over, and may be amid one more. -/
  polls : ∃ results began, Polls first.1.client network first.2 results began ∧
    results.length = happenings.countP Happening.isPolled ∧
    Amid first.1.client network began state.1.poller state.2
  /-- Its poller only ends if it is cancelled, unless it was over from the first. -/
  lives : state.1.poller.isOver = true → state.1.cancelled = true ∨ first.1.poller.isOver = true
  cancelled : state.1.kept = false → state.1.cancelled = true
  joined : state.1.joining = true → state.1.kept = false
  /-- The poller is lost only by a stop that was abandoned. -/
  found : .abandoned ∉ happenings → state.1.kept = true ∨ state.1.joining = true ∨
    state.1.poller.isOver = true

variable {client : Client} {network : Network} {monitor monitor' : ChainMonitor}
  {s s' began : Session} {origin state last : ChainMonitor × Session} {happening : Happening}
  {happenings : List Happening} {result : Except ChainError Nat}
  {results : List (Except ChainError Nat)} {index : Nat} {server : Net.Url} {rest : List Net.Url}
  {cancelled : Bool}

/-- A report shows how the poll came out, and asks nothing. -/
theorem report_run (result : Except ChainError Nat) (s : Session) :
    ((report result).run s).2.readings = s.readings ++ shownBy result ∧
      ((report result).run s).2.attempts = s.attempts := by
  cases result with
  | ok block => exact ⟨List.append_assoc .., rfl⟩
  | error error => exact ⟨rfl, rfl⟩

/-- Polls show how they came out, in order, and nothing else. -/
theorem Polls.readings (polls : Polls client network began results s) :
    s.readings = began.readings ++ results.flatMap shownBy := by
  -- By induction on the polls, of which only the report at the end shows something.
  induction polls with
  | nil => exact (List.append_nil _).symm
  | @snoc results result s s' _ asks ih =>
    have unshown : s'.readings = s.readings := by
      have asked :=
        Client.firstNumber_failsOver client network .blockNumber Client.blockNumberWording s
      rw [show s' = ((client.blockNumber network).run s).2 by rw [asks]]
      exact asked.unshown
    rw [(report_run result s').1, unshown, ih, List.flatMap_append, List.flatMap_singleton,
      List.append_assoc]

/-- A reply ends the poll with what the servers that were left come to, or leaves that to the next
ones. -/
theorem reply_run (network : Network) (asking : monitor.poller = .asking index server rest)
    (s : Session) :
    (∃ result s', (pollFrom monitor.client network index (server :: rest)).run s = (result, s') ∧
      (monitor.reply network).run s =
        ({ monitor with poller := .idle }, ((report result).run s').2)) ∨
    ∃ next others s', rest = next :: others ∧ s'.readings = s.readings ∧
      (pollFrom monitor.client network index (server :: rest)).run s =
        (pollFrom monitor.client network (index + 1) (next :: others)).run s' ∧
      (monitor.reply network).run s =
        ({ monitor with poller := .asking (index + 1) next others }, s') := by
  -- Whatever the network does, the reply comes to an outcome, and only a number ends the poll at
  -- once.
  obtain ⟨outcome, answered⟩ :=
    exists_answered network monitor.client.timeout server .blockNumber Reply.number s.attempts
  obtain ⟨s', tried, unshown⟩ : ∃ s', (Client.tryServer network monitor.client.timeout .blockNumber
      Client.blockNumberWording index server).run s = (outcome.value?, s') ∧
        s'.readings = s.readings :=
    ⟨_, Client.tryServer_run _ _ answered, rfl⟩
  -- The poll goes on only if the server gives no number and is not the last.
  cases given : outcome.value? with
  | some block =>
    refine .inl ⟨.ok block, s', ?_, ?_⟩
    · simp only [pollFrom, Client.firstNumber, Asking.run_bind, tried, given]
      rfl
    · simp only [reply, asking, Asking.run_bind, tried, given]
      rfl
  | none =>
    cases rest with
    | nil =>
      refine .inl ⟨.error (.rpc Client.blockNumberWording.exhausted), s', ?_, ?_⟩
      · simp only [pollFrom, Client.firstNumber, Asking.run_bind, tried, given]
        rfl
      · simp only [reply, asking, Asking.run_bind, tried, given]
        rfl
    | cons next others =>
      refine .inr ⟨next, others, s', rfl, unshown, ?_, ?_⟩
      · simp only [pollFrom, Client.firstNumber, Asking.run_bind, tried, given]
      · simp only [reply, asking, Asking.run_bind, tried, given]
        rfl

/-- What a reply brings of a poll that began in some session. -/
theorem Amid.reply (amid : Amid monitor.client network began monitor.poller s)
    (asking : monitor.poller = .asking index server rest) :
    (∃ result s', (monitor.client.blockNumber network).run began = (result, s') ∧
      (monitor.reply network).run s =
        ({ monitor with poller := .idle }, ((report result).run s').2)) ∨
    ∃ next others s', rest = next :: others ∧
      Amid monitor.client network began (.asking (index + 1) next others) s' ∧
      (monitor.reply network).run s =
        ({ monitor with poller := .asking (index + 1) next others }, s') := by
  rw [asking] at amid
  cases amid with
  | gone gone => cases gone
  | within same unshown left =>
    -- What is left of the poll after the reply still comes to what all of it comes to.
    obtain ⟨result, s', comes, replied⟩ | ⟨next, others, s', rfl, quiet, passes, replied⟩ :=
      reply_run network asking s
    · exact .inl ⟨result, s', same.symm.trans comes, replied⟩
    -- The number that the next server has, and one server less, come to the same count.
    · refine .inr ⟨next, others, s', rfl, .within (passes.symm.trans same) (quiet.trans unshown) ?_,
        replied⟩
      rw [← left, List.length_cons]
      omega

/-- A poller begins idle, unless its ticker panics. -/
theorem newPoller_cases (ticker : Except String Duration) : newPoller ticker = .idle ∨
    ∃ message, ticker = .error message ∧ newPoller ticker = .panicked message := by
  cases ticker with
  | ok period => exact .inl rfl
  | error message => exact .inr ⟨message, rfl, rfl⟩

/-- Nothing has been shown of a poll in flight. -/
theorem Amid.readings {poller : Poller} (amid : Amid client network began poller s) :
    s.readings = began.readings := by
  cases amid with
  | idle | gone => rfl
  | within _ unshown => exact unshown

/-- No more servers are left to a poll in flight than the client has. -/
theorem Amid.left (amid : Amid client network began (.asking index server rest) s) :
    rest.length < client.providers.length := by
  cases amid with
  | gone gone => cases gone
  | within _ _ left => omega

/-- A start that has succeeded leaves a poller to follow. -/
theorem Follows.begin (client : Client) (network : Network) (cancelled : Bool) (s : Session) :
    Follows network (started client cancelled, s) [] (started client cancelled, s) := by
  refine ⟨rfl, ⟨[], s, .nil, rfl, ?_⟩, .inr, nofun, nofun, fun _ => .inl rfl⟩
  show Amid client network s (newPoller _) s
  -- A ticker that panics takes the poller with it, before any poll.
  obtain idle | ⟨message, _, panicked⟩ := newPoller_cases (ticker { client, cancelled })
  · exact idle ▸ .idle
  · exact panicked ▸ .gone rfl

/-- It goes on to follow the head, whatever happens next. -/
theorem Follows.step (follows : Follows network origin happenings (monitor, s))
    (next : Happens network happening (monitor, s) last) :
    Follows network origin (happenings ++ [happening]) last := by
  obtain ⟨same, ⟨results, began, polls, counted, amid⟩, lives, cancelled, joined, found⟩ := follows
  dsimp only at same amid lives cancelled joined found
  rw [← same] at polls amid
  have found' : .abandoned ∉ happenings ++ [happening] →
      monitor.kept = true ∨ monitor.joining = true ∨ monitor.poller.isOver = true :=
    fun whole => found fun earlier => whole (List.mem_append_left _ earlier)
  -- Unless a poll is over, there are no more results than before.
  have counted' : happening.isPolled = false →
      results.length = (happenings ++ [happening]).countP Happening.isPolled :=
    fun between => by simp [counted, between]
  have kept : ∀ {poller s'}, Amid monitor.client network began poller s' →
    happening.isPolled = false →
      ∃ results began, Polls origin.1.client network origin.2 results began ∧
        results.length = (happenings ++ [happening]).countP Happening.isPolled ∧
        Amid origin.1.client network began poller s' :=
    fun amid between => ⟨results, began, same ▸ polls, counted' between, same ▸ amid⟩
  cases next with
  | cancelled => exact ⟨same, kept amid rfl, fun _ => .inl rfl, fun _ => rfl, joined, found'⟩
  | began idle =>
    -- A poll begins with all servers left, in the session in which the polls before were over.
    rw [idle] at amid
    have ticks : monitor.tick =
        { monitor with poller := .asking 0 monitor.client.primary monitor.client.failovers } := by
      simp only [tick, idle]
    rw [ticks]
    cases amid with
    | gone gone => cases gone
    | idle =>
      refine ⟨same, kept (.within rfl rfl ?_) rfl, nofun, cancelled, joined, fun whole => ?_⟩
      · simp [Client.providers]
      · simpa [idle, Poller.isOver] using found' whole
  | asked asking more =>
    -- The poll goes on, so that the reply was not the one that ends it.
    obtain ⟨result, s', comes, replied⟩ | ⟨next, others, s', rfl, amid, replied⟩ :=
      amid.reply asking
    · rw [replied] at more
      exact absurd rfl more
    · rw [replied]
      refine ⟨same, kept amid rfl, nofun, cancelled, joined, fun whole => ?_⟩
      simpa [asking, Poller.isOver] using found' whole
  | polled asking finished =>
    -- The poll is over, so that it comes to a result and the poller is idle again.
    obtain ⟨result, s', comes, replied⟩ | ⟨next, others, s', rfl, amid, replied⟩ :=
      amid.reply asking
    · rw [replied]
      have counts : (results ++ [result]).length =
        (happenings ++ [Happening.polled]).countP Happening.isPolled := by
        simp [counted, Happening.isPolled]
      refine ⟨same, ⟨_, _, same ▸ polls.snoc comes, counts, .idle⟩, nofun, cancelled, joined,
        fun whole => ?_⟩
      simpa [asking, Poller.isOver] using found' whole
    · rw [replied] at finished
      cases finished
  | ended idle seen =>
    rw [idle] at amid
    have sees : monitor.seeCancel = { monitor with poller := .ended } := by
      simp only [seeCancel, idle, seen, if_true]
    rw [sees]
    cases amid with
    | gone gone => cases gone
    | idle =>
      exact ⟨same, kept (.gone rfl) rfl, fun _ => .inl seen, cancelled, joined,
        fun _ => .inr (.inr rfl)⟩
  | took called alone _ =>
    exact ⟨same, kept amid rfl, lives, fun _ => called, fun _ => rfl, fun _ => .inr (.inl rfl)⟩
  | joined joining gone =>
    exact ⟨same, kept amid rfl, lives, cancelled, nofun, fun _ => .inr (.inr gone)⟩
  | returned called alone taken => exact ⟨same, kept amid rfl, lives, cancelled, joined, found'⟩
  | abandoned joining =>
    exact ⟨same, kept amid rfl, lives, cancelled, nofun, fun whole => absurd (by simp) whole⟩

/-- Whatever has happened to a started monitor, it has followed the head. -/
theorem History.follows (history : History network (started client cancelled, s) happenings last) :
    Follows network (started client cancelled, s) happenings last := by
  -- By induction on the history, one thing at a time.
  induction history with
  | nil => exact .begin client network cancelled s
  | snoc _ next ih => exact ih.step next

/-- Once all is settled, nothing more is asked or shown, and stops come back. -/
theorem Settled.step (settled : monitor.Settled)
    (next : Happens network happening (monitor, s) last) :
    last.1.Settled ∧ last.1.poller = monitor.poller ∧ last.2 = s ∧
      ∀ result, happening = .returned result → result = .ok () := by
  obtain ⟨taken, alone, gone⟩ := settled
  -- The poller is over, and nobody waits for it, so only a cancellation or one more stop can
  -- happen.
  cases next with
  | cancelled => exact ⟨⟨taken, alone, gone⟩, rfl, rfl, nofun⟩
  | returned => exact ⟨⟨taken, alone, gone⟩, rfl, rfl, fun _ same => by cases same; rfl⟩
  | began idle | ended idle _ =>
    rw [idle] at gone
    cases gone
  | asked asking _ | polled asking _ =>
    rw [asking] at gone
    cases gone
  | took _ _ kept =>
    rw [taken] at kept
    cases kept
  | joined joining _ | abandoned joining =>
    rw [alone] at joining
    cases joining

/-- What is settled stays so. -/
theorem Settled.history (settled : monitor.Settled)
    (history : History network (monitor, s) happenings last) :
    last.1.Settled ∧ last.1.poller = monitor.poller ∧ last.2 = s ∧
      ∀ result, .returned result ∈ happenings → result = .ok () := by
  -- By induction on the history: each step leaves what is settled as it was.
  induction history with
  | nil => exact ⟨settled, rfl, rfl, nofun⟩
  | @snoc happenings happening state last _ next ih =>
    obtain ⟨settled, same, quiet, fine⟩ := ih
    obtain ⟨settled', same', quiet', fine'⟩ := settled.step next
    refine ⟨settled', same'.trans same, quiet'.trans quiet, fun result mem => ?_⟩
    rw [List.mem_append, List.mem_singleton] at mem
    exact mem.elim (fine result) fun same => fine' result same.symm

/-- A stop of a settled monitor only cancels. -/
theorem Settled.stop (settled : monitor.Settled) (network : Network) (s : Session) :
    (monitor.stop network).run s = ((.ok (), monitor.cancel), s) := by
  simp only [ChainMonitor.stop, cancel, settled.taken]
  rfl

/-- Once a stop has come back, and none was abandoned, all is settled. -/
theorem History.settled (history : History network (started client cancelled, s) happenings last)
    (whole : .abandoned ∉ happenings) {result : Except String Unit}
    (returned : .returned result ∈ happenings) :
    last.1.Settled := by
  -- By induction on the history: a stop that came back earlier left all settled, which stays so.
  induction history with
  | nil => cases returned
  | @snoc happenings happening state last past next ih =>
    have whole' : .abandoned ∉ happenings := fun earlier => whole (List.mem_append_left _ earlier)
    rw [List.mem_append, List.mem_singleton] at returned
    obtain earlier | rfl := returned
    · exact ((ih whole' earlier).step next).1
    · -- The stop that comes back now has waited for the poller, or has found it over.
      have follows := past.follows
      cases next with
      | joined joining gone => exact ⟨follows.joined joining, rfl, gone⟩
      | returned _ alone taken =>
        obtain kept | joining | gone := follows.found whole'
        · exact absurd (taken.symm.trans kept) nofun
        · exact absurd (alone.symm.trans joining) nofun
        · exact ⟨taken, alone, gone⟩

/-- Histories follow one another. -/
theorem History.trans {middle : ChainMonitor × Session} {more : List Happening}
    (past : History network origin happenings middle) (next : History network middle more last) :
    History network origin (happenings ++ more) last := by
  induction next with
  | nil => rwa [List.append_nil]
  | snoc _ next ih => exact List.append_assoc .. ▸ ih.snoc next

/-- One thing that happens is a history. -/
theorem Happens.history (happens : Happens network happening origin last) :
    History network origin [happening] last :=
  .snoc .nil happens

/-- Without a poll in flight there are no replies to take. -/
theorem finishPoll_run (apart : ∀ index server rest, monitor.poller ≠ .asking index server rest)
    (count : Nat) :
    (finishPoll network count monitor).run s = (monitor, s) := by
  -- Only a poller that is asking has a reply to wait for.
  cases count with
  | zero => rfl
  | succ count =>
    cases flight : monitor.poller with
    | asking index server rest => exact absurd flight (apart index server rest)
    | absent | idle | ended | panicked =>
      simp only [finishPoll, flight]
      rfl

/-- Taking the replies that a poll needs is something that happens, and then the poll is over. -/
theorem finishPoll_history (network : Network) (monitor : ChainMonitor) {count : Nat}
    (asking : monitor.poller = .asking index server rest) (enough : rest.length < count)
    (s : Session) :
    ∃ happenings s', .abandoned ∉ happenings ∧ happenings.countP Happening.isPolled = 1 ∧
      (finishPoll network count monitor).run s = ({ monitor with poller := .idle }, s') ∧
      History network (monitor, s) happenings ({ monitor with poller := .idle }, s') := by
  -- By induction on the number of replies; each leaves one server less to be asked.
  induction count generalizing monitor s index server rest with
  | zero => exact absurd enough (Nat.not_lt_zero _)
  | succ count ih =>
    -- The first of the replies that are allowed for is taken, and the rest is left to the
    -- recursion.
    have takes : (finishPoll network (count + 1) monitor).run s =
        (finishPoll network count ((monitor.reply network).run s).1).run
          ((monitor.reply network).run s).2 := by
      simp only [finishPoll, asking, Asking.run_bind]
    obtain ⟨result, s', _, replied⟩ | ⟨next, others, s', rfl, _, _, replied⟩ :=
      reply_run network asking s
    · -- This reply ends the poll, and the others that are allowed for are not taken.
      refine ⟨[.polled], _, by simp, rfl, ?_,
        replied ▸ (Happens.polled asking (by rw [replied])).history⟩
      rw [takes, replied, finishPoll_run (by simp)]
    · obtain ⟨happenings, s'', whole, once, ran, later⟩ :=
        ih { monitor with poller := .asking (index + 1) next others } rfl
          (Nat.lt_of_succ_lt_succ enough) s'
      have first : Happens network .asked (monitor, s) ((monitor.reply network).run s) :=
        .asked asking (by simp [replied])
      rw [replied] at first
      refine ⟨_, s'', ?_, ?_, ?_, first.history.trans later⟩
      · simpa using whole
      · simpa [Happening.isPolled] using once
      · rw [takes, replied, ran]

/-- A poller that is idle when it is cancelled ends once it sees that. -/
theorem seeCancel_idle (monitor : ChainMonitor) (cancelled : monitor.cancelled = true) :
    ({ monitor with poller := .idle } : ChainMonitor).seeCancel =
      { monitor with poller := .ended } := by
  simp only [seeCancel, cancelled, if_true]

/-- Waiting for a cancelled poller is something that happens, and then the poller is over. -/
theorem wait_history (network : Network) (monitor : ChainMonitor) {count : Nat}
    (cancelled : monitor.cancelled = true)
    (enough : ∀ index server rest, monitor.poller = .asking index server rest → rest.length < count)
    (s : Session) :
    ∃ happenings finished s', .abandoned ∉ happenings ∧ finished.seeCancel.poller.isOver = true ∧
      finished.seeCancel.joining = monitor.joining ∧
      (finishPoll network count monitor).run s = (finished, s') ∧
      History network (monitor, s) happenings (finished.seeCancel, s') := by
  -- What there is to wait for depends on how far the poller is.
  cases flight : monitor.poller with
  | asking index server rest =>
    -- The poll in flight is finished first, and leaves the poller idle.
    obtain ⟨happenings, s', whole, _, ran, history⟩ :=
      finishPoll_history network monitor flight (enough index server rest flight) s
    have sees : ({ monitor with poller := .idle } : ChainMonitor).cancelled = true := cancelled
    refine ⟨happenings ++ [.ended], _, s', by simpa using whole, ?_, ?_, ran,
      history.snoc (.ended rfl sees)⟩ <;>
      rw [seeCancel_idle monitor cancelled]
    rfl
  | idle =>
    refine ⟨[.ended], monitor, s, by simp, ?_, ?_, finishPoll_run (by simp [flight]) count,
      (Happens.ended flight cancelled).history⟩ <;>
        simp [seeCancel, flight, cancelled, Poller.isOver]
  | absent | ended | panicked =>
    -- There is nothing to wait for.
    have same : monitor.seeCancel = monitor := by
      simp only [seeCancel, flight]
    refine ⟨[], monitor, s, nofun, ?_, congrArg joining same,
      finishPoll_run (by simp [flight]) count, same.symm ▸ .nil⟩
    rw [same, flight]
    rfl

/-- A stop that finds no other waiting is something that happens, with what it comes back with
last. -/
theorem stop_history (network : Network) (alone : monitor.joining = false)
    (left : ∀ index server rest, monitor.poller = .asking index server rest →
      rest.length < monitor.client.providers.length) (s : Session) :
    ∃ happenings, .abandoned ∉ happenings ∧
      History network (monitor, s) (happenings ++ [.returned ((monitor.stop network).run s).1.1])
        (((monitor.stop network).run s).1.2, ((monitor.stop network).run s).2) := by
  -- Every stop cancels first, whether or not there is a poller to take.
  have called : History network (monitor, s) [.cancelled] (monitor.cancel, s) :=
    Happens.cancelled.history
  cases kept : monitor.kept with
  | false =>
    -- Another stop has taken the poller, so that this one only cancels.
    have ran : (monitor.stop network).run s = ((.ok (), monitor.cancel), s) := by
      simp only [stop, cancel, kept]
      rfl
    rw [ran]
    exact ⟨[.cancelled], by simp, called.snoc (.returned rfl alone kept)⟩
  | true =>
    -- The poller is taken and waited for, and then released.
    have took := called.snoc (.took rfl alone kept)
    obtain ⟨happenings, finished, s', whole, gone, joining, ran, waited⟩ :=
      wait_history network monitor.cancel.take rfl left s
    have stops : (monitor.stop network).run s =
        ((finished.seeCancel.poller.result, finished.seeCancel.release), s') := by
      have waits : (finishPoll network monitor.cancel.client.providers.length
          monitor.cancel.take).run s = (finished, s') := ran
      simp only [stop, show monitor.cancel.kept = true from kept, if_true, Asking.run_bind, waits]
      rfl
    rw [stops]
    refine ⟨[] ++ [.cancelled] ++ [.took] ++ happenings, by simpa using whole, ?_⟩
    exact (took.trans waited).snoc (.joined joining gone)

/-- From one session to another, servers are only asked for their chain, and nothing is shown. -/
def OnlyChecks (s s' : Session) : Prop :=
  s'.readings = s.readings ∧
    ∃ more, s'.attempts = s.attempts ++ more ∧ ∀ attempt ∈ more, attempt.request = .chainId

/-- A start succeeds as its check does, and keeps a poller only then. -/
theorem start_run (client : Client) (network : Network) (cancelled : Bool) (s : Session) :
    (start { client, cancelled } network).run s = match (client.verify network).run s with
      | (.error error, s') => ((.error error, { client, cancelled }), s')
      | (.ok (), s') =>
        ((.ok (), started client cancelled), s'.noting [connected client.config]) := by
  simp only [start, Asking.run_bind]
  rcases (client.verify network).run s with ⟨error | ⟨⟩, s'⟩ <;> rfl

/-- A start that succeeds leaves a started monitor, and one that fails leaves it as it was. -/
theorem start_leaves {outcome : Except ChainError Unit}
    (ran : (start { client, cancelled } network).run s = ((outcome, monitor), s')) :
    monitor = if outcome.isOk then started client cancelled else { client, cancelled } := by
  rw [start_run] at ran
  rcases verified : (client.verify network).run s with ⟨error | ⟨⟩, _⟩ <;> rw [verified] at ran <;>
    -- The check came out one way or the other, and the monitor with it.
    cases ran <;> rfl

/-- The check of a chain is all that a start asks. -/
theorem verify_onlyChecks (client : Client) (network : Network) (s : Session) :
    OnlyChecks s ((client.verify network).run s).2 := by
  obtain ⟨failures, selected, _, ran⟩ :=
    Client.firstNumber_run network client.timeout .chainId Client.chainIdWording
      client.providers 0 s
  -- The servers that were asked are those before the first that answered, and that one.
  obtain ⟨more, written, put⟩ := Client.asked_eq network .chainId
    (client.providers.take (failures.length + selected.toList.length)) s.attempts
  rw [Client.verify_run, Client.chainId, ran]
  refine ⟨rfl, more, written, fun attempt mem => ?_⟩
  -- Every question that was put is the one that the servers were asked.
  have asked : (attempt.url, attempt.request) ∈ more.map fun attempt =>
    (attempt.url, attempt.request) :=
    List.mem_map.mpr ⟨attempt, mem, rfl⟩
  rw [put, List.mem_map] at asked
  obtain ⟨_, _, same⟩ := asked
  exact (congrArg Prod.snd same).symm

/-- The poller of a started monitor whose ticker works goes on until it is cancelled. -/
theorem History.goesOn {period : Duration} (ticks : ticker { client, cancelled } = .ok period)
    (history : History network (started client cancelled, s) happenings last)
    (uncancelled : last.1.cancelled = false) :
    last.1.poller.isOver = false := by
  cases gone : last.1.poller.isOver with
  | false => rfl
  | true =>
    -- A poller that is over was cancelled, or was over from the first, but this one began idle.
    obtain cancelled | gone := history.follows.lives gone
    · exact absurd (uncancelled.symm.trans cancelled) nofun
    · have idle : (started client _).poller = .idle := congrArg newPoller ticks
      dsimp only at gone
      rw [idle] at gone
      cases gone

/-- Since some session nothing has been asked, logged or shown, every stop has come back without an
error, and one more would too. -/
structure Quiet (network : Network) (s : Session) (happenings : List Happening)
    (last : ChainMonitor × Session) : Prop where
  same : last.2 = s
  fine : ∀ result, .returned result ∈ happenings → result = .ok ()
  stops : (last.1.stop network).run last.2 = ((.ok (), last.1.cancel), last.2)

/-- A settled monitor is quiet from then on. -/
theorem Settled.quiet (settled : monitor.Settled)
    (history : History network (monitor, s) happenings last) :
    Quiet network s happenings last := by
  obtain ⟨settled', _, same, fine⟩ := settled.history history
  exact ⟨same, fine, settled'.stop network last.2⟩

/-- What a monitor that is started once promises, whether it is cancelled before, and whatever
happens after its start. -/
structure Law (client : Client) (network : Network) (cancelled : Bool) (s : Session) : Prop where
  /-- A start comes out as the check of the chain, and asks for nothing else. -/
  checks : ((start { client, cancelled } network).run s).1.1 = ((client.verify network).run s).1 ∧
    OnlyChecks s ((start { client, cancelled } network).run s).2
  /-- If it fails, there never is a poller, and all is quiet. -/
  refused : ∀ error monitor s', (start { client, cancelled } network).run s =
    ((.error error, monitor), s') →
    ∀ happenings last, History network (monitor, s') happenings last →
      last.1.poller = .absent ∧ Quiet network s' happenings last
  /-- Otherwise the polls that are over have asked in order for the head and have shown how they
  came out, each once, and nothing else has been shown, not even of the poll that may be in
  flight. -/
  polls : ∀ monitor s', (start { client, cancelled } network).run s = ((.ok (), monitor), s') →
    ∀ happenings last, History network (monitor, s') happenings last →
      ∃ results began, Polls client network s' results began ∧
        results.length = happenings.countP Happening.isPolled ∧
        Amid client network began last.1.poller last.2 ∧
        last.2.readings = s'.readings ++ results.flatMap shownBy
  /-- A poll comes to the number of the first server that gives one in time, exactly where there is
  one. -/
  answers : ∀ began block, ((client.blockNumber network).run began).1 = .ok block ↔ ∃ position,
    Client.Selects network client.timeout .blockNumber client.providers began.attempts
      position block
  /-- Until it is cancelled the poller goes on, however its polls come out. -/
  lives : ∀ monitor s', (start { client, cancelled } network).run s = ((.ok (), monitor), s') →
    ∀ happenings last, History network (monitor, s') happenings last → last.1.cancelled = false →
      (∃ period, ticker { client, cancelled } = .ok period) → last.1.poller.isOver = false
  /-- Once a stop has come back, and none was abandoned before, all is quiet. -/
  stopped : ∀ monitor s', (start { client, cancelled } network).run s = ((.ok (), monitor), s') →
    ∀ happenings middle, History network (monitor, s') happenings middle → .abandoned ∉ happenings →
      ∀ result, .returned result ∈ happenings → ∀ later last, History network middle later last →
        Quiet network middle.2 later last
  /-- A stop can come at any time when no other waits for the poller, and then it comes back. -/
  stops : ∀ monitor s', (start { client, cancelled } network).run s = ((.ok (), monitor), s') →
    ∀ happenings last, History network (monitor, s') happenings last → last.1.joining = false →
      ∃ more, .abandoned ∉ more ∧
        History network last (more ++ [.returned ((last.1.stop network).run last.2).1.1])
          (((last.1.stop network).run last.2).1.2, ((last.1.stop network).run last.2).2)
  /-- A stop that comes before the start only cancels. -/
  early : (stop { client, cancelled } network).run s = ((.ok (), { client, cancelled := true }), s)

/-- A client of a chain with one server. -/
def lone : Client := ⟨localServer 8545, [], {}⟩

/-- A network that knows the head of the chain at first, and then falls silent. -/
def fading : Network
  | _, _, .chainId => .reply 1 (.answered (some (.string "0x1")) none)
  | before, _, .blockNumber =>
    if before.length ≤ 1 then .reply 1 (.answered (some (.string "0x64")) none) else .silence
  | _, _, .call _ _ _ => .unreachable

end Warden.Service.ChainMonitor
