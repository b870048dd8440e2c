import Warden.Ethereum.Client
import Warden.Proofs.Ethereum.Asking
import Warden.Proofs.Ethereum.Replies

/-!
Failing over: servers are asked in order until the first that gives a number, and what the others
said is logged.
-/

namespace Warden.Ethereum

/-- What was read, if anything was. -/
def Outcome.value? {α : Type} : Outcome α → Option α
  | .value a => some a
  | .failure _ | .late => none

namespace Client

/-- The questions once servers have been asked, one after another. -/
def asked (network : Network) (request : Request) : List Net.Url → List Attempt → List Attempt
  | [], before => before
  | url :: rest, before => asked network request rest (before ++ sent network url request before)

/-- The server at a position comes to an outcome when it is asked after all the servers before
it. -/
def AnswersAt (network : Network) (timeout : Nat) (request : Request) (servers : List Net.Url)
    (before : List Attempt) (position : Nat) (outcome : Outcome Nat) : Prop :=
  ∃ url, servers[position]? = some url ∧
    Answered network timeout url request Reply.number
      (asked network request (servers.take position) before) outcome

/-- The server at a position is the first that gives a number. -/
structure Selects (network : Network) (timeout : Nat) (request : Request) (servers : List Net.Url)
    (before : List Attempt) (position n : Nat) : Prop where
  gives : AnswersAt network timeout request servers before position (.value n)
  first :
    ∀ earlier < position, ∀ m, ¬ AnswersAt network timeout request servers before earlier (.value m)

/-- What is logged of a server that gives no number, by its place. -/
def warning (wording : Wording) (place : Nat) : Outcome Nat → List Log.Entry
  | .value _ => []
  | .failure failure =>
    [⟨.client, .warn, wording.failed,
      [("provider_idx", toString place), ("error", failure.message)]⟩]
  | .late => [⟨.client, .warn, wording.late, [("provider_idx", toString place)]⟩]

/-- What is logged of servers that give no number, from a place on. -/
def warnings (wording : Wording) (place : Nat) (failures : List (Outcome Nat)) : List Log.Entry :=
  (failures.zipIdx place).flatMap fun (outcome, place) => warning wording place outcome

/-- How servers are asked: those that fail first, and the number of the one after them, if there is
one. -/
structure Course (network : Network) (timeout : Nat) (request : Request) (servers : List Net.Url)
    (before : List Attempt) (failures : List (Outcome Nat)) (selected : Option Nat) : Prop where
  fails : ∀ position outcome, failures[position]? = some outcome →
    AnswersAt network timeout request servers before position outcome ∧ outcome.value? = none
  gives : ∀ n, selected = some n →
    AnswersAt network timeout request servers before failures.length (.value n)
  whole : selected = none → failures.length = servers.length

variable {network : Network} {timeout : Nat} {request : Request} {wording : Wording}
  {servers rest : List Net.Url} {url : Net.Url} {before : List Attempt} {position n m place : Nat}
  {outcome outcome' : Outcome Nat} {failures : List (Outcome Nat)} {selected : Option Nat}
  {s : Session}

/-- The first server answers at once. -/
theorem answersAt_zero : AnswersAt network timeout request (url :: rest) before 0 outcome ↔
    Answered network timeout url request Reply.number before outcome := by
  simp [AnswersAt, asked]

/-- Every other one answers after the question to the first. -/
theorem answersAt_succ :
    AnswersAt network timeout request (url :: rest) before (position + 1) outcome ↔
    AnswersAt network timeout request rest (before ++ sent network url request before) position
      outcome := by
  simp [AnswersAt, asked]

/-- Only a server of the list answers. -/
theorem AnswersAt.within
    (answers : AnswersAt network timeout request servers before position outcome) :
    position < servers.length := by
  obtain ⟨url, found, _⟩ := answers
  exact (List.getElem?_eq_some_iff.mp found).1

/-- A server comes to one outcome. -/
theorem AnswersAt.unique
    (answers : AnswersAt network timeout request servers before position outcome)
    (others : AnswersAt network timeout request servers before position outcome') :
    outcome = outcome' := by
  obtain ⟨url, found, answered⟩ := answers
  obtain ⟨url', found', answered'⟩ := others
  cases found.symm.trans found'
  exact answered.unique answered'

/-- Questions are put once to each server that they can be sent to, in order. -/
theorem asked_eq (network : Network) (request : Request) (servers : List Net.Url)
    (before : List Attempt) :
    ∃ more, asked network request servers before = before ++ more ∧
      more.map (fun attempt => (attempt.url, attempt.request)) =
        (servers.filter isSupported).map (·, request) := by
  -- By induction on the servers: what the first one adds comes before what the rest add.
  induction servers generalizing before with
  | nil => exact ⟨[], (List.append_nil _).symm, rfl⟩
  | cons url rest ih =>
    obtain ⟨more, written, put⟩ := ih (before ++ sent network url request before)
    refine ⟨sent network url request before ++ more, by rw [asked, written, List.append_assoc], ?_⟩
    rw [List.map_append, put]
    cases supported : isSupported url <;> simp [sent, supported]

/-- One server is asked, and the reason is logged if it gives no number. -/
theorem tryServer_run (wording : Wording) (place : Nat)
    (answered : Answered network timeout url request Reply.number s.attempts outcome) :
    (tryServer network timeout request wording place url).run s =
      (outcome.value?,
        (s.putting (sent network url request s.attempts)).noting
        (warning wording place outcome)) := by
  simp only [tryServer, Asking.run_bind, answered.run]
  -- A number is given back as it is; a failure and a delay have a wording of their own.
  cases outcome with
  | value n =>
    simp only [Outcome.value?, warning, Session.noting, List.append_nil]
    rfl
  | failure failure => rfl
  | late => rfl

/-- A server that fails comes before the course that the others take. -/
theorem Course.cons (failed : Answered network timeout url request Reply.number before outcome)
    (useless : outcome.value? = none)
    (course : Course network timeout request rest (before ++ sent network url request before)
      failures selected) :
    Course network timeout request (url :: rest) before (outcome :: failures) selected where
  fails := by
    -- The first place is that of the server itself; every other one is moved on by it.
    intro position other found
    cases position with
    | zero =>
      cases found
      exact ⟨answersAt_zero.mpr failed, useless⟩
    | succ position =>
      obtain ⟨answers, useless⟩ := course.fails position other found
      exact ⟨answersAt_succ.mpr answers, useless⟩
  gives := fun n same => answersAt_succ.mpr (course.gives n same)
  whole := fun none => congrArg (· + 1) (course.whole none)

/-- Asking servers for a number takes a course: those that fail are asked in order, and then one
that does not, or none. -/
theorem firstNumber_run (network : Network) (timeout : Nat) (request : Request) (wording : Wording)
    (servers : List Net.Url) (place : Nat) (s : Session) :
    ∃ failures selected, Course network timeout request servers s.attempts failures selected ∧
      (firstNumber network timeout request wording place servers).run s =
        (selected.elim (.error (.rpc wording.exhausted)) .ok,
          { s with
            attempts :=
              asked network request (servers.take (failures.length + selected.toList.length))
                s.attempts
            entries := s.entries ++ warnings wording place failures }) := by
  -- By induction on the servers, which are asked in the session that those before have left.
  induction servers generalizing place s with
  | nil =>
    refine ⟨[], none, ⟨by simp, by simp, fun _ => rfl⟩, ?_⟩
    simp only [warnings, List.zipIdx_nil, List.flatMap_nil, List.append_nil]
    rfl
  | cons url rest ih =>
    obtain ⟨outcome, answered⟩ :=
      exists_answered network timeout url request Reply.number s.attempts
    have tried := tryServer_run wording place answered
    cases given : outcome.value? with
    | some n =>
      -- The course ends with the first server.
      obtain rfl : outcome = .value n := by
        cases outcome <;> simp_all [Outcome.value?]
      -- Nobody was asked before, and nobody is asked after.
      refine ⟨[], some n, ⟨by simp, ?_, by simp⟩, ?_⟩
      · rintro _ ⟨rfl⟩
        exact answersAt_zero.mpr answered
      · simp only [firstNumber, Asking.run_bind, tried, given]
        simp [warnings, warning, asked, Session.putting, Session.noting]
        rfl
    | none =>
      -- The first server has failed, and the course goes on with the rest, one place further on.
      obtain ⟨failures, selected, course, ran⟩ := ih (place + 1)
        ((s.putting (sent network url request s.attempts)).noting (warning wording place outcome))
      refine ⟨outcome :: failures, selected, course.cons answered given, ?_⟩
      simp only [firstNumber, Asking.run_bind, tried, given, ran]
      simp [warnings, asked, Session.putting, Session.noting, Nat.add_right_comm _ 1]

/-- In a course the server after those that fail is the first that gives a number, if there is
one. -/
theorem Course.selects (course : Course network timeout request servers before failures selected) :
    selected = some n → Selects network timeout request servers before failures.length n := by
  refine fun same => ⟨course.gives n same, fun earlier within m answers => ?_⟩
  -- An earlier server is one of those that fail, and it cannot both fail and give a number.
  obtain ⟨failed, useless⟩ := course.fails earlier _ (List.getElem?_eq_getElem within)
  rw [failed.unique answers] at useless
  cases useless

/-- In a course with no number every server fails. -/
theorem Course.exhausted
    (course : Course network timeout request servers before failures selected) : selected = none ↔
    ∀ position n, ¬ AnswersAt network timeout request servers before position (.value n) := by
  constructor
  · -- Then those that fail are all the servers.
    intro none position n answers
    have within : position < failures.length := course.whole none ▸ answers.within
    obtain ⟨failed, useless⟩ := course.fails position _ (List.getElem?_eq_getElem within)
    rw [failed.unique answers] at useless
    cases useless
  -- With a number selected, some server would have given one.
  · intro never
    cases given : selected with
    | none => rfl
    | some n => exact absurd (course.gives n given) (never _ n)

/-- Servers that are asked select one of them at most. -/
theorem Selects.unique (selects : Selects network timeout request servers before position n)
    {position' : Nat} (others : Selects network timeout request servers before position' m) :
    position = position' ∧ n = m := by
  -- Neither comes before the other, and the same server comes to one outcome.
  have same : position = position' := by
    rcases Nat.lt_trichotomy position position' with first | same | second
    · exact absurd selects.gives (others.first _ first _)
    · exact same
    · exact absurd others.gives (selects.first _ second _)
  subst same
  exact ⟨rfl, by cases selects.gives.unique others.gives; rfl⟩

/-- A course gives a number exactly where a server is the first to give it. -/
theorem Course.selected_iff
    (course : Course network timeout request servers before failures selected) :
    selected = some n ↔ ∃ position, Selects network timeout request servers before position n := by
  constructor
  · exact fun same => ⟨_, course.selects same⟩
  · rintro ⟨position, selects⟩
    cases given : selected with
    | none => exact absurd selects.gives (course.exhausted.mp given _ _)
    | some m => rw [((course.selects given).unique selects).2]

/-- Where servers give numbers at the same positions, the one that is selected is also selected of
the others. -/
theorem Selects.alike {network' : Network} {request' : Request} {before' : List Attempt}
    (alike : ∀ position,
      (∃ n, AnswersAt network timeout request servers before position (.value n)) ↔
      ∃ n, AnswersAt network' timeout request' servers before' position (.value n))
    (selects : Selects network timeout request servers before position n) :
    ∃ m, Selects network' timeout request' servers before' position m := by
  obtain ⟨m, gives⟩ := (alike position).mp ⟨n, selects.gives⟩
  refine ⟨m, gives, fun earlier within k answers => ?_⟩
  -- Whoever came earlier would have been earlier among the first servers as well.
  obtain ⟨l, answers⟩ := (alike earlier).mpr ⟨k, answers⟩
  exact selects.first earlier within l answers

/-- Where servers give numbers at the same positions, the same one of them is selected. -/
theorem selects_alike {network' : Network} {request' : Request} {before' : List Attempt}
    (alike : ∀ position,
      (∃ n, AnswersAt network timeout request servers before position (.value n)) ↔
      ∃ n, AnswersAt network' timeout request' servers before' position (.value n))
    (position : Nat) :
    (∃ n, Selects network timeout request servers before position n) ↔
      ∃ n, Selects network' timeout request' servers before' position n := by
  constructor
  · rintro ⟨_, selects⟩
    exact selects.alike alike
  · rintro ⟨_, selects⟩
    exact selects.alike fun position => (alike position).symm

/-- One question was put to each of these servers, in order, if it could be sent there, and no
other. -/
def PutsTo (request : Request) (servers : List Net.Url) (s s' : Session) : Prop :=
  ∃ more, s'.attempts = s.attempts ++ more ∧
    more.map (fun attempt => (attempt.url, attempt.request)) =
      (servers.filter isSupported).map (·, request)

/-- What a question for a number to the servers of a client promises, from one session to the
next. -/
structure FailsOver (client : Client) (network : Network) (request : Request) (wording : Wording)
    (s : Session) (result : Except ChainError Nat) (s' : Session) : Prop where
  /-- A number is given exactly where it is that of the first server which gives one in time. -/
  found : ∀ n, result = .ok n ↔
    ∃ position, Selects network client.timeout request client.providers s.attempts position n
  /-- The error says that all servers have failed, exactly where they have. -/
  exhausted : result = .error (.rpc wording.exhausted) ↔
    ∀ position n,
      ¬ AnswersAt network client.timeout request client.providers s.attempts position (.value n)
  /-- There is no other error. -/
  failed : ∀ error, result = .error error → error = .rpc wording.exhausted
  /-- Each server that has failed is warned of once, under its position; all servers up to the
  selected one are asked, and none after it. -/
  course : ∃ failures : List (Outcome Nat),
    (∀ position outcome, failures[position]? = some outcome →
      AnswersAt network client.timeout request client.providers s.attempts position outcome ∧
        outcome.value? = none) ∧
    s'.entries = s.entries ++ warnings wording 0 failures ∧
    (∀ position n, Selects network client.timeout request client.providers s.attempts position n →
      failures.length = position ∧ PutsTo request (client.providers.take (position + 1)) s s') ∧
    (result.isOk = false → failures.length = client.providers.length ∧
      PutsTo request client.providers s s')
  /-- Nothing is shown. -/
  unshown : s'.readings = s.readings

/-- Asking the servers of a client in order promises all of that. -/
theorem firstNumber_failsOver (client : Client) (network : Network) (request : Request)
    (wording : Wording) (s : Session) :
    client.FailsOver network request wording s
      ((firstNumber network client.timeout request wording 0 client.providers).run s).1
      ((firstNumber network client.timeout request wording 0 client.providers).run s).2 := by
  obtain ⟨failures, selected, course, ran⟩ :=
    firstNumber_run network client.timeout request wording client.providers 0 s
  rw [ran]
  -- What is put is put to the servers that the course comes to.
  have puts : ∀ count, failures.length + selected.toList.length = count →
    PutsTo request (client.providers.take count) s
      { s with
        attempts :=
          asked network request (client.providers.take (failures.length + selected.toList.length))
            s.attempts
        entries := s.entries ++ warnings wording 0 failures } := by
    rintro count rfl
    exact asked_eq network request _ s.attempts
  refine ⟨fun n => ?_, ?_, ?_,
    ⟨failures, course.fails, rfl, fun position n selects => ?_, fun lost => ?_⟩, rfl⟩
  -- A number, an error and its wording are all read off the course.
  · rw [← course.selected_iff]
    cases selected <;> simp
  · rw [← course.exhausted]
    cases selected <;> simp
  · cases selected <;> simp
  · -- The selected server stands right behind those that fail.
    obtain same := course.selected_iff.mpr ⟨position, selects⟩
    obtain ⟨rfl, -⟩ := (course.selects same).unique selects
    exact ⟨rfl, puts _ (by simp [same])⟩
  · -- An error is given only where the course has come to its end.
    have none : selected = none := by
      cases selected with
      | none => rfl
      | some n => cases lost
    refine ⟨course.whole none, ?_⟩
    have all := puts client.providers.length (by simp [none, course.whole none])
    rwa [List.take_length] at all

/-- What the check of the chain promises, from one session to the next. -/
structure Verifies (client : Client) (network : Network) (s : Session)
    (result : Except ChainError Unit) (s' : Session) : Prop where
  /-- It succeeds exactly where the number of the selected server is the one that is configured. -/
  verified : result = .ok () ↔
    ∃ position, Selects network client.timeout .chainId client.providers s.attempts position
      client.config.chainId.toNat
  /-- With any other number, the error names both. -/
  mismatched : ∀ expected actual, result = .error (.chainMismatch expected actual) ↔
    expected = client.config.chainId.toNat ∧ actual ≠ expected ∧
      ∃ position,
        Selects network client.timeout .chainId client.providers s.attempts position actual
  /-- Without a number, the error is that all servers have failed. -/
  unanswered : ∀ message, result = .error (.rpc message) ↔ message = chainIdWording.exhausted ∧
    ∀ position n,
      ¬ AnswersAt network client.timeout .chainId client.providers s.attempts position (.value n)
  /-- There is no other error. -/
  failed : ∀ error, result = .error error →
    (∃ expected actual, error = .chainMismatch expected actual) ∨ ∃ message, error = .rpc message
  /-- Nothing is done but to ask for the chain. -/
  asks : s' = ((client.chainId network).run s).2

/-- The check only compares the number that is asked for. -/
theorem verify_run (client : Client) (network : Network) (s : Session) :
    (client.verify network).run s =
    (((client.chainId network).run s).1.bind fun actual =>
      if actual = client.config.chainId.toNat then .ok ()
      else .error (.chainMismatch client.config.chainId.toNat actual),
    ((client.chainId network).run s).2) := by
  simp only [verify, Asking.run_bind]
  -- Without an answer there is nothing to compare.
  rcases (client.chainId network).run s with ⟨error | actual, s'⟩
  · rfl
  · dsimp only [Except.bind]
    split <;> rfl

/-- The check of the chain promises all of that. -/
theorem verify_verifies (client : Client) (network : Network) (s : Session) :
    client.Verifies network s ((client.verify network).run s).1
      ((client.verify network).run s).2 := by
  have asks : client.FailsOver network .chainId chainIdWording s ((client.chainId network).run s).1
    ((client.chainId network).run s).2 :=
      firstNumber_failsOver client network .chainId chainIdWording s
  rw [verify_run]
  rcases given : (client.chainId network).run s with ⟨error | actual, s'⟩ <;> rw [given] at asks <;>
    have same : s' = ((client.chainId network).run s).2 := (congrArg Prod.snd given).symm
  · -- Nobody has given a number.
    obtain rfl := asks.failed error rfl
    have never := asks.exhausted.mp rfl
    have none : ∀ position n,
      ¬ Selects network client.timeout .chainId client.providers s.attempts position n :=
      fun position n selects => never position n selects.gives
    refine ⟨by simp [Except.bind, none], by simp [Except.bind, none], fun message => ?_, ?_, same⟩
    · simp only [Except.bind, Except.error.injEq, ChainError.rpc.injEq, never, not_false_eq_true,
        implies_true, and_true]
      exact eq_comm
    · rintro error ⟨rfl⟩
      exact .inr ⟨_, rfl⟩
  · -- The selected server has given this number.
    obtain ⟨position, selects⟩ := (asks.found actual).mp rfl
    have selected : ∀ n, (∃ position,
        Selects network client.timeout .chainId client.providers s.attempts position n) ↔
        actual = n := by
      intro n
      rw [← asks.found n]
      exact ⟨fun same => by cases same; rfl, fun same => by rw [same]⟩
    have answered : ¬ ∀ position n,
      ¬ AnswersAt network client.timeout .chainId client.providers s.attempts position
        (.value n) := fun never => never position actual selects.gives
    simp only [Except.bind]
    -- It is compared with the one that is configured.
    by_cases right : actual = client.config.chainId.toNat
    · rw [if_pos right]
      refine ⟨by simp [selected, right], fun expected other => ?_, by simp [answered],
        by simp, same⟩
      simp only [reduceCtorEq, selected, false_iff, not_and]
      rintro rfl wrong rfl
      exact wrong right
    · rw [if_neg right]
      refine ⟨by simp [selected, right], fun expected other => ?_, by simp [answered], ?_, same⟩
      · simp only [Except.error.injEq, ChainError.chainMismatch.injEq, selected]
        constructor
        · rintro ⟨rfl, rfl⟩
          exact ⟨rfl, right, rfl⟩
        · rintro ⟨rfl, _, rfl⟩
          exact ⟨rfl, rfl⟩
      · rintro error ⟨rfl⟩
        exact .inl ⟨_, _, rfl⟩

/-- What is logged of locators that cannot be read. -/
def ignored (texts : List String) : List Log.Entry :=
  (texts.filter fun text => !(Net.Url.parse text).isOk).map fun text =>
    ⟨.client, .warn, "Ignoring invalid failover RPC URL", [("url", text)]⟩

/-- The locators that can be read are kept in order, and the others are noticed. -/
theorem usable_run (texts : List String) (s : Session) : (usable texts).run s =
    (texts.filterMap fun text => (Net.Url.parse text).toOption, s.noting (ignored texts)) := by
  -- By induction on the texts, each of which is kept or noticed before the rest.
  induction texts generalizing s with
  | nil =>
    simp only [ignored, List.filter_nil, List.map_nil, noting_nil]
    rfl
  | cons text rest ih =>
    -- What cannot be read is noticed under its text, and the rest goes on.
    cases read : Net.Url.parse text with
    | ok url =>
      simp only [usable, read, Asking.run_bind, ih]
      simp [read, ignored, Except.toOption, Except.isOk, Except.toBool]
      rfl
    | error fault =>
      simp only [usable, read, Asking.run_bind, run_note, ih, noting_noting]
      simp [read, ignored, Except.toOption, Except.isOk, Except.toBool]

/-- What opening a client promises. -/
structure Opens (config : Config.Chain) (s : Session) (result : Except ChainError Client)
    (s' : Session) : Prop where
  /-- A primary locator that cannot be read is an error, whatever the failovers are. -/
  refused : ∀ fault, Net.Url.parse config.rpcUrl = .error fault → s' = s ∧
    result =
      .error (.invalidConfig ("Invalid RPC URL '" ++ config.rpcUrl ++ "': " ++ fault.message))
  /-- Otherwise the client keeps the primary and the failovers that can be read, in order; nobody is
  asked. -/
  opened : ∀ primary, Net.Url.parse config.rpcUrl = .ok primary → ∃ client, result = .ok client ∧
    client.config = config ∧
    client.providers =
      primary :: config.failoverUrls.filterMap (fun text => (Net.Url.parse text).toOption) ∧
    s' = s.noting (ignored config.failoverUrls)

/-- Whether a client is opened is decided by the primary locator alone. -/
theorem open?_opens (config : Config.Chain) (s : Session) :
    Opens config s ((open? config).run s).1 ((open? config).run s).2 := by
  -- The primary locator decides first, and only then the failovers are looked at.
  cases read : Net.Url.parse config.rpcUrl with
  | error fault =>
    simp only [open?, serverUrl, read]
    refine ⟨?_, by simp [read]⟩
    rintro _ same
    rw [read] at same
    cases same
    exact ⟨rfl, rfl⟩
  | ok primary =>
    simp only [open?, serverUrl, read, Asking.run_bind, usable_run]
    refine ⟨by simp [read], ?_⟩
    rintro _ same
    rw [read] at same
    cases same
    exact ⟨_, rfl, rfl, rfl, rfl⟩

/-- What a client promises, for every behaviour of its servers. -/
structure Law (config : Config.Chain) (network : Network) (s : Session) : Prop where
  opens : Opens config s ((open? config).run s).1 ((open? config).run s).2
  chainId : ∀ client : Client,
    client.FailsOver network .chainId chainIdWording s ((client.chainId network).run s).1
      ((client.chainId network).run s).2
  blockNumber : ∀ client : Client, client.FailsOver network .blockNumber blockNumberWording s
    ((client.blockNumber network).run s).1 ((client.blockNumber network).run s).2
  /-- A reply gives a number exactly where it counts one, of sixty-four bits. -/
  reads : ∀ (reply : Reply) (n : Nat), reply.number = .ok n ↔ reply.Counts n
  /-- Where the servers give numbers at the same positions, both questions select the same of
  them. -/
  alike : ∀ (client : Client) (network' : Network) (s' : Session),
    (∀ position,
      (∃ n,
        AnswersAt network client.timeout .chainId client.providers s.attempts position (.value n)) ↔
        ∃ n, AnswersAt network' client.timeout .blockNumber client.providers s'.attempts position
          (.value n)) →
    ∀ position,
      (∃ n, Selects network client.timeout .chainId client.providers s.attempts position n) ↔
        ∃ n, Selects network' client.timeout .blockNumber client.providers s'.attempts position n
  verifies : ∀ client : Client, client.Verifies network s ((client.verify network).run s).1
    ((client.verify network).run s).2

/-- For every configuration, every behaviour of the servers and whatever was asked before, a client
fails over. -/
theorem client_fails_over (config : Config.Chain) (network : Network) (s : Session) :
    Law config network s where
  opens := open?_opens config s
  chainId client := firstNumber_failsOver client network .chainId chainIdWording s
  blockNumber client := firstNumber_failsOver client network .blockNumber blockNumberWording s
  reads _ _ := Reply.number_eq_ok_iff
  alike _ _ _ := selects_alike
  verifies client := verify_verifies client network s

/-- A client of a chain with a server that stands in for the primary one. -/
def doubled : Client where
  primary := localServer 8545
  failovers := [localServer 8546]
  config := { failoverUrls := ["http://localhost:8546"], chainId := 137 }

/-- A network in which the primary server is busy and the other one gives a number. -/
def faltering : Network := fun _ url _ =>
  if url = localServer 8545 then .reply 1 (.answered none (some ⟨-32000, "busy", none⟩))
  else .reply 1 (.answered (some (.string "0x89")) none)

/-- There the client of the chain with that number is content with the second server. -/
theorem faltering_fails_over : Law doubled.config faltering {} ∧
    ((doubled.chainId faltering).run {}).1 = .ok 137 ∧
    ((doubled.verify faltering).run {}).1 = .ok () := by
  have law := client_fails_over doubled.config faltering {}
  have counts : (Reply.answered (some (.string "0x89")) none).Counts 137 :=
    .text (@NumberText.digits 137 ['0', 'x'] ['8', '9'] 16 [8, 9] (by decide)
      (.cons rfl (.cons rfl .nil)) (by decide)) (by decide)
  have second : ∀ before, Answered faltering doubled.timeout (localServer 8546) .chainId
      Reply.number before (.value 137) :=
    fun _ => .value (by decide) rfl (by decide) ((law.reads _ _).mpr counts)
  have first : ∀ before, Answered faltering doubled.timeout (localServer 8545) .chainId
      Reply.number before (.failure (.refused ⟨-32000, "busy", none⟩)) :=
    fun _ => .unreadable (by decide) rfl (by decide) rfl
  -- The first server is asked, and gives no number.
  have selects : Selects faltering doubled.timeout .chainId doubled.providers [] 1 137 := by
    refine ⟨⟨_, rfl, second _⟩, fun earlier before m answers => ?_⟩
    obtain rfl : earlier = 0 := Nat.lt_one_iff.mp before
    cases answers.unique ⟨_, rfl, first _⟩
  exact ⟨law, ((law.chainId doubled).found 137).mpr ⟨1, selects⟩,
    (law.verifies doubled).verified.mpr ⟨1, selects⟩⟩

end Client

end Warden.Ethereum
