import Warden.Ethereum.Network

/-!
What comes of a question: its delivery decides, and the session keeps it in mind if it could be
sent.
-/

namespace Warden.Ethereum

/-- The one outcome that a question has after those before it. -/
inductive Answered {α : Type} (network : Network) (timeout : Nat) (url : Net.Url)
    (request : Request) (read : Reply → Except CallFailure α) (before : List Attempt) :
    Outcome α → Prop
  | value {delay : Nat} {reply : Reply} {a : α} (supported : isSupported url = true)
    (delivered : network before url request = .reply delay reply) (timely : delay < timeout * 1000)
    (readable : read reply = .ok a) : Answered network timeout url request read before (.value a)
  | unreadable {delay : Nat} {reply : Reply} {failure : CallFailure}
    (supported : isSupported url = true)
    (delivered : network before url request = .reply delay reply) (timely : delay < timeout * 1000)
    (failed : read reply = .error failure) :
    Answered network timeout url request read before (.failure failure)
  | unsent (supported : isSupported url = true)
    (delivered : network before url request = .unreachable) :
    Answered network timeout url request read before (.failure (.unsent (shownUrl url)))
  | unsupported (foreign : isSupported url = false) :
    Answered network timeout url request read before (.failure (.unsupported (shownUrl url)))
  | silent (supported : isSupported url = true)
    (delivered : network before url request = .silence) :
    Answered network timeout url request read before .late
  | late {delay : Nat} {reply : Reply} (supported : isSupported url = true)
    (delivered : network before url request = .reply delay reply)
    (expired : timeout * 1000 ≤ delay) :
    Answered network timeout url request read before .late

/-- Whether a question gets to its server. -/
def Delivery.arrives : Delivery → Bool
  | .unreachable => false
  | .reply _ _ | .silence => true

/-- What putting a question adds to those before it: nothing, if it cannot even be sent. -/
def sent (network : Network) (url : Net.Url) (request : Request) (before : List Attempt) :
    List Attempt :=
  if isSupported url then [⟨url, request, (network before url request).arrives⟩] else []

/-- The session once more questions have been put. -/
def Session.putting (s : Session) (more : List Attempt) : Session :=
  { s with attempts := s.attempts ++ more }

/-- The session once more has been logged. -/
def Session.noting (s : Session) (more : List Log.Entry) : Session :=
  { s with entries := s.entries ++ more }

@[simp] theorem noting_nil (s : Session) : s.noting [] = s := by
  simp only [Session.noting, List.append_nil]

@[simp] theorem noting_noting (s : Session) (first more : List Log.Entry) :
    (s.noting first).noting more = s.noting (first ++ more) := by
  simp only [Session.noting, List.append_assoc]

variable {α β : Type} {network : Network} {timeout : Nat} {url : Net.Url} {request : Request}
  {read : Reply → Except CallFailure α} {s : Session} {outcome : Outcome α}

@[simp] theorem Asking.run_bind (first : Asking β) (next : β → Asking α) :
    (first >>= next).run s = (next (first.run s).1).run (first.run s).2 := rfl

@[simp] theorem Asking.run_pure (a : α) : (pure a : Asking α).run s = (a, s) := rfl

@[simp] theorem run_note (entry : Log.Entry) : (note entry).run s = ((), s.noting [entry]) := rfl

/-- The outcome of a question is the one that it has. -/
theorem Answered.run (answered : Answered network timeout url request read s.attempts outcome) :
    (ask network timeout url request read).run s =
      (outcome, s.putting (sent network url request s.attempts)) := by
  -- Each way in which a question can come out is one branch of asking it.
  cases answered with
  | value supported delivered timely readable =>
    simp [ask, sent, supported, delivered, Delivery.arrives, readable, Nat.not_le.mpr timely,
      Session.putting]
    rfl
  | unreadable supported delivered timely failed =>
    simp [ask, sent, supported, delivered, Delivery.arrives, failed, Nat.not_le.mpr timely,
      Session.putting]
    rfl
  | unsent supported delivered =>
    simp [ask, sent, supported, delivered, Delivery.arrives, Session.putting]
    rfl
  | unsupported foreign =>
    simp [ask, sent, foreign, Session.putting]
    rfl
  | silent supported delivered =>
    simp [ask, sent, supported, delivered, Delivery.arrives, Session.putting]
    rfl
  | late supported delivered expired =>
    simp [ask, sent, supported, delivered, Delivery.arrives, expired, Session.putting]
    rfl

/-- Every question has an outcome. -/
theorem exists_answered (network : Network) (timeout : Nat) (url : Net.Url) (request : Request)
    (read : Reply → Except CallFailure α) (before : List Attempt) :
    ∃ outcome, Answered network timeout url request read before outcome := by
  -- The locator is looked at first, then the delivery, its time, and last what the reply says.
  cases supported : isSupported url with
  | false => exact ⟨_, .unsupported supported⟩
  | true =>
    cases delivered : network before url request with
    | unreachable => exact ⟨_, .unsent supported delivered⟩
    | silence => exact ⟨_, .silent supported delivered⟩
    | reply delay reply =>
      rcases Nat.lt_or_ge delay (timeout * 1000) with timely | expired
      · cases readable : read reply with
        | ok a => exact ⟨_, .value supported delivered timely readable⟩
        | error failure => exact ⟨_, .unreadable supported delivered timely readable⟩
      · exact ⟨_, .late supported delivered expired⟩

/-- A question has one outcome. -/
theorem Answered.unique {before : List Attempt} {other : Outcome α}
    (answered : Answered network timeout url request read before outcome)
    (others : Answered network timeout url request read before other) : outcome = other := by
  -- Both are what comes of the question in a session that knows those before it.
  have ran := Answered.run (s := { attempts := before }) answered
  rw [Answered.run (s := { attempts := before }) others] at ran
  exact (congrArg Prod.fst ran).symm

/-- A server of this machine. -/
def localServer (port : Nat) : Net.Url := ⟨"http", "", some (.domain "localhost"), some port, "/"⟩

end Warden.Ethereum
