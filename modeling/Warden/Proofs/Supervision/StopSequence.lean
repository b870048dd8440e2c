import Warden.Proofs.Supervision.Supervise
import Warden.Scenario.Stack

/-!
What the sequence of stops does with stops that go wrong: errors and timeouts do not interrupt it,
and a panic does.
-/

namespace Warden.Supervision

open World

/-- What stopping all that is started leaves behind, if it comes to its end. -/
structure StoppedAll (timeout : Nat) (w w' : World) : Prop where
  /-- Each service was stopped once, the last one first, within the timeout, and was counted. -/
  stops : ∃ marks, w'.trace.milestones = w.trace.milestones ++ marks ∧
    StopsEach timeout w.started.reverse marks
  /-- Nothing is left that is started. -/
  empty : w'.started = []

/-- What it leaves behind if it breaks off at a service whose stop has begun: those that were to be
stopped before have been, and the others are left as they were. -/
structure StoppedUntil (timeout : Nat) (service : Placed) (w w' : World) : Prop where
  split : ∃ stopped rest, w.started.reverse = stopped ++ service :: rest ∧
    w'.started = rest.reverse ∧
    ∃ marks begun, w'.trace.milestones = w.trace.milestones ++
      (marks ++ [(begun, .stopping service)]) ∧
      StopsEach timeout stopped marks

/-- What the sequence of stops does, however stops behave. -/
structure StopsInSequence (timeout : Nat) (w : World) (result : Except Halt Unit) (w' : World) :
    Prop where
  /-- If it comes to its end, everything has been stopped. -/
  returns : result = .ok () → StoppedAll timeout w w'
  /-- If it breaks off, it does so at one service: with the panic of its stop, with the end of the
  process, or where the time that it was given is over. -/
  breaks : ∀ halt, result = .error halt → ∃ service ∈ w.started, StoppedUntil timeout service w w' ∧
    ((∃ payload, .panic payload ∈ service.service.stop ∧ halt = .panicked payload.message) ∨
      (∃ code, halt = .exited code ∧ w'.exited = some code) ∨ halt = .stuck ∧ w'.horizon ≤ w'.now)
  /-- It comes to its end if no stop panics, the process goes on, and there is time for the timeouts
  of all. -/
  contained : (∀ service ∈ w.started, ∀ payload, .panic payload ∉ service.service.stop) →
    w'.exited = none →
    w.now + w.started.length * timeout ≤ w.horizon → result = .ok ()

/-- Services are stopped in sequence, each once and within the timeout, until they are all stopped
or one of them panics. -/
theorem stopAll_until_panic (run : RunId) (timeout : Duration) {w w' : World}
    {result : Except Halt Unit} (ran : (Flow.stopAll run timeout).run w = (result, w')) :
    StopsInSequence timeout.ceilMillis w result w' := by
  have stack : w.started = w.started.reverse.reverse := (List.reverse_reverse _).symm
  -- The sequence goes through the stack from its top, and what it leaves is the part that it has
  -- not reached.
  have ends : (Flow.stopAll run timeout).Yields w _ _ :=
    Flow.stopEach_sequence run timeout w.started.reverse stack
  obtain ⟨returns, breaks⟩ := ends.of_run ran
  refine ⟨fun same => ?_, fun halt same => ?_, fun calm going room => ?_⟩
  -- All stops have come back, and the stack is empty.
  · obtain ⟨_, empty, _, stops⟩ := returns () same
    exact ⟨stops, empty⟩
  -- Where it breaks off one service is left at the top, and those above it have been stopped.
  · obtain ⟨_, stopped, service, rest, marks, begun, split, stops, marked, left, broken⟩ :=
      breaks halt same
    have member : service ∈ w.started := List.mem_reverse.mp (by simp [split])
    refine ⟨service, member, ⟨stopped, rest, split, left, marks, begun, marked, stops⟩, ?_⟩
    -- Its own stop decides which of the three ways it was.
    rcases broken with (gone | ⟨stuck, reached, _⟩) | ⟨other, same, payload, panics, message⟩
    · exact .inr (.inl gone)
    · exact .inr (.inr ⟨stuck, reached⟩)
    · cases List.mem_singleton.mp same
      exact .inl ⟨payload, panics, message⟩
  · -- None of the three ways to break off is left.
    cases result with
    | ok _ => rfl
    | error halt =>
      obtain ⟨winds, stopped, service, rest, marks, begun, split, _, _, _, broken⟩ :=
        breaks halt rfl
      have member : service ∈ w.started := List.mem_reverse.mp (by simp [split])
      have horizon : w'.horizon = w.horizon := winds.grows.horizon
      rw [List.length_reverse] at broken
      rcases broken with (⟨code, _, gone⟩ | ⟨_, reached, early⟩) | ⟨other, same, payload, panics, _⟩
      -- The process goes on, the time suffices for a timeout of each, and no stop panics.
      · simp [going] at gone
      · omega
      · cases List.mem_singleton.mp same
        exact absurd panics (calm service member payload)

/-- Services of which one hangs when it is stopped, and one refuses to stop. -/
def stubborn : List Service :=
  [⟨"store", [], []⟩, ⟨"api", [], [.hang]⟩, ⟨"feed", [], [.fail "busy"]⟩]

/-- A world in which they have started. -/
def stubbornWorld : World :=
  { runs := [{}], horizon := 1000, started := placed stubborn }

/-- Where stopping them ends. -/
def stubbornEnd : World := ((Flow.stopAll 0 (.ofMillis 10)).run stubbornWorld).2

/-- Neither the one that hangs nor the one that refuses keeps the others from being stopped. -/
theorem stubborn_until_panic :
    stubbornEnd.trace.milestones.map (·.2) = [.stopping ⟨2, ⟨"feed", [], [.fail "busy"]⟩⟩,
      .stopped ⟨2, ⟨"feed", [], [.fail "busy"]⟩⟩ false, .stopping ⟨1, ⟨"api", [], [.hang]⟩⟩,
      .stopped ⟨1, ⟨"api", [], [.hang]⟩⟩ false, .stopping ⟨0, ⟨"store", [], []⟩⟩,
        .stopped ⟨0, ⟨"store", [], []⟩⟩ true] ∧
    StopsInSequence (Duration.ofMillis 10).ceilMillis stubbornWorld (.ok ()) stubbornEnd :=
  ⟨by decide +kernel, stopAll_until_panic 0 (.ofMillis 10) (Flow.run_of_result (by decide +kernel))⟩

/-- A stop that panics ends the sequence: the service that started before it is never stopped, and
remains as it is. -/
theorem panic_interrupts_stops :
    let ended := Scenario.stackScenario
      [.push ⟨"a", [], []⟩, .push ⟨"b", [], [.panic (.text "boom")]⟩, .stopAll 1000, .size]
    ended.1.toOption.map (·.map (·.answer)) = some [.nothing, .nothing, .panicked "boom", .size 1] ∧
      ended.2.trace.stopActs = [.begins ⟨1, ⟨"b", [], [.panic (.text "boom")]⟩⟩] ∧
      ended.2.started = [⟨0, ⟨"a", [], []⟩⟩] := by
  decide +kernel

end Warden.Supervision
