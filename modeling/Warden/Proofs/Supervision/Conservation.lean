import Warden.Proofs.Supervision.Laws
import Warden.Proofs.Supervision.Metering

/-! Conservation: what the meters of a run have counted when it is over. -/

namespace Warden.Supervision

open World

/-- The meters of a run over these services agree with one another, if a stop may take so long. -/
structure Trace.Conserves (timeout : Nat) (services : List Placed) (trace : Trace) : Prop where
  /-- Each service is counted as launched, once and in the order of the list, with one of the three
  outcomes. -/
  launches : trace.resolutions.map (·.1) = services
  /-- Each that is counted as started is counted as stopped, once and in reverse order. -/
  stops : trace.stopCounts.map (·.1) = (won trace.resolutions).reverse
  /-- A stop is counted as a good one exactly if the service went down within the timeout. -/
  good : ∀ service ok, (service, ok) ∈ trace.stopCounts → (ok = true ↔ ∃ begun down,
    ⟨begun, .deed (.stop service)⟩ ∈ trace ∧ ⟨down, .deed (.down service)⟩ ∈ trace ∧
      down ≤ begun + timeout)
  /-- The gauge goes up by one with each service that starts, and down by one with each that is
  stopped. -/
  gauge : trace.running =
    List.range' 1 (won trace.resolutions).length ++
      (List.range (won trace.resolutions).length).reverse

/-- Meters that move as they do while services are launched and then stopped agree. -/
theorem conserves_of_meters {timeout : Nat} {services : List Placed} {trace : Trace}
    {outcomes : List (Placed × Launched)} {stops : List (Placed × Bool)}
    {launches unwound : List (Nat × Meter)} (distinct : services.Nodup)
    (moved : trace.meters = launches ++ unwound) (names : outcomes.map (·.1) = services)
    (stopped : stops.map (·.1) = (won outcomes).reverse) (books : Books 0 outcomes launches)
    (unwinds : Unwinds timeout stops unwound) : trace.Conserves timeout services := by
  -- What is read off the trace is what the launches show, followed by what the stops show.
  have resolved : trace.resolutions = outcomes := by
    rw [Trace.resolutions_eq, moved, List.filterMap_append, books.resolutions, unwinds.resolutions,
      List.append_nil]
  have counted : trace.stopCounts = stops := by
    rw [Trace.stopCounts_eq, moved, List.filterMap_append, books.stopCounts, unwinds.stopCounts,
      List.nil_append]
  have many : stops.length = (won outcomes).length := by
    rw [← List.length_map (·.1), stopped, List.length_reverse]
  refine {
    launches := by rw [resolved, names]
    stops := by rw [resolved, counted, stopped]
    good := fun service ok member => ?_
    gauge := by
      rw [Trace.running_eq, moved, List.filterMap_append, books.running, unwinds.running,
        resolved, many] }
  -- A good stop is one whose service goes down within the timeout, and both of these are metered.
  rw [counted] at member
  constructor
  · rintro rfl
    obtain ⟨begun, down, began, ended, soon⟩ := unwinds.down member
    refine ⟨begun, down, Trace.stopping_mem_meters ?_, Trace.down_mem_meters ?_, soon⟩ <;>
      rw [moved]
    · exact List.mem_append_right _ began
    · exact List.mem_append_right _ ended
  · -- A service is stopped only once, so that the count of a good stop is the only one of this
    -- service.
    rintro ⟨_, down, _, ended, _⟩
    have went : (down, .down service) ∈ launches ++ unwound := moved ▸ Trace.mem_meters ended rfl
    have well := unwinds.good ((List.mem_append.mp went).resolve_left (books.undowned down))
    have once : (stops.map (·.1)).Nodup := by
      rw [stopped, List.nodup_reverse]
      exact distinct.sublist (names ▸ won_sublist outcomes)
    exact (Prod.mk.inj (List.inj_on_of_nodup_map once member well rfl)).2

end Warden.Supervision
