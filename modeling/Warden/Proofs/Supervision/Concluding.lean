import Warden.Proofs.Supervision.StopLaw
import Warden.Proofs.Supervision.Supervise

/-! How a supervised run ends: when, with which result, and what it leaves in the trace. -/

namespace Warden.Supervision

/-- The time by which the services that started are stopped at the latest, if a run began with
`count` services at the first time and was called off at the other. -/
def Settings.latest (settings : Settings) (first count called started : Nat) : Nat :=
  max called (first + count * settings.startupTimeout.ceilMillis) +
    started * settings.stopTimeout.ceilMillis

namespace World

variable {limit : Nat} {run : RunId} {services : List Placed} {trace : Trace} {w w₁ w₂ w₃ : World}

/-- While a run is waited for, starts that come up come up late. -/
theorem Launches.raced_append (launches : Launches limit run services trace w w₁)
    (settled : w.Settled) (follows : Follows w₁ w₂) :
    ∃ later : Trace, w₂.trace = w₁.trace ++ later ∧ (trace ++ later).Raced limit services ∧
      (trace ++ later).started = trace.started := by
  obtain ⟨later, written, allowed⟩ := follows.trace
  have silent : ∀ stamped ∈ later, stamped.event.milestone? = none :=
    fun stamped member => (allowed stamped member).2.2.1
  -- Nothing is launched while the run is waited for, and a start that still goes on has lost its
  -- race.
  refine ⟨later, written,
    launches.raced.append silent fun service launch up launched reported => ?_, ?_⟩
  · obtain ⟨after, _, _, own⟩ := allowed _ reported
    rcases launches.late service (own service rfl) with starting | ⟨_, late⟩
    · exact absurd starting (settled service)
    · exact Nat.le_trans (late launch launched) after
  · rw [Trace.started_append, Trace.started_of_silent silent, List.append_nil]

/-- A launch loop in which a service is lost has been called off while it ran. -/
theorem Launches.called (launches : Launches limit run services trace w w₁)
    (sound : w₁.Sound) (timed : w.Timed) (short : trace.started.length < services.length) :
    ∃ call, w₁.trace.firstCall run = some call ∧ call.time ≤ w.now + services.length * limit := by
  have cancelled := launches.lost short
  rw [sound.isCancelled_iff] at cancelled
  obtain ⟨call, first⟩ := Option.isSome_iff_exists.mp cancelled
  exact ⟨call, first, Nat.le_trans ((launches.grows.timed timed).call_le first) launches.soon⟩

end World

namespace Flow

open World

/-- How a supervised run has gone that returns: it kept the law of stops, its result is the cause of
the first call, and it did not take longer than the timeouts allow. -/
structure Concluded (settings : Settings) (run : RunId) (services : List Placed) (w : World)
    (result : Option RunError) (w' : World) (trace : Trace) : Prop where
  written : w'.trace = w.trace ++ trace
  lawful : trace.StopsLawfully settings.startupTimeout.ceilMillis services run w.trace
  complete : trace.StopsAll settings.startupTimeout.ceilMillis services
  called : ∃ call, w'.trace.firstCall run = some call ∧ call.caller ≠ .group ∧
    result = some (.cancelled call.cause)
  soon : ∀ call, w'.trace.firstCall run = some call →
    w'.now ≤ settings.latest w.now services.length call.time trace.started.length
  lost : trace.started.length < services.length → ∀ call, w'.trace.firstCall run = some call →
    call.time ≤ w.now + services.length * settings.startupTimeout.ceilMillis

/-- Why a supervised run does not return: the process is gone, the horizon is reached, the clock
cannot show the deadline of a launch, or a stop panicked. -/
inductive Excuse (settings : Settings) (run : RunId) (services : List Placed) (first : Nat)
    (trace : Trace) (w : World) : Halt → Prop
  | gone (code : Nat) (exited : w.exited = some code) :
    Excuse settings run services first trace w (.exited code)
  | overdue (reached : w.horizon ≤ w.now)
    (soon : ∀ call, w.trace.firstCall run = some call →
      w.now ≤ settings.latest first services.length call.time trace.started.length)
    (lost : trace.started.length < services.length →
      w.now ≤ settings.latest first services.length first trace.started.length) :
    Excuse settings run services first trace w .stuck
  | beyond (done now : Nat) (few : done < services.length)
    (ahead : now ≤ first + done * settings.startupTimeout.ceilMillis)
    (beyond : isBeyondClock now settings.startupTimeout = true) :
    Excuse settings run services first trace w (.panicked clockOverflow)
  | stopPanicked (service : Placed) (member : service ∈ services) (payload : Payload)
    (panics : .panic payload ∈ service.service.stop) :
    Excuse settings run services first trace w (.panicked payload.message)

/-- How a supervised run has gone that does not return: it kept the law of stops as far as it
came. -/
structure Cut (settings : Settings) (run : RunId) (services : List Placed) (w : World) (halt : Halt)
    (w' : World) (trace : Trace) : Prop where
  written : w'.trace = w.trace ++ trace
  lawful : trace.StopsLawfully settings.startupTimeout.ceilMillis services run w.trace
  excuse : Excuse settings run services w.now trace w' halt

variable {settings : Settings} {group : GroupId} {run : RunId} {services : List Placed} {w : World}

/-- Why the launch loop fails is why the run is cut. -/
theorem Fails.excuse {first : Nat} {halt : Halt} {w' : World} (trace : Trace)
    (fails : Fails settings.startupTimeout first services.length halt w') :
    Excuse settings run services first trace w' halt := by
  rcases fails with (⟨code, rfl, gone⟩ | ⟨rfl, reached, early⟩) | ⟨rfl, done, few, now,
    ahead, beyond⟩
  · exact .gone code gone
  · refine .overdue reached (fun call _ => ?_) fun _ => ?_ <;> simp only [Settings.latest] <;> omega
  · exact .beyond done now few ahead beyond

/-- Why stopping breaks off is why the run is cut, if stopping began in time. -/
theorem Breaks.excuse {first : Nat} {started : List Placed} {halt : Halt} {trace : Trace}
    {call : Call} {w₁ w' : World}
    (breaks : Breaks started (w₁.now + trace.started.length * settings.stopTimeout.ceilMillis)
      halt w')
    (among : started ⊆ services) (called : w'.trace.firstCall run = some call)
    (soon : w₁.now ≤ max call.time (first + services.length * settings.startupTimeout.ceilMillis))
    (lost : trace.started.length < services.length →
      call.time ≤ first + services.length * settings.startupTimeout.ceilMillis) :
    Excuse settings run services first trace w' halt := by
  -- Three reasons: the process is gone, the horizon is reached, or a stop has panicked.
  rcases breaks with (⟨code, rfl, gone⟩ | ⟨rfl, reached, early⟩) | ⟨service, member, payload,
    panics, rfl⟩
  · exact .gone code gone
  -- The stops have taken no longer than all their timeouts, counted from the call or from the
  -- launches.
  · refine .overdue reached (fun call' called' => ?_) fun short => ?_ <;>
      simp only [Settings.latest]
    · cases called.symm.trans called'
      omega
    · have := lost short
      omega
  · exact .stopPanicked service (among member) payload panics

/-- Once all races are resolved and the run is cancelled, stopping keeps the law of stops. -/
theorem stopAll_yields {limit : Nat} {timeout : Duration} {trace : Trace} {w₁ : World}
    (raced : trace.Raced limit services) (distinct : services.Nodup)
    (written : w₁.trace = w.trace ++ trace) (started : w₁.started = trace.started)
    (settled : w₁.Settled) (called : (w₁.trace.firstCall run).isSome = true) :
    (stopAll run timeout).Yields w₁
      (fun _ w' => ∃ later, w'.trace = w₁.trace ++ later ∧
        (trace ++ later).started = trace.started ∧
        (trace ++ later).StopsLawfully limit services run w.trace ∧
          (trace ++ later).StopsAll limit services ∧
        w'.now ≤ w₁.now + trace.started.length * timeout.ceilMillis)
      fun halt w' => ∃ later, w'.trace = w₁.trace ++ later ∧
        (trace ++ later).started = trace.started ∧
        (trace ++ later).StopsLawfully limit services run w.trace ∧
        Breaks trace.started.reverse (w₁.now + trace.started.length * timeout.ceilMillis)
          halt w' := by
  rw [written] at called
  -- Whatever is written while services are stopped, nothing of it is a launch or the word of a
  -- start.
  have wound : ∀ {w' : World}, Winds w₁ w' → ∃ later : Trace, w'.trace = w₁.trace ++ later ∧
      later.Unlaunched ∧
      (∀ service time, (⟨time, .deed (.up service)⟩ : Stamped) ∉ later) ∧
      (trace ++ later).started = trace.started ∧
      ∀ acts, w'.trace.stopActs = w₁.trace.stopActs ++ acts → later.stopActs = acts := by
    intro w' winds
    obtain ⟨later, same, quiet⟩ := winds.quiet
    have unlaunched : later.Unlaunched := fun stamped member => (quiet stamped member).1
    refine ⟨later, same, unlaunched, fun service time up =>
      settled service ((quiet _ up).2 service rfl), ?_, ?_⟩
    · rw [Trace.started_append, unlaunched.started, List.append_nil]
    · intro acts stops
      rw [same, Trace.stopActs_append] at stops
      exact List.append_cancel_left stops
  simp only [stopAll, yields_bind, yields_look, started]
  have stack : w₁.started = trace.started.reverse.reverse := by rw [started, List.reverse_reverse]
  refine (stopEach_yields run timeout trace.started.reverse stack).mono ?_ ?_
  -- All stops came to their end, so that the run is stopped lawfully and as a whole.
  · rintro _ w' ⟨winds, stops, soon⟩
    obtain ⟨later, same, unlaunched, unheard, kept, acts⟩ := wound winds
    have ended := acts _ stops
    rw [List.length_reverse] at soon
    exact ⟨later, same, kept,
      raced.stopsLawfully distinct called unlaunched (ended ▸ List.prefix_refl _),
      raced.stopsAll unlaunched unheard ended, soon⟩
  -- The stops broke off, and what they did is a beginning of what they would have done.
  · rintro halt w' ⟨winds, ⟨more, stops, begun⟩, breaks⟩
    obtain ⟨later, same, unlaunched, _, kept, acts⟩ := wound winds
    rw [List.length_reverse] at breaks
    exact ⟨later, same, kept,
      raced.stopsLawfully distinct called unlaunched (acts _ stops ▸ begun), breaks⟩

/-- A run that has been joined in time concludes with its stops, unless it is cut. -/
theorem stopAll_concludes {trace : Trace} {call : Call} {w₁ : World}
    (raced : trace.Raced settings.startupTimeout.ceilMillis services) (distinct : services.Nodup)
    (written : w₁.trace = w.trace ++ trace) (started : w₁.started = trace.started)
    (settled : w₁.Settled) (first : w₁.trace.firstCall run = some call)
    (outsider : call.caller ≠ .group)
    (soon : w₁.now ≤ max call.time (w.now + services.length * settings.startupTimeout.ceilMillis))
    (lost : trace.started.length < services.length →
      call.time ≤ w.now + services.length * settings.startupTimeout.ceilMillis) :
    (stopAll run settings.stopTimeout).Yields w₁
      (fun _ w' => ∃ trace,
        Concluded settings run services w (some (.cancelled call.cause)) w' trace)
      fun halt w' => ∃ trace, Cut settings run services w halt w' trace := by
  -- Stops take no call back, so that the first call is the same before and after them.
  refine (stopAll_yields raced distinct written started settled (first ▸ rfl)).mono ?_ ?_
  -- All services were stopped, and the run has ended by its latest time.
  · rintro _ w' ⟨later, same, kept, lawful, complete, stopped⟩
    have first' : w'.trace.firstCall run = some call := by rw [same, firstCall_of_prefix first]
    refine ⟨trace ++ later, {
      written := by rw [same, written, List.append_assoc]
      lawful, complete
      called := ⟨call, first', outsider, rfl⟩
      soon := fun call' called' => ?_
      lost := fun short call' called' => ?_ }⟩
    · cases first'.symm.trans called'
      simp only [Settings.latest, kept]
      omega
    · cases first'.symm.trans called'
      exact lost (kept ▸ short)
  -- A stop broke off, and then the reason of that is the excuse.
  · rintro halt w' ⟨later, same, kept, lawful, breaks⟩
    have first' : w'.trace.firstCall run = some call := by rw [same, firstCall_of_prefix first]
    refine ⟨trace ++ later, by rw [same, written, List.append_assoc], lawful, ?_⟩
    refine Breaks.excuse (kept.symm ▸ breaks) (fun service member => ?_) first' soon
      (kept.symm ▸ lost)
    exact raced.order.subset (kept ▸ List.mem_reverse.mp member)

/-- A supervised run that is ready keeps the law of stops and ends with the cause of its first call,
unless it is cut. -/
theorem supervise_yields (ready : w.Ready group run) (distinct : services.Nodup) :
    (supervise settings group run services).Yields w
      (fun result w' => ∃ trace, Concluded settings run services w result w' trace)
      fun halt w' => ∃ trace, Cut settings run services w halt w' trace := by
  -- Nobody starts anything before the launches, as only the watcher was spawned.
  have settled : (w.watching group run).Settled := fun service starting =>
    ready.settled service ((watching_follows group run w).starting service starting)
  have launched :
    (startAll group run settings.startupTimeout services).Yields (w.watching group run) _ _ :=
    (startAll_yields services distinct ready.supervised ready.going fun service _ =>
      settled service).and
      (startAll_tracked settings.startupTimeout services (w.watching group run))
  simp only [supervise, yields_bind, yields_answer, yields_change, yields_look, yields_notice,
    yields_pure]
  refine launched.mono ?_ ?_
  -- The launch loop, the wait for the group and the stops: each begins where the one before left
  -- the world.
  · rintro _ w₁ ⟨⟨supervised, trace, launches⟩, keeps⟩
    have said : Does w₁ (w₁.notice .main (.waiting w₁.started.length)) := .tells _ w₁
    have tracked : w₁.Tracked group :=
      keeps (settled.tracked ⟨_, ready.supervised.listed.choose_spec⟩)
    have lost : trace.started.length < services.length →
      ∃ call, w₁.trace.firstCall run = some call ∧
        call.time ≤ w.now + services.length * settings.startupTimeout.ceilMillis :=
      launches.called supervised.sound ready.timed
    -- The launches are over: the wait keeps what it is told of them and settles the starts.
    have waited : (waitGroup group).Yields (w₁.notice .main (.waiting w₁.started.length)) _ _ :=
      (waitGroup_follows group _).and
        ((waitGroup_yields ((steady_supervised _ _ _).does said supervised)).and
        (waitGroup_settles ((steady_tracked group).does said tracked)))
    refine waited.mono ?_ ?_
    -- The group is done; its result is the cause of the first call, and the stops conclude.
    · rintro result w₂ ⟨follows, joined, settled₂⟩
      obtain ⟨call, first, outsider, rfl⟩ := joined.called
      simp only [noticeEnd, yields_notice]
      have follows₃ := ((notice_follows .main _).trans follows).trans
        (notice_follows .main (.runEnded (.cancelled call.cause)))
      obtain ⟨more, written, raced, kept⟩ := launches.raced_append settled follows₃
      have settled₃ : (w₂.notice .main (.runEnded (.cancelled call.cause))).Settled := settled₂
      have soon : w₂.now ≤ max call.time w₁.now := joined.soon call first
      have early : w₁.now ≤ w.now + services.length * settings.startupTimeout.ceilMillis :=
        launches.soon
      have first₃ : (w₂.notice .main (.runEnded (.cancelled call.cause))).trace.firstCall run =
        some call :=
        (notice_follows .main _).grows.firstCall first
      refine stopAll_concludes raced distinct ?_ ?_ settled₃ first₃ outsider ?_ fun short => ?_
      · rw [written, launches.written, List.append_assoc]
        rfl
      · rw [kept]
        exact joined.started.trans launches.started
      · exact Nat.le_trans soon (by omega)
      · obtain ⟨call', first', timely⟩ := lost (kept ▸ short)
        cases first₃.symm.trans (follows₃.grows.firstCall first')
        exact timely
    -- The wait was cut, and nothing was stopped yet.
    · rintro halt w₂ ⟨follows, lasts, _⟩
      have follows₂ := (notice_follows .main _).trans follows
      obtain ⟨more, written, raced, kept⟩ := launches.raced_append settled follows₂
      have early : w₁.now ≤ w.now + services.length * settings.startupTimeout.ceilMillis :=
        launches.soon
      refine ⟨trace ++ more, ?_, raced.racing.stopsLawfully, ?_⟩
      · rw [written, launches.written, List.append_assoc]
        rfl
      -- The process is gone, or the time of the wait ran out at the horizon.
      · rcases lasts with ⟨code, rfl, gone⟩ | ⟨rfl, reached, soon⟩
        · exact .gone code gone
        · have soon : ∀ call, w₂.trace.firstCall run = some call →
            w₂.now ≤ max call.time w₁.now := soon
          refine .overdue reached (fun call first => ?_) fun short => ?_ <;>
            simp only [Settings.latest]
          · have := soon call first
            omega
          · obtain ⟨call, first, timely⟩ := lost (kept ▸ short)
            have := soon call (follows₂.grows.firstCall first)
            omega
  -- A launch was cut.
  · rintro halt w₁ ⟨⟨_, _, fails, trace, written, racing⟩, _⟩
    exact ⟨trace, written, racing.stopsLawfully, Fails.excuse trace fails⟩

/-- A group that is dropped afterwards changes nothing of how a run was cut. -/
theorem Cut.dropGroup {halt : Halt} {w' : World} {trace : Trace}
    (cut : Cut settings run services w halt w' trace) (group : GroupId) :
    Cut settings run services w halt (w'.dropGroup group) trace := by
  -- The excuses speak of the clock, the process and the trace, and of none of these when a group is
  -- dropped.
  obtain ⟨written, lawful, excuse⟩ := cut
  obtain ⟨tasks, ready, groups, same⟩ := dropGroup_eq group w'
  rw [same]
  refine ⟨written, lawful, ?_⟩
  cases excuse with
  | gone code exited => exact .gone code exited
  | overdue reached soon lost => exact .overdue reached soon lost
  | beyond done now few ahead beyond => exact .beyond done now few ahead beyond
  | stopPanicked service member payload panics => exact .stopPanicked service member payload panics

/-- A supervisor that starts services in a run that is ready keeps the law of stops and gives the
cause of the first call. -/
theorem startServices_yields {supervisor : Supervisor} (own : supervisor.group = some group)
    (ready : w.Ready group run) (distinct : services.Nodup) :
    (startServices supervisor run services).Yields w
      (fun result w' => ∃ trace, Concluded supervisor.settings run services w result w' trace)
      fun halt w' => ∃ trace, Cut supervisor.settings run services w halt w' trace := by
  simp only [startServices, own, yields_tryCatch, yields_bind, yields_change, yields_throw]
  exact (supervise_yields ready distinct).mono (fun _ _ concluded => concluded)
    fun _ _ cut => cut.imp fun _ cut => cut.dropGroup group

end Flow

end Warden.Supervision
