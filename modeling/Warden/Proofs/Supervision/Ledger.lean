import Warden.Proofs.Supervision.Accounts

/-!
The ledger of launches: every start that was launched is accounted for, and the first one that was
lost is to blame.
-/

namespace Warden.Supervision

/-- What has become of a start that is lost to its run. -/
inductive Loss
  | refused (error : String)
  | panicked
  | timedOut
deriving Repr, DecidableEq, Inhabited

/-- The cause that fits the loss of a service. -/
def Loss.cause (service : Placed) (deadline : Duration) : Loss → Cause
  | refused error => .startFailed service.name error
  | panicked => .startFailed service.name startPanic
  | timedOut => .startTimeout service.name deadline

/-- The error with which the loss of a service is logged. -/
def Loss.notice (service : Placed) (deadline : Duration) : Loss → Notice
  | refused error => .startFailed service error
  | panicked => .startPanicked service
  | timedOut => .startTimedOut service deadline

/-- The loss that there is when a launch has come out like this and its start has ended like this
since. -/
def Launched.loss : Launched → Option Ending → Option Loss
  | .failed, some (.refused error) => some (.refused error)
  | .failed, some (.panicked _) => some .panicked
  -- A start that was given up is lost, however it goes on.
  | .timedOut, _ => some .timedOut
  | _, _ => none

/-- A loss remains what it was when the start goes on. -/
theorem loss_remains {outcome : Launched} {ending ending' : Option Ending} {loss : Loss}
    (lost : outcome.loss ending = some loss) (kept : ending.isSome = true → ending' = ending) :
    outcome.loss ending' = some loss := by
  -- A start that had ended stays so; one that had not is lost only if it was given up.
  cases ending with
  | some last => rwa [kept rfl]
  | none =>
    cases outcome with
    | timedOut => exact lost
    | _ => cases lost

/-- Every loss is logged as an error, under the name of its service. -/
theorem entry_loss (service : Placed) (deadline : Duration) (loss : Loss) :
    (loss.notice service deadline).entry.severity = .error ∧
      ("service", service.name) ∈ (loss.notice service deadline).entry.fields := by
  cases loss <;> exact ⟨rfl, .head _⟩

/-- The name of a start that an event says is abandoned. -/
def Event.abandoning? : Event → Option String
  | .notice _ (.abandoning name) => some name
  | _ => none

/-- The names of the starts that were abandoned, in order. -/
def Trace.abandonings (trace : Trace) : List String :=
  trace.view Event.abandoning?

/-- The launches among which each one stands with the task of its start, if the first start was
spawned as this task. -/
def enrolled (base : TaskId) (done : List (Placed × Launched)) :
    List ((Placed × Launched) × TaskId) :=
  done.zipIdx base

/-- A new launch stands with the next task. -/
theorem enrolled_append (base : TaskId) (done : List (Placed × Launched)) (service : Placed)
    (outcome : Launched) :
    enrolled base (done ++ [(service, outcome)]) = enrolled base done ++
      [((service, outcome), base + done.length)] := by
  simp [enrolled, List.zipIdx_append]

/-- Without the tasks the launches are what they were. -/
theorem enrolled_fst (base : TaskId) (done : List (Placed × Launched)) :
    (enrolled base done).map (·.1) = done :=
  List.zipIdx_map_fst base done

/-- The log holds the error of a loss; only of a panic it need not, if the run was cancelled when
the launcher called it off. -/
def Loud (service : Placed) (run : RunId) (deadline : Duration) (before since : Trace)
    (loss : Loss) : Prop :=
  (∃ time origin, ⟨time, .notice origin (loss.notice service deadline)⟩ ∈ since) ∨
    loss = .panicked ∧ Hushed service run (before ++ since)

/-- What is in the log stays there, and a panic that was hushed up stays so. -/
theorem Loud.append {service : Placed} {run : RunId} {deadline : Duration} {before since : Trace}
    {loss : Loss} (loud : Loud service run deadline before since loss) (more : Trace) :
    Loud service run deadline before (since ++ more) loss := by
  rcases loud with ⟨time, origin, said⟩ | ⟨panicked, hushed⟩
  · exact .inl ⟨time, origin, List.mem_append_left more said⟩
  · exact .inr ⟨panicked, by simpa using hushed.append more⟩

/-- A verdict on a launch that was lost is spoken aloud. -/
theorem Verdict.loud {service : Placed} {run : RunId} {deadline : Duration} {before since : Trace}
    {outcome : Launched} {ending : Option Ending} {events : List Event}
    (verdict : Verdict service run deadline (before ++ since) outcome ending events)
    (within : events.Sublist (since.map (·.event))) (lost : outcome ≠ .started) :
    ∃ loss, outcome.loss ending = some loss ∧ Loud service run deadline before since loss := by
  -- What a verdict lists has been written.
  have said : ∀ {origin : Origin} {notice : Notice}, .notice origin notice ∈ events →
      ∃ time origin, ⟨time, .notice origin notice⟩ ∈ since := by
    intro origin notice member
    obtain ⟨⟨time, _⟩, listed, rfl⟩ := List.mem_map.mp (within.subset member)
    exact ⟨time, origin, listed⟩
  -- One case for each verdict: it lists the notice of its loss, but for a panic that was hushed up.
  cases verdict with
  | started => exact absurd rfl lost
  | refused error => exact ⟨.refused error, rfl, .inl (said (.tail _ (.head _)))⟩
  | panicked payload => exact ⟨.panicked, rfl, .inl (said (.tail _ (.head _)))⟩
  | hushed payload hushed => exact ⟨.panicked, rfl, .inr ⟨rfl, hushed⟩⟩
  | timedOut => exact ⟨.timedOut, rfl, .inl (said (.head _))⟩

namespace World

variable {group : GroupId} {service : Placed} {run : RunId} {deadline : Duration} {id base : TaskId}
  {before : Trace} {outcome : Launched} {done : List (Placed × Launched)} {w w' : World}

/-- The run was blamed on one service before all others, for what has become of its start. -/
def Blamed (run : RunId) (deadline : Duration) (before : Trace) (service : Placed)
    (outcome : Launched) (id : TaskId) (w : World) : Prop :=
  ∃ (task : Task) (loss : Loss) (others : List Cause), w.task? id = some task ∧
    task.duty = .start service ∧
    outcome.loss task.ending = some loss ∧
      w.Saw (blameOf run) before (loss.cause service deadline :: others)

/-- The first one who was blamed remains so. -/
theorem Blamed.remains (blamed : w.Blamed run deadline before service outcome id)
    (written : ∃ later : Trace, w'.trace = w.trace ++ later)
    (remains : ∀ {task}, w.task? id = some task → ∃ task', w'.task? id = some task' ∧
      task.Remains task') :
    w'.Blamed run deadline before service outcome id := by
  obtain ⟨task, loss, others, found, duty, lost, saw⟩ := blamed
  obtain ⟨later, written⟩ := written
  -- The task may have gone on since; its loss remains what it was.
  obtain ⟨task', found', remains⟩ := remains found
  exact ⟨task', loss, _, found', remains.duty.trans duty, loss_remains lost remains.ended,
    saw.append written⟩

/-- Whoever was blamed remains so, whatever happens next. -/
theorem Blamed.leads (blamed : w.Blamed run deadline before service outcome id)
    (leads : Leads everybody w w') :
    w'.Blamed run deadline before service outcome id :=
  blamed.remains leads.trace leads.remains

/-- The launch of a service is reported: if it was lost, the log holds the error. -/
def Reported (run : RunId) (deadline : Duration) (before : Trace) (service : Placed)
    (outcome : Launched) (id : TaskId) (w : World) : Prop :=
  ∃ (task : Task) (since : Trace), w.task? id = some task ∧ task.duty = .start service ∧
    w.trace = before ++ since ∧
    (outcome ≠ .started → ∃ loss, outcome.loss task.ending = some loss ∧
      Loud service run deadline before since loss)

/-- A launch that was reported remains so, whatever happens next. -/
theorem Reported.leads (reported : w.Reported run deadline before service outcome id)
    (leads : Leads everybody w w') :
    w'.Reported run deadline before service outcome id := by
  obtain ⟨task, since, found, duty, written, loud⟩ := reported
  obtain ⟨task', found', remains⟩ := leads.remains found
  obtain ⟨more, written'⟩ := leads.trace
  refine ⟨task', since ++ more, found', remains.duty.trans duty,
    by rw [written', written, List.append_assoc], ?_⟩
  -- The words that were there are still there, and what came since only adds to the log.
  intro different
  obtain ⟨loss, lost, said⟩ := loud different
  exact ⟨loss, loss_remains lost remains.ended, said.append more⟩

/-- A launch that is accounted for is reported. -/
theorem Accounted.reported
    (accounted : w.Accounted (sayingOf service) service run deadline id before outcome) :
    w.Reported run deadline before service outcome id := by
  obtain ⟨-, ending, events, observed, verdict⟩ := accounted
  obtain ⟨task, since, found, duty, -, -, rfl, written, within, -⟩ := observed.own
  exact ⟨task, since, found, duty, written, fun lost => (written ▸ verdict).loud within lost⟩

/-- What was counted since the launches began are these, and no start was abandoned. -/
structure Booked (before : Trace) (done : List (Placed × Launched)) (w : World) : Prop where
  launches : w.Saw Event.resolution? before done
  unabandoned : w.Saw Event.abandoning? before []

/-- A launch that is booked is counted after those before it. -/
theorem Booked.booking (booked : w.Booked before done) (service : Placed) (outcome : Launched) :
    (w.booking service outcome).Booked before (done ++ [(service, outcome)]) := by
  -- What a booking writes counts the launch once, and abandons no start.
  have counted : (service.booking outcome w.started.length).filterMap Event.resolution? =
    [(service, outcome)] := by
    unfold Placed.booking
    split <;> rfl
  have unabandoned : (service.booking outcome w.started.length).filterMap Event.abandoning? =
    [] := by
    unfold Placed.booking
    split <;> rfl
  have launches : (w.booking service outcome).Saw Event.resolution? before _ :=
    booked.launches.append rfl
  have abandons : (w.booking service outcome).Saw Event.abandoning? before _ :=
    booked.unabandoned.append rfl
  rw [Trace.view_stamped, counted] at launches
  rw [Trace.view_stamped, unabandoned] at abandons
  exact ⟨launches, abandons⟩

/-- The launches so far are accounted for, each with the task of its start. -/
def Accounts (run : RunId) (deadline : Duration) (base : TaskId) (before : Trace)
    (done : List (Placed × Launched)) (w : World) : Prop :=
  ∀ launch ∈ enrolled base done,
    w.Accounted (sayingOf launch.1.1) launch.1.1 run deadline launch.2 before launch.1.2

/-- The first service whose launch was lost is to blame. -/
def Guilty (run : RunId) (deadline : Duration) (base : TaskId) (before : Trace)
    (done : List (Placed × Launched)) (w : World) : Prop :=
  ∀ won service outcome lost, done = won ++ (service, outcome) :: lost →
    (∀ launch ∈ won, launch.2 = .started) →
    outcome ≠ .started → w.Blamed run deadline before service outcome (base + won.length)

/-- A new launch that is accounted for joins the others. -/
theorem Accounts.append (accounts : w.Accounts run deadline base before done)
    (last : w.Accounted (sayingOf service) service run deadline (base + done.length)
      before outcome) :
    w.Accounts run deadline base before (done ++ [(service, outcome)]) := by
  intro launch member
  rw [enrolled_append] at member
  rcases List.mem_append.mp member with earlier | newest
  · exact accounts launch earlier
  · rw [List.mem_singleton.mp newest]
    exact last

/-- Either a launch is the first one that was lost, or it changes nothing about who is to blame. -/
theorem Guilty.append (guilty : w.Guilty run deadline base before done)
    (last : (∀ launch ∈ done, launch.2 = .started) → outcome ≠ .started →
      w.Blamed run deadline before service outcome (base + done.length)) :
    w.Guilty run deadline base before (done ++ [(service, outcome)]) := by
  intro won other outcome' lost split started different
  -- The first loss is this launch, if nothing follows it in the list, or one of those before.
  rcases List.eq_nil_or_concat lost with rfl | ⟨earlier, newest, rfl⟩
  -- This launch is the first loss, so that all before it were won.
  · obtain ⟨rfl, same⟩ := List.append_inj' split rfl
    cases same
    exact last started different
  · have whole : done ++ [(service, outcome)] = (won ++ (other, outcome') :: earlier) ++
      [newest] := by simpa using split
    exact guilty won other outcome' earlier (List.append_inj' whole rfl).1 started different

/-- As long as no launch was lost, no start goes on and the run is called off by none of its own. -/
def Innocent (run : RunId) (before : Trace) (done : List (Placed × Launched)) (w : World) : Prop :=
  (∀ launch ∈ done, launch.2 = .started) → w.Settled ∧ w.Saw (blameOf run) before []

/-- What is known from the first launch on: every start is accounted for and tracked, nothing was
said of any service that was not launched, and the first one that was lost is to blame. -/
structure Ledger (group : GroupId) (run : RunId) (deadline : Duration) (base : TaskId)
    (before : Trace) (done : List (Placed × Launched)) (w : World) : Prop where
  sound : w.Sound
  opened : run < w.runs.length
  count : w.tasks.length = base + done.length
  tracked : ∃ g, w.groups[group]? = some g ∧ g.detached = (enrolled base done).map fun launch =>
    (launch.1.1.name, launch.2)
  accounts : w.Accounts run deadline base before done
  guilty : w.Guilty run deadline base before done
  others : ∀ service, service ∉ done.map (·.1) → ¬ w.Starting service ∧
    w.Saw (sayingOf service) before []

/-- What the supervising flow does beside its starts, and says and calls without a word about
them. -/
structure Spares (group : GroupId) (w w' : World) : Prop where
  tasks : w'.tasks = w.tasks
  runs : w'.runs.length = w.runs.length
  awaiting : w'.awaiting = w.awaiting
  tracked : ∀ g, w.groups[group]? = some g → ∃ g', w'.groups[group]? = some g' ∧
    g'.detached = g.detached
  sound : w.Sound → w'.Sound
  sayings : ∀ service, Unseen (sayingOf service) w w'
  written : ∃ later : Trace, w'.trace = w.trace ++ later

/-- What spares all starts leaves the ledger as it is. -/
theorem Ledger.spared (ledger : w.Ledger group run deadline base before done)
    (spares : Spares group w w') :
    w'.Ledger group run deadline base before done := by
  have tasks : ∀ id, w'.task? id = w.task? id := fun id => by simp only [task?, spares.tasks]
  -- No task is touched, so that no start goes on that did not before.
  have idle : ∀ service, w'.Starting service → w.Starting service := by
    rintro service ⟨id, task, found, goes⟩
    exact ⟨id, task, (tasks id).symm.trans found, goes⟩
  exact {
    sound := spares.sound ledger.sound
    opened := spares.runs ▸ ledger.opened
    count := by rw [spares.tasks, ledger.count]
    tracked := by
      obtain ⟨g, listed, detached⟩ := ledger.tracked
      obtain ⟨g', listed', same⟩ := spares.tracked g listed
      exact ⟨g', listed', same.trans detached⟩
    accounts := fun launch member =>
      have accounted := ledger.accounts launch member
      accounted.spared tasks spares.runs (spares.awaiting ▸ accounted.unheard)
        (spares.sayings launch.1.1)
    guilty := fun won service outcome lost split started different =>
      (ledger.guilty won service outcome lost split started different).remains spares.written
        fun {task} found => ⟨task, (tasks _).trans found, .refl task⟩
    others := by
      intro service other
      obtain ⟨still, unseen⟩ := ledger.others service other
      exact ⟨fun starting => still (idle service starting),
        unseen.unseen (spares.sayings service)⟩ }

/-- While the supervising flow waits for something else, the ledger is kept. -/
theorem Ledger.beats {goal : World → Bool} {alarm : Nat}
    (ledger : w.Ledger group run deadline base before done) (beats : Beats goal alarm w w') :
    w'.Ledger group run deadline base before done := by
  have passes := beats.passes
  have leads : Leads everybody w w' := Flow.steady_leads.beats beats
  -- Each account follows what its own task does, and of services that are not enrolled nothing is
  -- said.
  exact {
    sound := passes.sound ledger.sound
    opened := passes.runs ▸ ledger.opened
    count := passes.count.trans ledger.count
    tracked := by
      rw [passes.groups]
      exact ledger.tracked
    accounts := fun launch member => (ledger.accounts launch member).beats (sayingOf_tells _) beats
    guilty := fun won service outcome lost split started different =>
      (ledger.guilty won service outcome lost split started different).leads leads
    others := by
      intro service other
      obtain ⟨still, unseen⟩ := ledger.others service other
      exact ⟨fun starting => still (passes.starting starting),
        unseen.unseen ((silent_of_idle still).beats (sayingOf_tells service) beats).2⟩ }

/-- What was said of one service since a trace never is both that its start was refused and that it
panicked. -/
def Coherent (before : Trace) (service : Placed) (w : World) : Prop :=
  ∃ sayings, w.Saw (sayingOf service) before sayings ∧ ∀ error, .refused error ∈ sayings →
    .panicked ∉ sayings

/-- Nothing contradicts itself of which nothing was said. -/
theorem Saw.coherent (saw : w.Saw (sayingOf service) before []) : w.Coherent before service :=
  ⟨[], saw, fun _ refused => absurd refused List.not_mem_nil⟩

/-- A launch that is cut has not said more than the start. -/
theorem Known.coherent
    (known : w.Known (sayingOf service) service run id before (Pending service run deadline)) :
    w.Coherent before service := by
  obtain ⟨ending, events, observed, pending⟩ := known
  obtain ⟨task, later, -, -, -, -, -, written, -, seen⟩ := observed.own
  refine ⟨_, ⟨later, written, seen⟩, fun error => ?_⟩
  cases pending with
  | racing =>
    -- A start that is not judged yet has said at most that it was refused.
    have natural := observed.natural
    rcases ending with _ | last
    · simp [Placed.reports]
    · cases last <;> simp_all [Placed.reports, List.filterMap_cons, sayingOf, Ending.ofStart]
  | held verdict => exact (verdict.told observed.natural).coherent

/-- Of each launch it is known how it came out and what was said of its start. -/
theorem Accounts.told (accounts : w.Accounts run deadline base before done)
    {launch : Placed × Launched} (member : launch ∈ done) :
    ∃ ending sayings, Told deadline launch.2 ending sayings ∧
      w.Saw (sayingOf launch.1) before sayings := by
  rw [← enrolled_fst base done] at member
  obtain ⟨entry, listed, rfl⟩ := List.mem_map.mp member
  obtain ⟨task, sayings, -, -, -, told, saw⟩ := (accounts entry listed).told
  exact ⟨task.ending, sayings, told, saw⟩

/-- What was said of a service that was launched does not contradict itself. -/
theorem Accounts.coherent (accounts : w.Accounts run deadline base before done)
    (launched : service ∈ done.map (·.1)) :
    w.Coherent before service := by
  obtain ⟨launch, member, rfl⟩ := List.mem_map.mp launched
  obtain ⟨ending, sayings, told, saw⟩ := accounts.told member
  exact ⟨sayings, saw, fun _ => told.coherent⟩

/-- Whoever says nothing of a service leaves what was said of it coherent. -/
theorem Coherent.unseen (coherent : w.Coherent before service)
    (unseen : Unseen (sayingOf service) w w') :
    w'.Coherent before service :=
  coherent.imp fun _ said => said.imp_left (·.unseen unseen)

/-- What is known of launches ever after, wherever they were cut. -/
structure Filed (run : RunId) (deadline : Duration) (base : TaskId) (before : Trace)
    (done : List (Placed × Launched)) (w : World) : Prop where
  launches : w.Saw Event.resolution? before done
  reported :
    ∀ launch ∈ enrolled base done, w.Reported run deadline before launch.1.1 launch.1.2 launch.2
  told : ∀ launch ∈ done, ∃ ending sayings, Told deadline launch.2 ending sayings ∧
    w.Saw (sayingOf launch.1) before sayings
  guilty : w.Guilty run deadline base before done
  coherent : ∀ service, w.Coherent before service

/-- What happens without a word about any start, and without a launch. -/
structure Mute (w w' : World) : Prop where
  leads : Leads everybody w w'
  sayings : ∀ service, Unseen (sayingOf service) w w'
  launches : Unseen Event.resolution? w w'

/-- What happens without a word keeps all that is known of the launches. -/
theorem Filed.mute (filed : w.Filed run deadline base before done) (mute : Mute w w') :
    w'.Filed run deadline base before done where
  launches := filed.launches.unseen mute.launches
  reported := fun launch member => (filed.reported launch member).leads mute.leads
  told := by
    intro launch member
    obtain ⟨ending, sayings, told, saw⟩ := filed.told launch member
    exact ⟨ending, sayings, told, saw.unseen (mute.sayings launch.1)⟩
  guilty := fun won service outcome lost split started different =>
    (filed.guilty won service outcome lost split started different).leads mute.leads
  coherent := fun service => (filed.coherent service).unseen (mute.sayings service)

/-- A launch that is lost is blamed on its service, if nobody was blamed before. -/
theorem Accounted.blamed
    (accounted : w.Accounted (blameOf run) service run deadline id before outcome)
    (lost : outcome ≠ .started) : w.Blamed run deadline before service outcome id := by
  obtain ⟨-, ending, events, observed, verdict⟩ := accounted
  obtain ⟨task, later, found, duty, -, -, rfl, written, -, seen⟩ := observed.own
  -- The first call is the start's own if it was refused, and the launcher's otherwise.
  obtain ⟨loss, others, same, blames⟩ : ∃ loss others, outcome.loss task.ending = some loss ∧
      events.filterMap (blameOf run) = loss.cause service deadline :: others := by
    generalize task.ending = ending at verdict
    cases verdict with
    | started => exact absurd rfl lost
    | refused error =>
      exact ⟨.refused error, [.startFailed service.name startPanic], rfl, by
        simp [Placed.reports, List.filterMap_cons, blameOf, Caller.isOutside, Loss.cause]⟩
    | panicked payload =>
      exact ⟨.panicked, [], rfl,
        by simp [List.filterMap_cons, blameOf, Caller.isOutside, Loss.cause]⟩
    | hushed payload hushed =>
      exact ⟨.panicked, [], rfl, by simp [blameOf, Caller.isOutside, Loss.cause]⟩
    | timedOut => exact ⟨.timedOut, _, rfl, by
        simp [List.filterMap_cons, blameOf, Caller.isOutside, Loss.cause]; rfl⟩
  exact ⟨task, loss, others, found, duty, same, later, written, seen.trans blames⟩

/-- A launch that is won is blamed on nobody, and its start has ended. -/
theorem Accounted.unblamed
    (accounted : w.Accounted (blameOf run) service run deadline id before .started) :
    w.Saw (blameOf run) before [] ∧ w.isLive id = false := by
  obtain ⟨-, ending, events, observed, verdict⟩ := accounted
  obtain ⟨task, later, found, -, -, -, rfl, written, -, seen⟩ := observed.own
  generalize ended : task.ending = ending at verdict
  cases verdict
  exact ⟨⟨later, written, seen⟩, by simp [isLive, found, ended]⟩

/-- Wherever the ledger is kept the launches can be cut. -/
theorem Ledger.filed (ledger : w.Ledger group run deadline base before done)
    (booked : w.Booked before done) :
    w.Filed run deadline base before done := by
  refine ⟨booked.launches, fun launch member => (ledger.accounts launch member).reported,
    fun launch => ledger.accounts.told, ledger.guilty, fun service => ?_⟩
  -- A service was launched, and then its account tells, or it was not.
  by_cases launched : service ∈ done.map (·.1)
  · exact ledger.accounts.coherent launched
  · -- Of a service that was not launched nothing was said.
    exact (ledger.others service launched).2.coherent

/-- What is known of all other services while one is launched. -/
structure Meanwhile (group : GroupId) (run : RunId) (deadline : Duration) (base : TaskId)
    (before : Trace) (done : List (Placed × Launched)) (service : Placed) (w w' : World) :
    Prop where
  passes : Passes (w.launching group run service) w'
  booked : w'.Booked before done
  accounts : w'.Accounts run deadline base before done
  guilty : w'.Guilty run deadline base before done
  others : ∀ other, other ≠ service → other ∉ done.map (·.1) → w'.Saw (sayingOf other) before []

/-- A launch that comes to its end is entered in the ledger. -/
theorem Meanwhile.ledger (meanwhile : Meanwhile group run deadline base before done service w w')
    (ledger : w.Ledger group run deadline base before done)
    (accounted : w'.Accounted (sayingOf service) service run deadline w.tasks.length before outcome)
    (blames : (∀ launch ∈ done, launch.2 = .started) →
      w'.Accounted (blameOf run) service run deadline w.tasks.length before outcome) :
    w'.Ledger group run deadline base before (done ++ [(service, outcome)]) where
  sound := meanwhile.passes.sound (ledger.sound.launching service)
  opened := meanwhile.passes.runs ▸ ledger.opened
  count := by
    -- One task more than before: the start of this service.
    rw [meanwhile.passes.count, List.length_append]
    show (w.tasks ++ [startTask run service]).length = _
    rw [List.length_append, ledger.count]
    rfl
  tracked := by
    obtain ⟨g, listed, detached⟩ := ledger.tracked
    -- The group tracks the new start under the name of its service.
    refine ⟨{ g with detached := g.detached ++ [(service.name, w.tasks.length)] }, ?_, ?_⟩
    · rw [meanwhile.passes.groups]
      simp [World.launching, emit, spawnDetached, changeGroup, spawn,
        List.getElem?_modify_eq, listed]
    · rw [enrolled_append, List.map_append, ← ledger.count, ← detached]
      rfl
  accounts := meanwhile.accounts.append (ledger.count ▸ accounted)
  guilty := meanwhile.guilty.append fun started different =>
    ledger.count ▸ (blames started).blamed different
  others := by
    intro other unlaunched
    rw [List.map_append, List.mem_append, not_or] at unlaunched
    have different : other ≠ service := by simpa using unlaunched.2
    -- The only start that was spawned is the one of this service.
    refine ⟨fun starting => ?_, meanwhile.others other different unlaunched.1⟩
    exact (starting_launching (meanwhile.passes.starting starting)).elim different
      (ledger.others other unlaunched.1).1

/-- A launch that is cut is not entered, but what it said of its start can be told. -/
theorem Meanwhile.filed (meanwhile : Meanwhile group run deadline base before done service w w')
    (coherent : w'.Coherent before service) : w'.Filed run deadline base before done := by
  refine ⟨meanwhile.booked.launches, fun launch member =>
    (meanwhile.accounts launch member).reported,
    fun launch => meanwhile.accounts.told, meanwhile.guilty, fun other => ?_⟩
  -- The launch that is cut, one that was entered before, or none at all.
  by_cases same : other = service
  · exact same ▸ coherent
  · by_cases launched : other ∈ done.map (·.1)
    · exact meanwhile.accounts.coherent launched
    · exact (meanwhile.others other same launched).coherent

/-- A launch that is won leaves everybody innocent. -/
theorem Meanwhile.innocent (meanwhile : Meanwhile group run deadline base before done service w w')
    (innocent : w.Innocent run before done)
    (blames : (∀ launch ∈ done, launch.2 = .started) →
      w'.Accounted (blameOf run) service run deadline w.tasks.length before outcome) :
    w'.Innocent run before (done ++ [(service, outcome)]) := by
  intro started
  have before := fun launched member => started launched (List.mem_append_left _ member)
  obtain rfl : outcome = .started := started (service, outcome) (by simp)
  obtain ⟨saw, ended⟩ := (blames before).unblamed
  refine ⟨?_, saw⟩
  -- A start that goes on would be the one that was launched, which has ended, or it would have gone
  -- on before.
  rintro other ⟨id, task', found', live', duty, unaborted⟩
  obtain ⟨task, found, live, continues⟩ := meanwhile.passes.live found' live'
  rw [task?_launching] at found
  split at found
  · rename_i same
    simp [isLive, ← same, found', live'] at ended
  · exact (innocent before).1 other ⟨id, task, found, live, continues.duty ▸ duty,
      continues.aborted ▸ unaborted⟩

end World

/-- Tasks neither count launches nor say that starts are abandoned. -/
theorem Task.MayWrite.unbooked {task : Task} {event : Event} (writes : task.MayWrite event) :
    event.resolution? = none ∧ event.abandoning? = none := by
  -- Plain events are neither; the words of a start are three, and none of them is a count.
  rcases writes with plain | ⟨service, _, own⟩
  · cases event with
    | notice origin notice =>
      cases notice <;> simp_all [Event.isPlain, Event.resolution?, Event.abandoning?]
    | count count => cases count <;> simp_all [Event.isPlain, Event.resolution?, Event.abandoning?]
    | _ => simp_all [Event.isPlain, Event.resolution?, Event.abandoning?]
  -- The words of a start that is dropped and of one that is not are looked at together.
  · generalize task.aborted = dropped at own
    cases own <;> exact ⟨rfl, rfl⟩

namespace Flow

open World

variable {group : GroupId} {service : Placed} {run : RunId} {deadline : Duration} {base : TaskId}
  {before : Trace} {done : List (Placed × Launched)} {w : World}

/-- However a launch ends, what is known of the other services stays known. -/
theorem launch_meanwhile (ledger : w.Ledger group run deadline base before done)
    (booked : w.Booked before done) (fresh : service ∉ done.map (·.1)) :
    Meanwhile group run deadline base before done service w
      ((launch group run service deadline).run w).2 where
  passes := yields_end.mp (launch_within (steady_passes.attends _ _ _ _))
  booked := by
    -- A launch is counted when it is booked, and not before.
    have counts : Unseen Event.resolution? w ((launch group run service deadline).run w).2 :=
      yields_end.mp
      (launch_unseen (fun _ _ writes => writes.unbooked.1) rfl (fun _ => rfl) rfl rfl w)
    have abandons : Unseen Event.abandoning? w ((launch group run service deadline).run w).2 :=
      yields_end.mp
      (launch_unseen (fun _ _ writes => writes.unbooked.2) rfl (fun _ => rfl) rfl rfl w)
    exact ⟨booked.launches.unseen counts, booked.unabandoned.unseen abandons⟩
  accounts := by
    -- The start that is spawned is one of another service, and it is a new task.
    intro launched member
    have different : service ≠ launched.1.1 := by
      rintro rfl
      exact fresh (List.mem_map.mpr ⟨launched.1, List.fst_mem_of_mem_zipIdx member, rfl⟩)
    obtain ⟨old, accounted⟩ := (ledger.accounts launched member).launching different group
    exact yields_end.mp
      ((launch_within (attends_accounted different old)).mono (fun _ _ keeps => keeps accounted)
      fun _ _ keeps => keeps accounted)
  guilty := by
    -- The guilty one was found before this launch, and whatever happens leads on from there.
    intro won other outcome lost split started different
    have leads :
      Leads everybody (w.launching group run service)
        ((launch group run service deadline).run w).2 :=
      yields_end.mp (launch_within (steady_leads.attends _ _ _ _))
    exact (ledger.guilty won other outcome lost split started different).leads
      ((launching_leads _ _ _ w).trans leads)
  others := by
    -- A start of another service would have been going on before.
    intro other different unlaunched
    obtain ⟨idle, saw⟩ := ledger.others other unlaunched
    have silent : (w.launching group run service).Silent (sayingOf other) :=
      silent_of_idle fun starting => (starting_launching starting).elim different idle
    have unseen :
      Unseen (sayingOf other) (w.launching group run service)
        ((launch group run service deadline).run w).2 :=
      yields_end.mp
        ((launch_within (attends_silent (Ne.symm different))).mono
        (fun _ _ keeps => (keeps silent).2)
        fun _ _ keeps => (keeps silent).2)
    exact (saw.unseen (emit_unseen rfl)).unseen unseen

/-- A launch adds to the ledger, or is cut. -/
theorem launch_ledger (ledger : w.Ledger group run deadline base before done)
    (booked : w.Booked before done) (innocent : w.Innocent run before done)
    (fresh : service ∉ done.map (·.1)) :
    (launch group run service deadline).Yields w
      (fun outcome w' => w'.Ledger group run deadline base before (done ++ [(service, outcome)]) ∧
        w'.Booked before done ∧
        w'.Innocent run before (done ++ [(service, outcome)]))
      fun _ w' => w'.Filed run deadline base before done ∧ w'.Saw Event.abandoning? before [] := by
  -- What was said of this service so far is nothing, so that all words are those of this launch.
  obtain ⟨idle, unsaid⟩ := ledger.others service fresh
  have words : (launch group run service deadline).Yields w _ _ :=
    launch_verdict (sayingOf_tells service) (silent_of_idle idle) ledger.sound ledger.opened
  -- If nobody was blamed before, then the first blame is the one of this launch.
  have blames : (launch group run service deadline).Yields w
      (fun outcome w' => (∀ launch ∈ done, launch.2 = .started) →
        w'.Accounted (blameOf run) service run deadline w.tasks.length before outcome) fun _ _ =>
          True := by
    by_cases started : ∀ launch ∈ done, launch.2 = .started
    · obtain ⟨settled, unblamed⟩ := innocent started
      exact (launch_verdict (blameOf_tells run) settled.silent ledger.sound ledger.opened).mono
        (fun _ _ accounted _ => accounted.since unblamed) fun _ _ _ => trivial
    · have anyhow : (launch group run service deadline).Yields w (fun _ _ => True) fun _ _ =>
        True := yields_end.mpr trivial
      exact anyhow.mono (fun _ _ _ all => absurd all started) fun _ _ _ => trivial
  have meanwhile := yields_end.mpr (launch_meanwhile ledger booked fresh)
  -- The three together: the words of the launch, its blame, and what goes on meanwhile.
  refine ((words.and blames).and meanwhile).mono ?_ ?_
  · rintro outcome w' ⟨⟨accounted, blamed⟩, meanwhile⟩
    exact ⟨meanwhile.ledger ledger (accounted.since unsaid) blamed, meanwhile.booked,
      meanwhile.innocent innocent blamed⟩
  · rintro halt w' ⟨⟨⟨ending, events, observed, pending⟩, -⟩, meanwhile⟩
    -- A launch that is cut has no outcome, but what its start has said is known.
    have known :
      w'.Known (sayingOf service) service run w.tasks.length before
        (Pending service run deadline) :=
      ⟨ending, events, observed.since unsaid, pending⟩
    exact ⟨meanwhile.filed known.coherent, meanwhile.booked.unabandoned⟩

/-- Whoever takes no notice of what is counted and told of launches sees nothing of their
booking. -/
theorem booking_unseen {α : Type} {view : Event → Option α} {outcome : Launched}
    (counted : view (.count (.start service outcome)) = none)
    (told : view (.notice .main (.serviceStarted service)) = none)
    (shown : ∀ running, view (.running running) = none) :
    Unseen view w (w.booking service outcome) := by
  refine ⟨_, rfl, ?_⟩
  rw [Trace.view_stamped, Placed.booking, List.filterMap_cons_none counted]
  split <;> simp [told, shown]

/-- To book a launch spares all starts. -/
theorem booking_spares (service : Placed) (outcome : Launched) (w : World) :
    Spares group w (w.booking service outcome) := by
  refine ⟨rfl, rfl, rfl, fun g listed => ⟨g, listed, rfl⟩, ?_,
    fun _ => booking_unseen rfl rfl fun _ => rfl, _, rfl⟩
  refine (record_grows _ fun stamped member => ?_).sound
  obtain ⟨event, listed, rfl⟩ := List.mem_map.mp member
  -- A booking writes counts and notices, and none of these is a call.
  unfold Placed.booking at listed
  split at listed
  · simp only [List.mem_cons, List.not_mem_nil, or_false] at listed
    rcases listed with rfl | rfl | rfl <;> exact ⟨rfl, rfl⟩
  · cases List.mem_singleton.mp listed
    exact ⟨rfl, rfl⟩

/-- The launch loop enters all services in the ledger, or is cut. -/
theorem startAll_ledger (services : List Placed)
    (ledger : w.Ledger group run deadline base before done) (booked : w.Booked before done)
    (innocent : w.Innocent run before done) (distinct : (done.map (·.1) ++ services).Nodup) :
    (startAll group run deadline services).Yields w
      (fun _ w' => ∃ outcomes, outcomes.map (·.1) = services ∧
        w'.Ledger group run deadline base before (done ++ outcomes) ∧
        w'.Booked before (done ++ outcomes))
      fun _ w' => ∃ outcomes, outcomes.map (·.1) <+: services ∧
        w'.Filed run deadline base before (done ++ outcomes) ∧
        w'.Saw Event.abandoning? before [] := by
  -- By induction on the services: each is launched, entered and booked before the next one.
  induction services generalizing w done with
  | nil => exact ⟨[], rfl, by simpa using ledger, by simpa using booked⟩
  | cons service rest ih =>
    -- The names are distinct, so that the service is not among those that were launched before.
    simp only [startAll, yields_bind]
    have fresh : service ∉ done.map (·.1) := fun member =>
      (List.nodup_append.mp distinct).2.2 service member service List.mem_cons_self rfl
    refine (launch_ledger ledger booked innocent fresh).mono ?_ fun _ w' filed =>
      ⟨[], List.nil_prefix, by simpa using filed⟩
    rintro outcome w₁ ⟨ledger₁, booked₁, innocent₁⟩
    refine (book_written service outcome).mono ?_ fun _ _ halted => halted
    rintro _ _ rfl
    -- A booking touches neither starts nor blames, so that ledger and innocence carry over.
    have ledger₂ := ledger₁.spared (booking_spares service outcome w₁)
    have innocent₂ : (w₁.booking service outcome).Innocent run before
        (done ++ [(service, outcome)]) := fun started =>
      ⟨(innocent₁ started).1, (innocent₁ started).2.unseen (booking_unseen rfl rfl fun _ => rfl)⟩
    refine (ih ledger₂ (booked₁.booking service outcome) innocent₂ (by simpa using distinct)).mono
      ?_ ?_
    · rintro _ w₂ ⟨outcomes, names, ledger₃, booked₃⟩
      rw [List.append_assoc] at ledger₃ booked₃
      exact ⟨(service, outcome) :: outcomes, congrArg _ names, ledger₃, booked₃⟩
    · rintro _ w₂ ⟨outcomes, names, filed⟩
      rw [List.append_assoc] at filed
      exact ⟨(service, outcome) :: outcomes, List.cons_prefix_cons.mpr ⟨rfl, names⟩, filed⟩

end Flow

end Warden.Supervision
