import Mathlib.Data.List.Basic
import Warden.Proofs.Supervision.Feeding

/-!
The line of listeners: who holds the receiving end of the channel, who waits for it, and who is
still to come.
-/

namespace Warden.Supervision

/-- Whether a task is a listener that has not ended. -/
def Task.isListening (task : Task) : Bool :=
  task.ending.isNone && match task.duty with
    | .listener _ => true
    | _ => false

/-- Where a listener has its place, by what it waits for: it is still to come, it waits for the
receiving end, it has been passed it and is called, or it holds it and serves. -/
inductive Place (due : List TaskId) (channel : Channel) (id : TaskId) : Wait → Prop
  | coming (turn : id ∈ due) : Place due channel id .fresh
  | queued (listed : id ∈ channel.listeners) : Place due channel id .receiver
  | called (holds : channel.holder = some id) (turn : id ∈ due) : Place due channel id .receiver
  | serving (heard : Bool) (holds : channel.holder = some id)
    (awake : channel.slot.buffered = [] ∨ id ∈ due) :
    Place due channel id (.delivery heard)

/-- Whether a listener is still to come. -/
def isComing (listening : TaskId → Option Task) (id : TaskId) : Bool :=
  (listening id).any fun task => decide (task.wait = .fresh)

/-- All listeners in the order in which they serve: the one that holds the receiving end, those that
wait for it, and those that are still to come, by their turns. -/
def lineUp (listening : TaskId → Option Task) (due : List TaskId) (channel : Channel) :
    List TaskId :=
  channel.holder.toList ++ (channel.listeners ++ due.filter (isComing listening))

/-- Every listener has its place, and they serve in the order in which they were armed. -/
structure Line (listening : TaskId → Option Task) (due : List TaskId) (channel : Channel) :
    Prop where
  order : (lineUp listening due channel).Pairwise (· < ·)
  holds : ∀ id, channel.holder = some id → ∃ task, listening id = some task ∧ task.wait ≠ .fresh
  waits : ∀ id ∈ channel.listeners, ∃ task, listening id = some task ∧ task.wait = .receiver
  place : ∀ id task, listening id = some task → Place due channel id task.wait
  aborted : ∀ id task, listening id = some task → task.aborted = true → id ∈ due
  free : channel.holder = none → channel.listeners = []

variable {listening listening' : TaskId → Option Task} {due due' rest more : List TaskId}
  {channel channel' : Channel} {id : TaskId} {task : Task} {wait : Wait}

/-- A listener keeps its place while its turns stay due and the line only moves up, if it is woken
for what comes in. -/
theorem Place.mono (place : Place due channel id wait) (turn : id ∈ due → id ∈ due')
    (listed : id ∈ channel.listeners → id ∈ channel'.listeners ∨
      channel'.holder = some id ∧ id ∈ due')
    (holds : channel.holder = some id → channel'.holder = some id)
    (awake : channel.holder = some id → channel.slot.buffered = [] → channel'.slot.buffered = [] ∨
      id ∈ due') :
    Place due' channel' id wait := by
  -- One case for each place: whoever waits may have been called meanwhile, and all others stay
  -- where they are.
  cases place with
  | coming due => exact .coming (turn due)
  -- Whoever waited in the line still does, unless it has been called to serve.
  | queued member =>
    rcases listed member with member' | ⟨holds', due'⟩
    · exact .queued member'
    · exact .called holds' due'
  | called own due => exact .called (holds own) (turn due)
  | serving heard own ready =>
    -- It is awake as long as the channel is empty or its turn is due.
    refine .serving heard (holds own) ?_
    exact ready.elim (awake own) fun due => .inr (turn due)

/-- A listener that is fresh is on its way to the line. -/
theorem isComing_of_fresh (own : listening id = some task) (fresh : task.wait = .fresh) :
    isComing listening id = true := by
  simp [isComing, own, fresh]

/-- One that waits for anything is not. -/
theorem isComing_of_later (own : listening id = some task) (later : task.wait ≠ .fresh) :
    isComing listening id = false := by
  simp [isComing, own, later]

/-- And nobody is who does not listen. -/
theorem isComing_of_none (absent : listening id = none) : isComing listening id = false := by
  simp [isComing, absent]

namespace Line

/-- Whoever is still to come has its turn due. -/
theorem due_of_isComing (line : Line listening due channel)
    (coming : isComing listening id = true) : id ∈ due := by
  -- Its wait is fresh, and there is only one place for those.
  simp only [isComing, Option.any_eq_true, decide_eq_true_eq] at coming
  obtain ⟨task, own, fresh⟩ := coming
  have place := line.place id task own
  rw [fresh] at place
  cases place with
  | coming turn => exact turn

/-- Every listener stands in the line. -/
theorem mem_lineUp (line : Line listening due channel) (own : listening id = some task) :
    id ∈ lineUp listening due channel := by
  unfold lineUp
  -- The places are those of the three parts of the line.
  have place := line.place id task own
  generalize same : task.wait = wait at place
  cases place with
  | coming turn =>
    refine List.mem_append_right _ (List.mem_append_right _ (List.mem_filter.mpr ⟨turn, ?_⟩))
    exact isComing_of_fresh own same
  | queued listed => exact List.mem_append_right _ (List.mem_append_left _ listed)
  | called holds turn => exact List.mem_append_left _ (by simp [holds])
  | serving heard holds awake => exact List.mem_append_left _ (by simp [holds])

/-- Whoever stands in the line is a listener. -/
theorem listening_of_mem (line : Line listening due channel)
    (member : id ∈ lineUp listening due channel) :
    ∃ task, listening id = some task := by
  -- The three parts of the line hold listeners for three different reasons.
  unfold lineUp at member
  rcases List.mem_append.mp member with first | others
  · exact (line.holds id (by simpa using first)).imp fun _ found => found.1
  · rcases List.mem_append.mp others with waiting | coming
    · exact (line.waits id waiting).imp fun _ found => found.1
    · have coming := (List.mem_filter.mp coming).2
      simp only [isComing, Option.any_eq_true] at coming
      exact coming.imp fun _ found => found.1

/-- The one at the head of the line was armed before all others. -/
theorem le_of_head {others : List TaskId} (line : Line listening due channel)
    (head : lineUp listening due channel = id :: others) {other : TaskId}
    (own : listening other = some task) :
    id ≤ other := by
  -- Every listener stands in the line, and the line is in the order of arming.
  have member := line.mem_lineUp own
  have order := line.order
  rw [head] at member order
  rcases List.mem_cons.mp member with rfl | behind
  · exact Nat.le_refl _
  · exact Nat.le_of_lt (List.rel_of_pairwise_cons order behind)

/-- Nobody who holds the receiving end waits for it. -/
theorem holder_unlisted (line : Line listening due channel) (holds : channel.holder = some id) :
    id ∉ channel.listeners := by
  intro listed
  have order := line.order
  simp only [lineUp, holds, Option.toList_some, List.singleton_append] at order
  exact Nat.lt_irrefl _ (List.rel_of_pairwise_cons order (List.mem_append_left _ listed))

/-- A listener that is not in the line for the receiving end and does not hold it is still to
come. -/
theorem fresh_of_outside (line : Line listening due channel) (own : listening id = some task)
    (outside : channel.holder ≠ some id) (absent : id ∉ channel.listeners) :
    task.wait = .fresh := by
  -- Every other place is one of those that are excluded.
  have place := line.place id task own
  generalize task.wait = wait at place
  cases place with
  | coming turn => rfl
  | queued listed => exact absurd listed absent
  | called holds turn => exact absurd holds outside
  | serving heard holds awake => exact absurd holds outside

/-- Those who are woken are none of those that are still to come. -/
theorem filter_append (line : Line listening due channel) (woken : ∀ id ∈ more, id ∉ due) :
    (due ++ more).filter (isComing listening) = due.filter (isComing listening) := by
  have nobody : more.filter (isComing listening) = [] :=
    List.filter_eq_nil_iff.mpr fun id member coming => woken id member (line.due_of_isComing coming)
  rw [List.filter_append, nobody, List.append_nil]

/-- A turn of somebody who does not listen leaves the line as it is. -/
theorem pop (line : Line listening (id :: rest) channel) (other : listening id = none) :
    Line listening rest channel := by
  -- Every turn that a listener has due is one of the rest.
  have kept : ∀ {id' : TaskId} {task : Task}, listening id' = some task → id' ∈ id :: rest →
    id' ∈ rest := by
    intro id' task own member
    refine (List.mem_cons.mp member).resolve_left fun same => ?_
    rw [same, other] at own
    contradiction
  refine { line with
    order := ?_
    place := fun id' task own => ?_
    aborted := fun id' task own asked => ?_ }
  -- Who had its turn was no listener, so that the line does not lose anybody.
  · have order := line.order
    simpa only [lineUp, List.filter_cons, isComing_of_none other, Bool.false_eq_true,
      if_false] using order
  · exact (line.place id' task own).mono (kept own) .inl (fun holds => holds) fun _ empty =>
      .inl empty
  · exact kept own (line.aborted id' task own asked)

/-- Signals may come in and tasks may be woken: the line stays, if the one that holds the receiving
end is woken. -/
theorem feed (line : Line listening due channel) (holder : channel'.holder = channel.holder)
    (listeners : channel'.listeners = channel.listeners) (woken : ∀ id ∈ more, id ∉ due)
    (awake : channel.slot.buffered = [] → channel'.slot.buffered ≠ [] →
      ∀ id task, channel.holder = some id → listening id = some task → id ∈ due ++ more) :
    Line listening (due ++ more) channel' := by
  -- The order stays, with those who are woken outside it; so do holder and waiters; and turns are
  -- only added.
  refine ⟨?_, by rw [holder]; exact line.holds, by rw [listeners]; exact line.waits,
    fun id task own => ?_,
    fun id task own asked => List.mem_append_left _ (line.aborted id task own asked),
      by rw [holder, listeners]; exact line.free⟩
  · unfold lineUp
    rw [line.filter_append woken, holder, listeners]
    exact line.order
  · refine (line.place id task own).mono (List.mem_append_left _)
      (fun listed => .inl (listeners ▸ listed))
      holder.trans fun holds empty => ?_
    -- Either there is still nothing to take, or a signal has come in and the listener was woken for
    -- it.
    by_cases empty' : channel'.slot.buffered = []
    · exact .inl empty'
    · exact .inr (awake empty empty' id task holds own)

/-- A listener that is armed comes last. -/
theorem arm (line : Line listening due channel) (unseen : id ∉ due) (fresh : task.wait = .fresh)
    (unasked : task.aborted = false) (last : ∀ other task, listening other = some task → other < id)
    (own : listening' id = some task)
    (others : ∀ other, other ≠ id → listening' other = listening other) :
    Line listening' (due ++ [id]) channel := by
  have kept : ∀ {other : TaskId} {task : Task}, listening other = some task →
    listening' other = some task := by
    intro other task known
    rw [others other (Nat.ne_of_lt (last other task known)), known]
  -- The new one stands behind a line that is otherwise the same.
  have whole : lineUp listening' (due ++ [id]) channel = lineUp listening due channel ++ [id] := by
    -- The others who are on their way are those from before.
    have before : due.filter (isComing listening') = due.filter (isComing listening) := by
      refine List.filter_congr fun other member => ?_
      have different : other ≠ id := fun same => unseen (same ▸ member)
      simp only [isComing, others other different]
    have behind : [id].filter (isComing listening') = [id] := by simp [isComing_of_fresh own fresh]
    simp only [lineUp, List.filter_append, before, behind, List.append_assoc]
  -- The parts of the line in turn: order, holder, waiters, places, and those who were asked to end.
  refine ⟨?_, fun other holds => ?_, fun other listed => ?_, fun other task' own' => ?_,
    fun other task' own' asked => ?_, line.free⟩
  · rw [whole]
    -- The new one comes last, and nobody who stands in the line is as new.
    refine List.pairwise_append.mpr ⟨line.order, List.pairwise_singleton _ _,
      fun other member last' same => ?_⟩
    cases List.mem_singleton.mp same
    obtain ⟨task, known⟩ := line.listening_of_mem member
    exact last other task known
  · obtain ⟨task, known, later⟩ := line.holds other holds
    exact ⟨task, kept known, later⟩
  · obtain ⟨task, known, waits⟩ := line.waits other listed
    exact ⟨task, kept known, waits⟩
  -- The new one is coming, and everybody else is where it was.
  · by_cases same : other = id
    · subst same
      cases own.symm.trans own'
      rw [fresh]
      exact .coming (List.mem_append_right _ (List.mem_singleton_self _))
    · rw [others other same] at own'
      exact (line.place other task' own').mono (List.mem_append_left _) .inl (fun holds => holds)
        fun _ empty => .inl empty
  · by_cases same : other = id
    · subst same
      cases own.symm.trans own'
      simp [unasked] at asked
    · rw [others other same] at own'
      exact List.mem_append_left _ (line.aborted other task' own' asked)

/-- A listener that is asked to end keeps its place until its turn comes. -/
theorem mark (id : TaskId) (line : Line listening due channel) (woken : ∀ id ∈ more, id ∉ due)
    (due_ : ∀ task, listening id = some task → id ∈ due ++ more)
    (own : listening' id = (listening id).map fun task => { task with aborted := true })
    (others : ∀ other, other ≠ id → listening' other = listening other) :
      Line listening' (due ++ more) channel := by
  -- Nobody waits for anything else than before.
  have waits : ∀ {other : TaskId} {task : Task}, listening other = some task →
      ∃ task', listening' other = some task' ∧ task'.wait = task.wait := by
    intro other task known
    by_cases same : other = id
    · subst same
      exact ⟨{ task with aborted := true }, by rw [own, known]; rfl, rfl⟩
    · exact ⟨task, (others other same).trans known, rfl⟩
  have before : ∀ {other : TaskId} {task' : Task}, listening' other = some task' →
      ∃ task, listening other = some task ∧ task'.wait = task.wait ∧
        (other ≠ id → task' = task) := by
    intro other task' known
    by_cases same : other = id
    · subst same
      rw [own] at known
      obtain ⟨task, known', rfl⟩ := Option.map_eq_some_iff.mp known
      exact ⟨task, known', rfl, fun different => absurd rfl different⟩
    · exact ⟨task', (others other same).symm.trans known, rfl, fun _ => rfl⟩
  -- A mark does not change who is on the way.
  have coming : isComing listening' = isComing listening := by
    funext other
    by_cases same : other = id
    · subst same
      simp only [isComing, own]
      cases listening other <;> rfl
    · simp only [isComing, others other same]
  refine ⟨?_, fun other holds => ?_, fun other listed => ?_, fun other task' known => ?_,
    fun other task' known asked => ?_, line.free⟩
  · unfold lineUp
    rw [coming, line.filter_append woken]
    exact line.order
  · obtain ⟨task, known, later⟩ := line.holds other holds
    obtain ⟨task', known', same⟩ := waits known
    exact ⟨task', known', same ▸ later⟩
  · obtain ⟨task, known, waiting⟩ := line.waits other listed
    obtain ⟨task', known', same⟩ := waits known
    exact ⟨task', known', same.trans waiting⟩
  · obtain ⟨task, known', same, _⟩ := before known
    rw [same]
    exact (line.place other task known').mono (List.mem_append_left _) .inl (fun holds => holds)
      fun _ empty => .inl empty
  -- Whoever is marked now has its last turn due.
  · obtain ⟨task, known', _, kept⟩ := before known
    by_cases same : other = id
    · subst same
      exact due_ task known'
    · rw [kept same] at asked
      exact List.mem_append_left _ (line.aborted other task known' asked)

section Turn

/-! In the turn of a listener the line changes only by what becomes of that listener. -/

variable (line : Line listening (id :: rest) channel) (own : listening id = some task)
  (others : ∀ other, other ≠ id → listening' other = listening other)
  (woken : ∀ other ∈ more, other ∉ rest)

include others in
/-- Nobody comes to the line who did not before, and the one that is gone does not. -/
theorem isComing_others (gone : isComing listening' id = false) {other : TaskId}
    (coming : isComing listening' other = true) : other ≠ id ∧ isComing listening other = true := by
  have different : other ≠ id := by
    intro same
    rw [same, gone] at coming
    contradiction
  refine ⟨different, ?_⟩
  simpa only [isComing, others other different] using coming

include line others woken in
/-- Those who are still to come after the turn were to come before it, in the same order. -/
theorem filter_turn (gone : isComing listening' id = false) :
    ((rest ++ more).filter (isComing listening')).Sublist (rest.filter (isComing listening)) := by
  have nobody : more.filter (isComing listening') = [] := by
    refine List.filter_eq_nil_iff.mpr fun other member coming => ?_
    obtain ⟨different, before⟩ := isComing_others others gone coming
    exact woken other member
      ((List.mem_cons.mp (line.due_of_isComing before)).resolve_left different)
  rw [List.filter_append, nobody, List.append_nil]
  exact List.monotone_filter_right rest fun other coming => (isComing_others others gone coming).2

/-- A turn that another listener has due is still due after this one. -/
theorem due_others {other : TaskId} (different : other ≠ id) (turn : other ∈ id :: rest) :
    other ∈ rest ++ more :=
  List.mem_append_left _ ((List.mem_cons.mp turn).resolve_left different)

include line own others woken in
/-- A listener that holds the receiving end, or finds nobody holding it, serves and waits for the
next signal. -/
theorem serve {heard : Bool} (head : channel.holder = some id ∨ channel.holder = none)
    (unasked : task.aborted = false)
    (own' : listening' id = some { task with wait := .delivery heard })
      (holds' : channel'.holder = some id)
    (listeners : channel'.listeners = channel.listeners) (empty : channel'.slot.buffered = []) :
    Line listening' (rest ++ more) channel' := by
  have gone : isComing listening' id = false := isComing_of_later own' (by simp)
  have sublist := line.filter_turn others woken gone
  -- The listener that serves now was at the head of the line before.
  have order :
    (lineUp listening' (rest ++ more) channel').Sublist
      (lineUp listening (id :: rest) channel) := by
    -- The listeners that wait are the same, so that only the head and those who come have to be
    -- compared.
    simp only [lineUp, holds', listeners, Option.toList_some, List.filter_cons]
    rcases head with holds | free
    · simp only [holds, Option.toList_some]
      refine List.Sublist.append_left (List.Sublist.append_left ?_ _) _
      split
      · exact sublist.cons _
      · exact sublist
    -- Nobody waits where nobody holds the receiving end, so that the first to come is the head.
    · have listless := line.free free
      have fresh : task.wait = .fresh :=
        line.fresh_of_outside own (by simp [free]) (by simp [listless])
      simp only [free, listless, isComing_of_fresh own fresh, if_true, Option.toList_none,
        List.nil_append]
      exact sublist.cons_cons _
  have holder : ∀ other, channel'.holder = some other → other = id := by
    intro other holds
    exact Option.some.inj (holds.symm.trans holds')
  have strange : ∀ other, other ≠ id → channel.holder ≠ some other := by
    intro other different holds
    rcases head with own | free
    · exact different (Option.some.inj (holds.symm.trans own))
    · simp [free] at holds
  -- The one that serves holds the receiving end now; everybody else keeps its place.
  refine ⟨line.order.sublist order, fun other holds => ?_, fun other listed => ?_,
    fun other task' known => ?_, fun other task' known asked => ?_,
    fun free => by simp [holds'] at free⟩
  · rw [holder other holds]
    exact ⟨_, own', by simp⟩
  · rw [listeners] at listed
    obtain ⟨task', known, waits⟩ := line.waits other listed
    have different : other ≠ id := by
      intro same
      rcases head with holds | free
      · exact line.holder_unlisted holds (same ▸ listed)
      · simp [line.free free] at listed
    exact ⟨task', (others other different).trans known, waits⟩
  · by_cases same : other = id
    · subst same
      cases own'.symm.trans known
      exact .serving heard holds' (.inl empty)
    · rw [others other same] at known
      exact (line.place other task' known).mono (due_others same)
        (fun listed => .inl (listeners ▸ listed))
        (fun holds => absurd holds (strange other same)) fun holds =>
          absurd holds (strange other same)
  · by_cases same : other = id
    · subst same
      cases own'.symm.trans known
      simp [unasked] at asked
    · rw [others other same] at known
      exact due_others same (line.aborted other task' known asked)

include line own others in
/-- A listener that comes while another one holds the receiving end gets into the line for it. -/
theorem queue (fresh : task.wait = .fresh) {holder : TaskId} (holds : channel.holder = some holder)
    (unasked : task.aborted = false) (own' : listening' id = some { task with wait := .receiver }) :
    Line listening' rest { channel with listeners := channel.listeners ++ [id] } := by
  -- It moves from the head of those who are to come to the end of those who wait, so that the line
  -- stays the same.
  have gone : isComing listening' id = false := isComing_of_later own' (by simp)
  have sublist :
    ((rest ++ []).filter (isComing listening')).Sublist (rest.filter (isComing listening)) :=
    line.filter_turn others (by simp) gone
  rw [List.append_nil] at sublist
  -- The holder has waited for something, and this one has not.
  have held : ∀ other, channel.holder = some other → other ≠ id := by
    intro other holds same
    obtain ⟨task', known, later⟩ := line.holds other holds
    rw [same, own] at known
    cases known
    exact later fresh
  have before : ∀ {other : TaskId}, other ≠ id → other ∈ id :: rest → other ∈ rest :=
    fun different turn => (List.mem_cons.mp turn).resolve_left different
  refine ⟨line.order.sublist ?_, fun other holds => ?_, fun other listed => ?_,
    fun other task' known => ?_, fun other task' known asked => ?_,
    fun free => by simp [holds] at free⟩
  · -- It was the next to come, and now it is the last to wait.
    simp only [lineUp, List.filter_cons, isComing_of_fresh own fresh, if_true, List.append_assoc,
      List.singleton_append]
    exact ((sublist.cons_cons id).append_left _).append_left _
  · obtain ⟨task', known, later⟩ := line.holds other holds
    exact ⟨task', (others other (held other holds)).trans known, later⟩
  · by_cases same : other = id
    · exact ⟨_, same ▸ own', rfl⟩
    · have listed :=
        (List.mem_append.mp listed).resolve_right fun last => same (List.mem_singleton.mp last)
      obtain ⟨task', known, waits⟩ := line.waits other listed
      exact ⟨task', (others other same).trans known, waits⟩
  -- It waits in the line now, and everybody else is where it was.
  · by_cases same : other = id
    · subst same
      cases own'.symm.trans known
      exact .queued (List.mem_append_right _ (List.mem_singleton_self _))
    · rw [others other same] at known
      exact (line.place other task' known).mono (before same)
        (fun listed => .inl (List.mem_append_left _ listed))
        (fun holds => holds) fun _ empty => .inl empty
  · by_cases same : other = id
    · subst same
      cases own'.symm.trans known
      simp [unasked] at asked
    · rw [others other same] at known
      exact before same (line.aborted other task' known asked)

include line own in
/-- A listener that is woken while it waits for the receiving end goes on waiting. -/
theorem stay (outside : channel.holder ≠ some id) (later : task.wait ≠ .fresh)
    (unasked : task.aborted = false) :
    Line listening rest channel := by
  -- Its turn is used up, and since it neither holds the receiving end nor is still to come it waits
  -- on the list.
  have before : ∀ {other : TaskId}, other ≠ id → other ∈ id :: rest → other ∈ rest :=
    fun different turn => (List.mem_cons.mp turn).resolve_left different
  refine { line with
    order := ?_
    place := fun other task' known => ?_
    aborted := fun other task' known asked => ?_ }
  · have order := line.order
    simpa only [lineUp, List.filter_cons, isComing_of_later own later, Bool.false_eq_true,
      if_false] using order
  · by_cases same : other = id
    · subst same
      cases own.symm.trans known
      have listed : other ∈ channel.listeners := by
        by_contra absent
        exact later (line.fresh_of_outside own outside absent)
      obtain ⟨task', known', waits⟩ := line.waits other listed
      cases own.symm.trans known'
      rw [waits]
      exact .queued listed
    · exact (line.place other task' known).mono (before same) .inl (fun holds => holds)
        fun _ empty => .inl empty
  · by_cases same : other = id
    · subst same
      cases own.symm.trans known
      simp [unasked] at asked
    · exact before same (line.aborted other task' known asked)

include line others woken in
/-- A listener that ends while it holds the receiving end passes it to the next one in the line,
which is woken. -/
theorem handOver (holds : channel.holder = some id) (gone : listening' id = none)
    (lineUp' : channel'.holder.toList ++ channel'.listeners = channel.listeners)
    (called : ∀ next, channel'.holder = some next → next ∈ rest ++ more)
    (free : channel'.holder = none → channel'.listeners = []) :
    Line listening' (rest ++ more) channel' := by
  have sublist := line.filter_turn others woken (isComing_of_none gone)
  have strange : ∀ other, other ≠ id → channel.holder ≠ some other :=
    fun other different other' => different (Option.some.inj (other'.symm.trans holds))
  -- Whoever is in the line now has waited before, and is not the one that ends.
  have waited : ∀ other, other ∈ channel'.holder.toList ++ channel'.listeners →
      ∃ task, listening' other = some task ∧ task.wait = .receiver := by
    intro other member
    rw [lineUp'] at member
    obtain ⟨task, known, waits⟩ := line.waits other member
    have different : other ≠ id := fun same => line.holder_unlisted holds (same ▸ member)
    exact ⟨task, (others other different).trans known, waits⟩
  refine ⟨line.order.sublist ?_, fun other holds' => ?_, fun other listed =>
    waited other (List.mem_append_right _ listed),
    fun other task' known => ?_, fun other task' known asked => ?_, free⟩
  · simp only [lineUp, ← List.append_assoc, lineUp', holds, Option.toList_some]
    refine List.Sublist.append (List.sublist_append_right _ _) (sublist.trans ?_)
    exact (List.sublist_cons_self _ _).filter _
  · obtain ⟨task, known, waits⟩ := waited other (by simp [holds'])
    exact ⟨task, known, by simp [waits]⟩
  · have different : other ≠ id := by
      intro same
      rw [same, gone] at known
      contradiction
    rw [others other different] at known
    refine (line.place other task' known).mono (due_others different) (fun listed => ?_)
      (fun holds' => absurd holds' (strange other different)) fun holds' =>
        absurd holds' (strange other different)
    rw [← lineUp'] at listed
    rcases List.mem_append.mp listed with next | still
    · have next : channel'.holder = some other := by simpa using next
      exact .inr ⟨next, called other next⟩
    · exact .inl still
  · have different : other ≠ id := by
      intro same
      rw [same, gone] at known
      contradiction
    rw [others other different] at known
    exact due_others different (line.aborted other task' known asked)

include line others woken in
/-- A listener that ends without holding the receiving end leaves the line. -/
theorem leave (outside : channel.holder ≠ some id) (gone : listening' id = none)
    (holder : channel'.holder = channel.holder)
    (listeners : channel'.listeners = channel.listeners.filter (· != id))
    (slot : channel'.slot = channel.slot) :
    Line listening' (rest ++ more) channel' := by
  -- What is left of the line is a part of it, in the same order.
  have sublist := line.filter_turn others woken (isComing_of_none gone)
  -- Who waits in the line is who did, but for the one that leaves.
  have still : ∀ {other : TaskId}, other ∈ channel'.listeners ↔ other ∈ channel.listeners ∧
    other ≠ id := by
    intro other
    simp [listeners]
  have kept : ∀ {other : TaskId} {task' : Task}, listening' other = some task' → other ≠ id ∧
    listening other = some task' := by
    intro other task' known
    have different : other ≠ id := by
      intro same
      rw [same, gone] at known
      contradiction
    exact ⟨different, (others other different).symm.trans known⟩
  refine ⟨line.order.sublist ?_, fun other holds => ?_, fun other listed => ?_,
    fun other task' known => ?_, fun other task' known asked => ?_, fun free => ?_⟩
  · simp only [lineUp, holder, listeners]
    refine List.Sublist.append_left (List.Sublist.append List.filter_sublist (sublist.trans ?_)) _
    exact (List.sublist_cons_self _ _).filter _
  -- The holder is another one, since the one that leaves was outside.
  · rw [holder] at holds
    obtain ⟨task, known, later⟩ := line.holds other holds
    exact ⟨task, (others other fun same => outside (same ▸ holds)).trans known, later⟩
  · obtain ⟨listed, different⟩ := still.mp listed
    obtain ⟨task, known, waits⟩ := line.waits other listed
    exact ⟨task, (others other different).trans known, waits⟩
  -- The place of everybody else is the same in what is left of the line.
  · obtain ⟨different, known⟩ := kept known
    refine (line.place other task' known).mono (due_others different)
      (fun listed => .inl (still.mpr ⟨listed, different⟩))
      (fun holds => holder.trans holds) fun _ empty => .inl ?_
    rw [slot]
    exact empty
  · obtain ⟨different, known⟩ := kept known
    exact due_others different (line.aborted other task' known asked)
  -- If nobody held the receiving end there was no line to leave.
  · rw [holder] at free
    rw [listeners, line.free free]
    rfl

end Turn

end Line

end Warden.Supervision
