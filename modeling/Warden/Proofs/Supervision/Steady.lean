import Warden.Proofs.Supervision.Yields

/-!
Relations between the two ends of whatever the supervising flow does while a run is under way.
-/

namespace Warden.Supervision

/-- What the supervising flow itself writes while it stops services. -/
def Event.ofStop : Event → Bool
  | .deed (.stop _) | .deed (.down _) | .deed (.stopFailed _) => true
  | .notice .main (.stopTimedOut _ _) | .notice .main (.serviceStopped _)
  | .notice .main (.stopFailed _ _) => true
  | .count (.stop _ _) | .running _ => true
  | _ => false

/-- What an actor may write whose script is played on the supervising flow. -/
def Actor.Writes (actor : Actor) (event : Event) : Prop :=
  event.isPlain = true ∧ ∀ reading, event.reading? = some reading → reading = (.main, actor)

namespace World

/-- One thing that the supervising flow does at once while a run is under way: it takes a step of a
script, settles a wait that is over or gives one up, asks as the launcher for a cancellation,
notices something, or notes which start it awaits. -/
inductive Does : World → World → Prop
  | takes (actor : Actor) (step : Step) (w : World) : Does w (w.act .main actor step).2
  | settles (actor : Actor) (wait : Wait) {w : World} (ended : w.isOver .main actor wait = true) :
    Does w (w.settleWait actor wait)
  | forsakes (actor : Actor) (wait : Wait) (w : World) : Does w (w.forsake .main actor wait)
  | calls (run : RunId) (cause : Cause) (w : World) : Does w (w.cancel .launcher run cause).2
  | tells (n : Notice) (w : World) : Does w (w.notice .main n)
  | awaits (awaiting : Option TaskId) (w : World) : Does w { w with awaiting }

variable {w w' : World}

/-- Whatever the supervising flow does at once is a quiet act of its own. -/
theorem Does.acts (does : Does w w') : Acts (fun event => event.isQuiet = true) .main w w' := by
  have plain : ∀ event : Event, event.isPlain = true → event.reading? = none →
    event.isQuiet = true :=
    fun _ plain _ => Event.isQuiet_of_isPlain plain
  -- One case for each thing that the flow can do at once.
  cases does with
  | takes actor step => exact act_acts plain rfl step
  | settles actor wait ended => exact settleWait_acts plain actor wait
  | forsakes actor wait => exact forsake_acts actor wait
  | calls run cause => exact cancel_acts rfl rfl rfl
  | tells n => exact emit_acts rfl rfl
  -- What is awaited belongs to the flow itself, so that no task has anything to do with it.
  | awaits awaiting =>
    exact { Acts.refl _ .main w with
      awaiting := fun outsider => absurd rfl outsider
      sound := fun sound => sound.same rfl rfl rfl rfl }

/-- What an actor does at once whose script is played on the supervising flow. -/
inductive Plays (actor : Actor) : World → World → Prop
  | takes (step : Step) (w : World) : Plays actor w (w.act .main actor step).2
  | settles (wait : Wait) {w : World} (ended : w.isOver .main actor wait = true) :
    Plays actor w (w.settleWait actor wait)
  | forsakes (wait : Wait) (w : World) : Plays actor w (w.forsake .main actor wait)

variable {actor : Actor}

/-- What an actor does on the flow is done by the flow. -/
theorem Plays.does (plays : Plays actor w w') : Does w w' := by
  cases plays with
  | takes step => exact .takes actor step w
  | settles wait ended => exact .settles actor wait ended
  | forsakes wait => exact .forsakes actor wait w

/-- A script that is played writes only what is plain, and reads an identifier only as its actor. -/
theorem Plays.acts (plays : Plays actor w w') : Acts actor.Writes .main w w' := by
  have plain : ∀ event : Event, event.isPlain = true → event.reading? = none → actor.Writes event :=
    fun event plain unread => ⟨plain, fun reading same => by simp [unread] at same⟩
  cases plays with
  | takes step => exact act_acts plain ⟨rfl, fun _ same => (Option.some.inj same).symm⟩ step
  | settles wait ended => exact settleWait_acts plain actor wait
  | forsakes wait => exact forsake_acts actor wait

/-- What the stop of a service of a run does at once. -/
def Stops (run : RunId) (w w' : World) : Prop :=
  ∃ service : Placed, Plays ⟨service.name, run, none⟩ w w'

/-- What the launcher does at once about one start: it notes that it awaits this one or none, and if
the start is lost it cancels the run and tells what has become of the start. -/
inductive Attends (run : RunId) (service : Placed) (deadline : Duration) (id : TaskId) :
    World → World → Prop
  | awaits (awaiting : Option TaskId) (own : ∀ other, awaiting = some other → other = id)
    (w : World) :
    Attends run service deadline id w { w with awaiting }
  | blames (cause : Cause) (w : World) :
    Attends run service deadline id w (w.cancel .launcher run cause).2
  | tells (n : Notice) (own : n = .startPanicked service ∨ n = .startTimedOut service deadline)
    (w : World) :
    Attends run service deadline id w (w.notice .main n)

/-- What the launcher does about one start is done by the flow. -/
theorem Attends.does {run : RunId} {service : Placed} {deadline : Duration} {id : TaskId}
    (attends : Attends run service deadline id w w') : Does w w' := by
  cases attends with
  | awaits awaiting own => exact .awaits awaiting w
  | blames cause => exact .calls run cause w
  | tells n own => exact .tells n w

/-- A quiet act is one way for a world to pass. -/
theorem Acts.quiet_passes {party : Party}
    (acts : Acts (fun event => event.isQuiet = true) party w w') : Passes w w' :=
  acts.passes fun _ quiet => .inl quiet

end World

namespace Flow

/-- A relation that lasts through waits and through what a flow does at once, if it does nothing but
what `D` says. -/
structure Lasting (D R : World → World → Prop) : Prop where
  refl : ∀ w, R w w
  trans : ∀ {w₁ w₂ w₃ : World}, R w₁ w₂ → R w₂ w₃ → R w₁ w₃
  beats : ∀ {goal : World → Bool} {alarm : Nat} {w w' : World}, World.Beats goal alarm w w' → R w w'
  does : ∀ {w w' : World}, D w w' → R w w'

/-- A relation that lasts through waits and through whatever the supervising flow does at once. -/
abbrev Steady (R : World → World → Prop) : Prop := Lasting World.Does R

/-- What lasts through more lasts through less. -/
theorem Lasting.mono {D D' R : World → World → Prop} (lasts : Lasting D R)
    (less : ∀ {w w'}, D' w w' → D w w') :
    Lasting D' R :=
  ⟨lasts.refl, lasts.trans, lasts.beats, fun does => lasts.does (less does)⟩

/-- What lasts through all that the flow does lasts through the script of any actor. -/
theorem Lasting.plays {R : World → World → Prop} (steady : Steady R) (actor : Actor) :
    Lasting (World.Plays actor) R :=
  steady.mono World.Plays.does

/-- So it does through all that the launcher does about a start. -/
theorem Lasting.attends {R : World → World → Prop} (steady : Steady R) (run : RunId)
    (service : Placed) (deadline : Duration) (id : TaskId) :
    Lasting (World.Attends run service deadline id) R :=
  steady.mono World.Attends.does

/-- What can become of a world while the supervising flow waits can also become of it while the flow
acts. -/
theorem steady_passes : Steady World.Passes where
  refl := .refl
  trans := .trans
  beats := World.Beats.passes
  does := fun does => does.acts.quiet_passes

/-- However a flow ends, the relation holds between the world where it began and the one where it
ended. -/
def Within {α : Type} (R : World → World → Prop) (flow : Flow α) : Prop :=
  ∀ w, flow.Yields w (fun _ => R w) fun _ => R w

variable {α β : Type} {R : World → World → Prop}

/-- A choice keeps the relation if both ways do. -/
theorem Within.ite {c : Prop} [Decidable c] {yes no : Flow α} (first : yes.Within R)
    (second : no.Within R) :
    (if c then yes else no).Within R := by
  split
  · exact first
  · exact second

section Steps

variable {D : World → World → Prop} (lasts : Lasting D R)
include lasts

/-- To return changes nothing. -/
theorem pure_within (a : α) : (pure a : Flow α).Within R := lasts.refl

/-- Neither does giving up. -/
theorem throw_within (halt : Halt) : (throw halt : Flow α).Within R := lasts.refl

/-- Neither does looking. -/
theorem look_within (view : World → α) : (look view).Within R := lasts.refl

/-- A flow that is followed by another one keeps the relation if both do. -/
theorem bind_within {flow : Flow α} {next : α → Flow β} (first : flow.Within R)
    (rest : ∀ a, (next a).Within R) :
    (flow >>= next).Within R := by
  intro w
  rw [yields_bind]
  refine (first w).mono (fun a w' before => ?_) fun _ _ before => before
  exact (rest a w').mono (fun _ _ => lasts.trans before) fun _ _ => lasts.trans before

/-- What catches a halt keeps the relation if the flow and all that may follow do. -/
theorem tryCatch_within {flow : Flow α} {handler : Halt → Flow α} (first : flow.Within R)
    (rest : ∀ halt, (handler halt).Within R) : (tryCatch flow handler).Within R := by
  intro w
  rw [yields_tryCatch]
  refine (first w).mono (fun _ _ within => within) fun halt w' before => ?_
  exact (rest halt w').mono (fun _ _ => lasts.trans before) fun _ _ => lasts.trans before

/-- A change keeps the relation if it is something that the flow may do. -/
theorem change_within {edit : World → World} (does : ∀ w, D w (edit w)) : (change edit).Within R :=
  fun w => lasts.does (does w)

/-- So does an operation with an answer. -/
theorem answer_within {operation : World → α × World} (does : ∀ w, D w (operation w).2) :
    (answer operation).Within R :=
  fun w => lasts.does (does w)

/-- A wait keeps the relation, whether it meets its goal, reaches its alarm or finds the process
gone. -/
theorem pause_within (goal : World → Bool) (deadline : Option Nat) :
    (pause goal deadline).Within R :=
  fun _ => pause_yields (fun _ beats _ _ => lasts.beats beats) fun _ _ beats _ => lasts.beats beats

/-- So does a wait that has no deadline, -/
theorem await_within (goal : World → Bool) : (await goal).Within R :=
  bind_within lasts (pause_within lasts _ _) fun _ =>
    .ite (pure_within lasts _) (throw_within lasts _)

/-- and sleep. -/
theorem sleepUntil_within (time : Nat) : (sleepUntil time).Within R :=
  bind_within lasts (pause_within lasts _ _) fun _ =>
    .ite (pure_within lasts _) (throw_within lasts _)

end Steps

/-- A script that is played on the supervising flow keeps the relation, whatever its steps are. -/
theorem play_within {actor : Actor} (lasts : Lasting (World.Plays actor) R) (deadline : Option Nat)
    (script : Script) :
    (play actor deadline script).Within R := by
  -- By induction on the script: a step, or a step with its wait, and then the rest.
  induction script with
  | nil => exact pure_within lasts _
  | cons step rest ih =>
    unfold play
    refine bind_within lasts (answer_within lasts fun w => .takes step w) fun reaction => ?_
    cases reaction with
    | proceed => exact ih
    | finish outcome => exact pure_within lasts _
    | block wait =>
      intro w
      rw [yields_bind]
      refine pause_yields (fun w' beats _ _ => ?_) fun _ _ beats _ => lasts.beats beats
      -- Only a wait that is over is settled; one that is not is given up.
      by_cases ended : w'.isOver .main actor wait = true
      · have settled : R w (w'.settleWait actor wait) :=
          lasts.trans (lasts.beats beats) (lasts.does (.settles wait ended))
        rw [if_pos ended, yields_bind, yields_change]
        exact (ih _).mono (fun _ _ => lasts.trans settled) fun _ _ => lasts.trans settled
      · have forsaken : R w (w'.forsake .main actor wait) :=
          lasts.trans (lasts.beats beats) (lasts.does (.forsakes wait w'))
        simp only [if_neg ended, yields_bind, yields_change, yields_look]
        -- Late or stuck, the script is given up where it stands.
        split
        · exact forsaken
        · exact forsaken

/-- A notice keeps what lasts through whatever the flow does at once. -/
theorem notice_within (steady : Steady R) (n : Notice) : (notice n).Within R :=
  change_within steady fun w => .tells n w

section Launch

variable {run : RunId} {service : Placed} {deadline : Duration} {id : TaskId}
  (lasts : Lasting (World.Attends run service deadline id) R)
include lasts

/-- A race keeps what lasts through what the launcher does about its start. -/
theorem race_within (due : Nat) : (race id due).Within R := by
  refine bind_within lasts (change_within lasts fun w => .awaits _ (by simp) w) fun _ => ?_
  refine bind_within lasts (pause_within lasts _ _) fun ended => ?_
  exact bind_within lasts (change_within lasts fun w => .awaits _ (by simp) w) fun _ =>
    pure_within lasts _

/-- So does the hold of a start that failed, -/
theorem holdFailed_within (due : Nat) : (holdFailed run service due).Within R := by
  unfold holdFailed
  refine bind_within lasts (answer_within lasts fun w => .blames _ w) fun first => ?_
  split
  · refine bind_within lasts (change_within lasts fun w => .tells _ (.inl rfl) w) fun _ => ?_
    exact bind_within lasts (sleepUntil_within lasts _) fun _ => pure_within lasts _
  · exact bind_within lasts (sleepUntil_within lasts _) fun _ => pure_within lasts _

/-- giving up one that is late, -/
theorem giveUp_within : (giveUp run service deadline).Within R := by
  refine bind_within lasts (change_within lasts fun w => .tells _ (.inr rfl) w) fun _ => ?_
  exact bind_within lasts (answer_within lasts fun w => .blames _ w) fun _ => pure_within lasts _

/-- and what is made of either. -/
theorem resolve_within (due : Nat) (ended : Bool) :
    (resolve run service deadline due id ended).Within R := by
  refine .ite ?_ ?_
  · exact bind_within lasts (look_within lasts _) fun _ =>
      .ite (pure_within lasts _) (holdFailed_within lasts _)
  · exact bind_within lasts (look_within lasts _) fun _ =>
      .ite (giveUp_within lasts) (throw_within lasts _)

end Launch

section Groups

variable {D : World → World → Prop} {group : GroupId} {run : RunId} (lasts : Lasting D R)
  (releases : ∀ id w, R w (World.release group id w))
  (warns : ∀ error w, R w (World.notice .main (.furtherError error) w))
include lasts releases warns

/-- To take in a task keeps the relation if its release, its warning and its call do. -/
theorem takeIn_within (calls : ∀ error w, R w (World.cancel .group run (.taskFailed error) w).2)
    (first : Option RunError) (id : TaskId) : (takeIn group run first id).Within R := by
  refine bind_within lasts (fun w => releases id w) fun _ =>
    bind_within lasts (look_within lasts _) fun error => ?_
  split
  · exact pure_within lasts _
  · exact bind_within lasts (fun w => calls _ w) fun _ => pure_within lasts _
  · exact bind_within lasts (fun w => warns _ w) fun _ => pure_within lasts _

/-- Tasks that are joined one after another keep the relation if each that is taken in does. -/
theorem join_within (calls : ∀ error w, R w (World.cancel .group run (.taskFailed error) w).2)
    (count : Nat) (first : Option RunError) : (join group run count first).Within R := by
  -- By induction on the number of tasks that are left to be joined.
  induction count generalizing first with
  | zero => exact pure_within lasts _
  | succ count ih =>
    refine bind_within lasts (await_within lasts _) fun _ =>
      bind_within lasts (look_within lasts _) fun next => ?_
    split
    · exact pure_within lasts _
    · exact bind_within lasts (takeIn_within lasts releases warns calls first _) ih

/-- A wait for a group keeps the relation if what it does to the group, for it and after it does. -/
theorem waitGroup_within
    (calls : ∀ run error w, R w (World.cancel .group run (.taskFailed error) w).2)
    (abandons : ∀ w, R w (World.abandonDetached group w)) : (waitGroup group).Within R := by
  refine bind_within lasts (look_within lasts _) fun found => ?_
  split
  · refine bind_within lasts (join_within lasts releases warns (calls _) _ _) fun first => ?_
    exact bind_within lasts (fun w => abandons w) fun _ => pure_within lasts _
  · exact pure_within lasts _

end Groups

section Stops

variable {run : RunId} (lasts : Lasting (World.Stops run) R)
  (records : ∀ {event : Event} (w : World), event.ofStop = true → R w (w.emit event))
include lasts records

/-- A bad stop is said and counted, both of which may be recorded. -/
theorem badStop_within (service : Placed) {n : Notice}
    (said : (Event.notice .main n).ofStop = true) :
    (badStop service n).Within R :=
  bind_within lasts (fun w => records w said) fun _ w => records w rfl

/-- To stop a service keeps the relation if its script and all that is recorded of the stop do. -/
theorem stopOne_within (timeout : Duration) (service : Placed) :
    (stopOne run timeout service).Within R := by
  refine bind_within lasts (fun w => records w rfl) fun _ =>
    bind_within lasts (look_within lasts _) fun now => ?_
  refine bind_within lasts (play_within (lasts.mono fun plays => ⟨service, plays⟩) _ _)
    fun outcome => ?_
  -- However the stop came out, it is said and counted at once.
  split
  · exact badStop_within lasts records service rfl
  · refine bind_within lasts (fun w => records w rfl) fun _ => ?_
    exact bind_within lasts (fun w => records w rfl) fun _ w => records w rfl
  · exact bind_within lasts (fun w => records w rfl) fun _ =>
      badStop_within lasts records service rfl
  · exact bind_within lasts (fun w => records w rfl) fun _ =>
      badStop_within lasts records service rfl
  -- A panic is not recorded at all.
  · exact throw_within lasts _

/-- Services that are stopped one after another keep the relation if all that is recorded of it
does. -/
theorem stopAll_within (unstacks : ∀ (started : List Placed) (w : World), R w { w with started })
    (timeout : Duration) :
    (stopAll run timeout).Within R := by
  refine bind_within lasts (look_within lasts _) fun services => ?_
  -- By induction on the services: each leaves the stack, is stopped and is counted before the next
  -- one.
  induction services.reverse with
  | nil => exact pure_within lasts _
  | cons service rest ih =>
    refine bind_within lasts (fun w => unstacks _ w) fun _ => ?_
    refine bind_within lasts (stopOne_within lasts records timeout service) fun _ => ?_
    exact bind_within lasts (fun w => records w rfl) fun _ => ih

end Stops

end Flow

end Warden.Supervision
