import SumCluster.Carrier.Recorder
import SumCluster.Proofs.Config
import SumCluster.Proofs.Directory.Acks
import SumCluster.Proofs.Work.Course

/-!
# The wait for acknowledgements

A node that has applied a write looks for the acknowledgements at once, and again after equal pauses,
until none is missing or the time is over (`AckPlan`).  A look sees the directory as it is at that
instant, whatever has come and gone in between (`AckLook`).  So the looks come at regular instants, all
but the last of them before the deadline and in vain, and the last one decides what the caller is told
(`Course.acks_decide`).
-/

namespace SumCluster

/-! ## Looks -/

/-- A look for acknowledgements: when it was taken, and the directory that it found. -/
structure AckLook where
  instant : Int
  directory : Directory

namespace AckLook

variable {C : Type}

/-- The look at a site. -/
def ofSite (site : Site C) : AckLook :=
  ⟨site.now, site.node.state.directory⟩

/-- The look of a wait that goes on, if it is time for one. -/
def ofWait? (site : Site C) : AckWait → Option AckLook
  | .settled _ => none
  | .waiting _ again => if again ≤ site.now then some (ofSite site) else none

/-- The look in a turn of a write.  A write that is applied is looked for at once. -/
def ofTurn? : Site C × Activity → Option AckLook
  | (site, .writing (.opening ..)) => some (ofSite site)
  | (site, .writing (.replicating _ _ _ acks)) => ofWait? site acks
  | _ => none

/-- Every other node that is alive has acknowledged a number. -/
def IsComplete (look : AckLook) (self : NodeId) (seqn : Seqn) : Prop :=
  ∀ record ∈ look.directory.records, record.id ≠ self → record.isAlive → seqn ≤ record.acked

/-- A list names, in ascending order, the other nodes that are alive and have not acknowledged a
number. -/
def Lacks (look : AckLook) (self : NodeId) (seqn : Seqn) (missing : List NodeId) : Prop :=
  missing.Pairwise (· < ·) ∧ ∀ id, id ∈ missing ↔ ∃ record ∈ look.directory.records,
    record.id ≠ self ∧ record.isAlive ∧ record.acked < seqn ∧ record.id = id

theorem lacks_missingAcks (look : AckLook) (self : NodeId) (seqn : Seqn) :
    look.Lacks self seqn (look.directory.missingAcks self seqn) :=
  ⟨Directory.ascending_missingAcks self seqn, fun _ => Directory.mem_missingAcks⟩

theorem missingAcks_eq_nil_iff {look : AckLook} {self : NodeId} {seqn : Seqn} :
    look.directory.missingAcks self seqn = [] ↔ look.IsComplete self seqn := by
  refine ⟨fun none record mem other alive =>
    Directory.le_acked_of_missingAcks_eq_nil none mem other alive, fun complete => ?_⟩
  refine List.eq_nil_iff_forall_not_mem.2 fun id mem => ?_
  obtain ⟨record, mem, other, alive, lower, -⟩ := Directory.mem_missingAcks.1 mem
  exact UInt64.not_le.2 lower (complete record mem other alive)

end AckLook

/-- The looks that a write has taken, oldest first. -/
def Course.looks {C : Type} (course : Course C) : List AckLook :=
  course.turns.filterMap AckLook.ofTurn?

theorem Course.looks_goOn {C : Type} [Carrier C] (course : Course C) (activity : Activity) :
    (course.goOn activity).looks =
      course.looks ++ (AckLook.ofTurn? (course.site, activity)).toList :=
  filterMap_turns_goOn _ course activity

/-! ## Plans -/

/-- When acknowledgements of a number are looked for. -/
structure AckPlan where
  /-- The node that writes. -/
  self : NodeId
  seqn : Seqn
  /-- When the write was applied. -/
  start : Int
  /-- How long acknowledgements are waited for. -/
  window : Nat
  /-- The pause between two looks. -/
  poll : Nat

/-- When acknowledgements are looked for again. -/
def AckWait.again? : AckWait → Option Int
  | .settled _ => none
  | .waiting _ again => some again

/-- How much is left to do of a wait with a pause between looks. -/
def AckWait.load (poll : Nat) : AckWait → Nat
  | .settled _ => 0
  | .waiting deadline again => (Time.after deadline poll - again).toNat + 1

/-- How much is left to do of a write. -/
def Replication.load (poll : Nat) : Replication → Nat
  | .opening .. => 0
  | .replicating _ _ bursts acks => Burst.load bursts + acks.load poll

namespace AckPlan

variable {C : Type} {plan : AckPlan} {site : Site C} {looks : List AckLook} {acks : AckWait}

/-- When the time is over. -/
def deadline (plan : AckPlan) : Int :=
  Time.after plan.start plan.window

/-- The instant of each look. -/
def instant (plan : AckPlan) (index : Nat) : Int :=
  Time.after plan.start (index * plan.poll)

/-- The nodes that have not acknowledged the number at a look. -/
def missing (plan : AckPlan) (look : AckLook) : List NodeId :=
  look.directory.missingAcks plan.self plan.seqn

/-- An acknowledgement is missing, and there is time left. -/
def IsFruitless (plan : AckPlan) (look : AckLook) : Prop :=
  plan.missing look ≠ [] ∧ look.instant < plan.deadline

/-- How the wait stands after some looks. -/
inductive Stands (plan : AckPlan) (looks : List AckLook) : AckWait → Prop
  | waiting (fruitless : ∀ look ∈ looks, plan.IsFruitless look) :
    Stands plan looks (.waiting plan.deadline (plan.instant looks.length))
  | acknowledged {before : List AckLook} {last : AckLook} (split : looks = before ++ [last])
    (fruitless : ∀ look ∈ before, plan.IsFruitless look) (complete : plan.missing last = []) :
    Stands plan looks (.settled (.ok ()))
  | late {before : List AckLook} {last : AckLook} (split : looks = before ++ [last])
    (fruitless : ∀ look ∈ before, plan.IsFruitless look) (incomplete : plan.missing last ≠ [])
    (late : plan.deadline ≤ last.instant) :
    Stands plan looks (.settled (.error (.replicationIncomplete plan.seqn (plan.missing last))))

/-- The looks were taken when they had to be. -/
def Keeps (plan : AckPlan) (looks : List AckLook) : Prop :=
  looks.map (·.instant) = (List.range looks.length).map plan.instant

/-- The member that writes is at work, and pauses between looks as planned. -/
structure Fits (plan : AckPlan) (site : Site C) : Prop where
  id_eq : site.node.id = plan.self
  poll_eq : site.node.config.pollInterval = plan.poll
  isActive : site.isCancelled = false

theorem Fits.withCarrier (fits : plan.Fits site) (carrier : C) :
    plan.Fits (site.withCarrier carrier) :=
  ⟨fits.id_eq, fits.poll_eq, fits.isActive⟩

theorem Keeps.append (keeps : plan.Keeps looks) (now : site.now = plan.instant looks.length) :
    plan.Keeps (looks ++ [.ofSite site]) := by
  unfold Keeps
  rw [List.map_append, keeps, List.length_append, List.length_singleton, List.range_succ,
    List.map_append, List.map_singleton, List.map_singleton, ← now]
  rfl

theorem instant_succ (plan : AckPlan) (index : Nat) :
    plan.instant (index + 1) = Time.after (plan.instant index) plan.poll := by
  unfold instant Time.after
  rw [Nat.succ_mul]
  omega

/-- The wait for acknowledgements is as planned, and not overdue. -/
structure Polls (plan : AckPlan) (looks : List AckLook) (now : Int) (acks : AckWait) : Prop where
  keeps : plan.Keeps looks
  stands : plan.Stands looks acks
  timely : ∀ again ∈ acks.again?, now ≤ again

/-- A look ends the wait, or leads to the next one. -/
theorem Fits.polls_look (fits : plan.Fits site) (keeps : plan.Keeps looks)
    (fruitless : ∀ look ∈ looks, plan.IsFruitless look)
    (now : site.now = plan.instant looks.length) :
    plan.Fits (Replication.look site plan.seqn plan.deadline).1 ∧
      plan.Polls (looks ++ [.ofSite site]) site.now
        (Replication.look site plan.seqn plan.deadline).2 := by
  have missing_eq : site.node.missingAcks plan.seqn = plan.missing (.ofSite site) := by
    unfold Node.missingAcks missing
    rw [fits.id_eq]
    rfl
  unfold Replication.look Node.pollAcks
  simp only [missing_eq, List.isEmpty_iff]
  by_cases complete : plan.missing (.ofSite site) = []
  · rw [if_pos complete]
    exact ⟨⟨fits.id_eq, fits.poll_eq, fits.isActive⟩, keeps.append now,
      .acknowledged rfl fruitless complete, nofun⟩
  · rw [if_neg complete]
    by_cases late : plan.deadline ≤ site.now
    · rw [if_pos late]
      exact ⟨⟨fits.id_eq, fits.poll_eq, fits.isActive⟩, keeps.append now,
        .late rfl fruitless complete late, nofun⟩
    · rw [if_neg late]
      simp only [fits.isActive, Bool.false_eq_true, if_false]
      have again : Time.after site.now site.node.config.pollInterval =
          plan.instant (looks ++ [AckLook.ofSite site]).length := by
        rw [List.length_append, List.length_singleton, instant_succ, now, fits.poll_eq]
      refine ⟨⟨fits.id_eq, fits.poll_eq, fits.isActive⟩, keeps.append now, ?_, ?_⟩
      · rw [again]
        refine .waiting fun look mem => ?_
        rcases List.mem_append.1 mem with mem | mem
        · exact fruitless look mem
        · obtain rfl := List.mem_singleton.1 mem
          exact ⟨complete, Int.not_le.1 late⟩
      · rintro _ ⟨⟩
        exact Int.le_add_of_nonneg_right (Int.natCast_nonneg _)

/-- A turn of the wait looks if it is time, and keeps the plan. -/
theorem Fits.polls_advanceAcks (fits : plan.Fits site) (polls : plan.Polls looks site.now acks) :
    plan.Fits (Replication.advanceAcks site plan.seqn acks).1 ∧
      plan.Polls (looks ++ (AckLook.ofWait? site acks).toList) site.now
        (Replication.advanceAcks site plan.seqn acks).2 := by
  cases acks with
  | settled =>
    rw [AckLook.ofWait?, Option.toList_none, List.append_nil]
    exact ⟨fits, polls⟩
  | waiting deadline again =>
    simp only [AckLook.ofWait?, Replication.advanceAcks, fits.isActive, Bool.false_eq_true,
      if_false]
    have notOver := polls.timely again rfl
    by_cases come : again ≤ site.now
    · rw [if_pos come, if_pos come]
      cases polls.stands with
      | waiting fruitless =>
        exact fits.polls_look polls.keeps fruitless (Int.le_antisymm notOver come)
    · rw [if_neg come, if_neg come, Option.toList_none, List.append_nil]
      exact ⟨fits, polls⟩

/-- A turn of the wait leaves no more to do, and less if it was due. -/
theorem Fits.load_advanceAcks_le (fits : plan.Fits site)
    (polls : plan.Polls looks site.now acks) (pos : 0 < plan.poll) :
    (Replication.advanceAcks site plan.seqn acks).2.load plan.poll ≤ acks.load plan.poll ∧
      (acks.again? = some site.now →
        (Replication.advanceAcks site plan.seqn acks).2.load plan.poll < acks.load plan.poll) := by
  cases acks with
  | settled => exact ⟨Nat.le_refl _, nofun⟩
  | waiting deadline again =>
    have notOver := polls.timely again rfl
    have after := (fits.polls_advanceAcks polls).2.stands
    by_cases come : again ≤ site.now
    · suffices less : (Replication.advanceAcks site plan.seqn (.waiting deadline again)).2.load
          plan.poll < (AckWait.waiting deadline again).load plan.poll from
        ⟨Nat.le_of_lt less, fun _ => less⟩
      have now : again = site.now := Int.le_antisymm come notOver
      rw [AckLook.ofWait?, if_pos come, Option.toList_some] at after
      generalize (Replication.advanceAcks site plan.seqn (.waiting deadline again)).2 = later
        at after
      cases polls.stands with
      | waiting =>
        cases after with
        | waiting fruitless =>
          have early : site.now < plan.deadline :=
            (fruitless (.ofSite site) (by simp)).2
          have next := plan.instant_succ looks.length
          simp only [AckWait.load, List.length_append, List.length_singleton, next]
          unfold Time.after
          omega
        | acknowledged => exact Nat.succ_pos _
        | late => exact Nat.succ_pos _
    · have early : Replication.advanceAcks site plan.seqn (.waiting deadline again) =
          (site, .waiting deadline again) := by
        simp only [Replication.advanceAcks, fits.isActive, Bool.false_eq_true, if_false,
          if_neg come]
      rw [early]
      exact ⟨Nat.le_refl _, fun same => absurd (Int.le_of_eq (Option.some.inj same)) come⟩

/-! ## Writes under a plan -/

/-- How a write stands after some looks. -/
inductive Stage (plan : AckPlan) (sum : Int64) (looks : List AckLook) (now : Int) :
    Progress Replication Replication.Result → Prop
  /-- It is going on, and not overdue. -/
  | going {bursts : List Burst} {acks : AckWait} {instant : Int} (stands : plan.Stands looks acks)
    (due : earlier? (Burst.nextDue? bursts) acks.again? = some instant) (timely : now ≤ instant) :
    Stage plan sum looks now (.going (.replicating sum plan.seqn bursts acks))
  | done {result : Except ClusterError Unit} (stands : plan.Stands looks (.settled result)) :
    Stage plan sum looks now (.done (result.map fun _ => (sum, plan.seqn)))

theorem due?_replicating (active : site.isCancelled = false) (sum : Int64) (seqn : Seqn)
    (bursts : List Burst) (acks : AckWait) :
    (Replication.replicating sum seqn bursts acks).due? site =
      earlier? (Burst.nextDue? bursts) acks.again? := by
  cases acks with
  | settled => rfl
  | waiting => simp [Replication.due?, AckWait.again?, active]

theorem stage_remaining {sum : Int64} {now : Int} {bursts : List Burst}
    (polls : plan.Polls looks now acks) (timely : ∀ burst ∈ bursts, now ≤ burst.due) :
    plan.Stage sum looks now (Replication.remaining site sum plan.seqn bursts acks).2 := by
  cases due : earlier? (Burst.nextDue? bursts) acks.again? with
  | none =>
    obtain ⟨sent, settled⟩ := earlier?_eq_none_iff.1 due
    obtain rfl := Burst.nextDue?_eq_none_iff.1 sent
    cases acks with
    | settled => exact .done polls.stands
    | waiting => exact nomatch settled
  | some instant =>
    have notOver : now ≤ instant := by
      rcases (of_earlier?_eq_some due).2.2 with first | first
      · obtain ⟨burst, mem, rfl⟩ := (Burst.of_nextDue?_eq_some first).2
        exact timely burst mem
      · exact polls.timely instant first
    unfold Replication.remaining
    split
    · exact nomatch due
    · exact .going polls.stands due notOver

variable [Carrier C]

/-- A turn of a write keeps the plan. -/
theorem Fits.stage_advance (fits : plan.Fits site) (polls : plan.Polls looks site.now acks)
    (sum : Int64) (bursts : List Burst) :
    plan.Fits ((Replication.replicating sum plan.seqn bursts acks).advance site).1 ∧
      plan.Keeps (looks ++ (AckLook.ofWait? site acks).toList) ∧
      plan.Stage sum (looks ++ (AckLook.ofWait? site acks).toList) site.now
        ((Replication.replicating sum plan.seqn bursts acks).advance site).2 := by
  obtain ⟨carrier, left, sent_eq⟩ := Burst.exists_advanceAll_eq bursts site
  have timely := Burst.now_le_due_advanceAll bursts site
  rw [sent_eq] at timely
  obtain ⟨fits', polls'⟩ := (fits.withCarrier carrier).polls_advanceAcks polls
  have looked : AckLook.ofWait? (site.withCarrier carrier) acks = AckLook.ofWait? site acks := rfl
  rw [looked] at polls'
  simp only [Replication.advance, sent_eq]
  refine ⟨?_, polls'.keeps, stage_remaining polls' timely⟩
  unfold Replication.remaining
  split <;> exact fits'

/-- A turn of a write that is due leaves less to do. -/
theorem Fits.load_advance_lt (fits : plan.Fits site) (polls : plan.Polls looks site.now acks)
    (pos : 0 < plan.poll) {sum : Int64} {bursts : List Burst}
    (due : earlier? (Burst.nextDue? bursts) acks.again? = some site.now) {rest : Replication}
    (goes : ((Replication.replicating sum plan.seqn bursts acks).advance site).2 = .going rest) :
    rest.load plan.poll < Burst.load bursts + acks.load plan.poll := by
  obtain ⟨sends, sends_lt⟩ := Burst.load_advanceAll_le bursts site
  obtain ⟨carrier, left, sent_eq⟩ := Burst.exists_advanceAll_eq bursts site
  rw [sent_eq] at sends sends_lt
  obtain ⟨waits, waits_lt⟩ := (fits.withCarrier carrier).load_advanceAcks_le polls pos
  have rest_eq : rest = .replicating sum plan.seqn left
      (Replication.advanceAcks (site.withCarrier carrier) plan.seqn acks).2 := by
    simp only [Replication.advance, sent_eq, Replication.remaining] at goes
    split at goes
    · exact nomatch goes
    · exact (Progress.going.inj goes).symm
  rw [rest_eq]
  rcases (of_earlier?_eq_some due).2.2 with first | first
  · obtain ⟨burst, mem, come⟩ := (Burst.of_nextDue?_eq_some first).2
    exact Nat.add_lt_add_of_lt_of_le (sends_lt ⟨burst, mem, Int.le_of_eq come⟩) waits
  · exact Nat.add_lt_add_of_le_of_lt sends (waits_lt first)

end AckPlan

/-! ## Courses of writes -/

variable {C : Type} [Carrier C]

omit [Carrier C] in
theorem Replication.now_look (site : Site C) (seqn : Seqn) (deadline : Int) :
    (look site seqn deadline).1.now = site.now := by
  unfold look
  split <;> rfl

omit [Carrier C] in
theorem Replication.now_advanceAcks (site : Site C) (seqn : Seqn) (acks : AckWait) :
    (advanceAcks site seqn acks).1.now = site.now := by
  cases acks with
  | settled => rfl
  | waiting deadline =>
    simp only [advanceAcks]
    split
    · rfl
    · split
      · exact now_look site seqn deadline
      · rfl

theorem Replication.now_advance_replicating (site : Site C) (sum : Int64) (seqn : Seqn)
    (bursts : List Burst) (acks : AckWait) :
    ((Replication.replicating sum seqn bursts acks).advance site).1.now = site.now := by
  have waits : ((Replication.replicating sum seqn bursts acks).advance site).1 =
      (advanceAcks (Burst.advanceAll site bursts).1 seqn acks).1 := by
    simp only [advance, remaining]
    split <;> rfl
  rw [waits, now_advanceAcks, Burst.now_advanceAll]

/-- What may happen to a member while a call goes on: whatever its node can do, and whatever its
carrier brings, but it is not stopped. -/
def Site.StaysUp (site later : Site C) : Prop :=
  site.Deeds later ∧ later.isCancelled = false

/-- How much is left to do of an activity that is a write. -/
def Activity.writeLoad (poll : Nat) : Activity → Nat
  | .writing work => work.load poll
  | _ => 0

namespace AckPlan

/-- A write of this sum goes by its plan. -/
structure Sound (plan : AckPlan) (sum : Int64) (course : Course C) : Prop where
  fits : plan.Fits course.site
  keeps : plan.Keeps course.looks
  stage : ∃ progress, course.progress = (progress.mapWork .writing).mapResult .written ∧
    plan.Stage sum course.looks course.site.now progress

namespace Sound

variable {plan : AckPlan} {sum : Int64} {course next : Course C}

omit [Carrier C] in
/-- While a write goes on, it is being replicated. -/
theorem going (sound : plan.Sound sum course) {activity : Activity}
    (going : course.progress = .going activity) :
    ∃ bursts acks instant, activity = .writing (.replicating sum plan.seqn bursts acks) ∧
      plan.Polls course.looks course.site.now acks ∧
      earlier? (Burst.nextDue? bursts) acks.again? = some instant ∧ course.site.now ≤ instant := by
  obtain ⟨progress, same, stage⟩ := sound.stage
  rw [going] at same
  cases stage with
  | done => exact nomatch same
  | @going bursts acks instant stands due timely =>
    refine ⟨bursts, acks, instant, Progress.going.inj same, ⟨sound.keeps, stands, ?_⟩, due, timely⟩
    exact fun again mem => Int.le_trans timely ((of_earlier?_eq_some due).2.1 again mem)

theorem goOn (sound : plan.Sound sum course) {activity : Activity}
    (going : course.progress = .going activity) : plan.Sound sum (course.goOn activity) := by
  obtain ⟨bursts, acks, -, rfl, polls, -⟩ := sound.going going
  obtain ⟨fits, keeps, stage⟩ := sound.fits.stage_advance polls sum bursts
  rw [← Replication.now_advance_replicating course.site sum plan.seqn bursts acks] at stage
  exact ⟨fits, course.looks_goOn _ ▸ keeps, _, rfl, course.looks_goOn _ ▸ stage⟩

theorem step (sound : plan.Sound sum course) (step : course.Step Site.StaysUp next) :
    plan.Sound sum next := by
  obtain ⟨progress, same, stage⟩ := sound.stage
  cases step with
  | goOn going => exact sound.goOn going
  | elsewhere happens moment =>
    obtain ⟨deeds, isActive⟩ := happens
    refine ⟨⟨deeds.id_eq.trans sound.fits.id_eq, ?_, isActive⟩, sound.keeps, progress, same, ?_⟩
    · rw [deeds.config_eq]
      exact sound.fits.poll_eq
    · have now : _ = course.site.now := congrArg Moment.now moment
      rw [← now] at stage
      exact stage
  | pass later timely =>
    refine ⟨⟨sound.fits.id_eq, sound.fits.poll_eq, sound.fits.isActive⟩, sound.keeps, progress,
      same, ?_⟩
    cases stage with
    | done stands => exact .done stands
    | going stands due =>
      refine .going stands due (timely _ _ same ?_)
      exact (due?_replicating sound.fits.isActive sum plan.seqn _ _).trans due

/-- A write that goes on is due at an instant that is not over, whatever the clock does. -/
theorem due (sound : plan.Sound sum course) {activity : Activity}
    (going : course.progress = .going activity) :
    ∃ instant, course.site.now ≤ instant ∧
      ∀ moment, activity.due? { course.site with moment } false = some instant := by
  obtain ⟨bursts, acks, instant, rfl, -, due, timely⟩ := sound.going going
  refine ⟨instant, timely, fun moment => ?_⟩
  have active : ({ course.site with moment } : Site C).isCancelled = false := sound.fits.isActive
  exact (due?_replicating active sum plan.seqn bursts acks).trans due

theorem load_lt (sound : plan.Sound sum course) (pos : 0 < plan.poll) {activity rest : Activity}
    (going : course.progress = .going activity)
    (due : activity.due? course.site false = some course.site.now)
    (goes : (activity.advance course.site false).progress = .going rest) :
    rest.writeLoad plan.poll < activity.writeLoad plan.poll := by
  obtain ⟨bursts, acks, instant, rfl, polls, first, -⟩ := sound.going going
  have now := (due?_replicating sound.fits.isActive sum plan.seqn bursts acks).symm.trans due
  have less := @Fits.load_advance_lt _ plan course.site _ _ _ sound.fits polls pos sum bursts now
  simp only [Activity.advance] at goes
  cases left : ((Replication.replicating sum plan.seqn bursts acks).advance course.site).2 with
  | done =>
    rw [left] at goes
    cases goes
  | going work =>
    rw [left] at goes
    obtain rfl := Progress.going.inj goes
    exact less left

/-- A write that goes by its plan comes to an end. -/
theorem exists_done (sound : plan.Sound sum course) (pos : 0 < plan.poll) :
    ∃ final outcome, course.Run Site.StaysUp final ∧ final.progress = .done outcome :=
  Course.exists_done (Activity.writeLoad plan.poll) (fun sound => sound.step)
    (fun sound => sound.due) (fun sound => sound.load_lt pos) sound

omit [Carrier C] in
/-- All looks but the last one have been in vain. -/
theorem fruitless_dropLast (sound : plan.Sound sum course) :
    ∀ look ∈ course.looks.dropLast, plan.IsFruitless look := by
  obtain ⟨progress, -, stage⟩ := sound.stage
  obtain ⟨acks, stands⟩ : ∃ acks, plan.Stands course.looks acks := by
    cases stage with
    | going stands => exact ⟨_, stands⟩
    | done stands => exact ⟨_, stands⟩
  intro look mem
  cases stands with
  | waiting fruitless => exact fruitless look (List.dropLast_subset _ mem)
  | acknowledged split fruitless =>
    rw [split, List.dropLast_concat] at mem
    exact fruitless look mem
  | late split fruitless =>
    rw [split, List.dropLast_concat] at mem
    exact fruitless look mem

omit [Carrier C] in
/-- What the caller is told depends on the last look. -/
theorem decided (sound : plan.Sound sum course) {outcome : Outcome}
    (ends : course.progress = .done outcome) :
    ∃ before last, course.looks = before ++ [last] ∧
      (outcome = .written (.ok (sum, plan.seqn)) ∧ plan.missing last = [] ∨
        outcome = .written (.error (.replicationIncomplete plan.seqn (plan.missing last))) ∧
          plan.missing last ≠ [] ∧ plan.deadline ≤ last.instant) := by
  obtain ⟨progress, same, stage⟩ := sound.stage
  rw [ends] at same
  cases stage with
  | going => exact nomatch same
  | done stands =>
    obtain rfl := Progress.done.inj same
    cases stands with
    | acknowledged split _ complete => exact ⟨_, _, split, .inl ⟨rfl, complete⟩⟩
    | late split _ incomplete late => exact ⟨_, _, split, .inr ⟨rfl, incomplete, late⟩⟩

end Sound

/-! ## The beginning -/

/-- The plan for a number at a site. -/
def ofSite (site : Site C) (seqn : Seqn) : AckPlan :=
  ⟨site.node.id, seqn, site.now, site.node.config.ackTimeout, site.node.config.pollInterval⟩

omit [Carrier C] in
theorem instant_zero (plan : AckPlan) : plan.instant 0 = plan.start := by
  simp [instant, Time.after]

end AckPlan

/-- A write that is applied begins like one that is due to send and to look. -/
theorem Replication.advance_opening_eq {site : Site C} {delta : Int64} {number : Option Seqn}
    {next : Node} {write : AppliedWrite} (active : site.isCancelled = false)
    (starts : site.node.startWrite site.now delta number = .applied next write) :
    (opening delta number).advance site =
      (replicating write.sum write.seqn
        (write.letters.map (Burst.starting next.config.retry site.now))
        (.waiting (Time.after site.now next.config.ackTimeout) site.now)).advance
          (site.withNode next) := by
  have sends : (site.withNode next).sendAll write.letters = Burst.advanceAll (site.withNode next)
      (write.letters.map (Burst.starting next.config.retry site.now)) := rfl
  simp only [advance, begin, starts, sends]
  obtain ⟨carrier, same⟩ := Burst.exists_carrier_advanceAll
    (write.letters.map (Burst.starting next.config.retry site.now)) (site.withNode next)
  have active : ((site.withNode next).withCarrier carrier).isCancelled = false := active
  have come : site.now ≤ ((site.withNode next).withCarrier carrier).now := Int.le_refl _
  simp only [same, advanceAcks, active, if_pos come, Bool.false_eq_true, if_false]
  rfl

namespace AckPlan

/-- A write that is applied goes by its plan. -/
theorem sound_opening {site : Site C} {delta : Int64} {number : Option Seqn} {next : Node}
    {write : AppliedWrite} (active : site.isCancelled = false)
    (starts : site.node.startWrite site.now delta number = .applied next write) :
    (ofSite site write.seqn).Sound write.sum
      (Course.opening site (.writing (.opening delta number))) := by
  obtain ⟨-, -, applied⟩ := Node.applied_of_startWrite starts
  have next_eq : next = (site.node.applyWrite site.now delta write.seqn).1 :=
    congrArg Prod.fst applied
  have fits : (ofSite site write.seqn).Fits (site.withNode next) :=
    next_eq ▸ ⟨rfl, rfl, active⟩
  have polls : (ofSite site write.seqn).Polls [] (site.withNode next).now
      (.waiting (Time.after site.now next.config.ackTimeout) site.now) := by
    refine ⟨rfl, ?_, ?_⟩
    · have stands : (ofSite site write.seqn).Stands [] _ := .waiting nofun
      rw [List.length_nil, instant_zero] at stands
      exact next_eq ▸ stands
    · rintro _ ⟨⟩
      exact Int.le_refl _
  obtain ⟨fits', keeps, stage⟩ := fits.stage_advance polls write.sum
    (write.letters.map (Burst.starting next.config.retry site.now))
  have opens := Replication.advance_opening_eq active starts
  have now : ((Replication.opening delta number).advance site).1.now = (site.withNode next).now := by
    rw [opens, Replication.now_advance_replicating]
  have number_eq : (ofSite site write.seqn).seqn = write.seqn := rfl
  rw [number_eq, ← opens] at fits' stage
  rw [← now] at stage
  have looked : AckLook.ofWait? (site.withNode next)
      (.waiting (Time.after site.now next.config.ackTimeout) site.now) = some (.ofSite site) := by
    rw [next_eq]
    exact if_pos (Int.le_refl _)
  have looks : (Course.opening site (.writing (.opening delta number))).looks =
      [] ++ [AckLook.ofSite site] := Course.looks_goOn _ _
  rw [looked, Option.toList_some, ← looks] at keeps stage
  exact ⟨fits', keeps, _, rfl, stage⟩

end AckPlan

/-- The write that was applied has left what its leader holds then. -/
theorem Node.held_of_startWrite {node next : Node} {now : Int} {delta : Int64}
    {number : Option Seqn} {write : AppliedWrite}
    (starts : node.startWrite now delta number = .applied next write) :
    (write.sum, write.seqn) = next.held := by
  obtain ⟨-, -, applied⟩ := applied_of_startWrite starts
  obtain ⟨next_eq, write_eq⟩ := Prod.mk.inj applied
  rw [next_eq]
  exact congrArg (·.sum, write.seqn) write_eq

namespace Course

/-- The acknowledgements of a write are looked for at the instant at which it is applied and then
after equal pauses, until at one look every other node that is alive has acknowledged it, or the time
is over.  The caller is told the state right after the write if there was such a look; otherwise
it is told which nodes were alive and had not acknowledged the write at the last look, which was the
first one at or after the deadline.  That holds whatever else happens to the member in between, and
unless it is stopped, the call ends. -/
theorem acks_decide {site : Site C} {delta : Int64} {number : Option Seqn} {next : Node}
    {write : AppliedWrite} {course : Course C} (valid : site.node.config.IsValid)
    (active : site.isCancelled = false)
    (starts : site.node.startWrite site.now delta number = .applied next write)
    (run : (opening site (.writing (.opening delta number))).Run Site.StaysUp course) :
    let deadline := Time.after site.now site.node.config.ackTimeout
    (course.looks.map (·.instant) = (List.range course.looks.length).map fun index =>
        Time.after site.now (index * site.node.config.pollInterval)) ∧
      (∀ look ∈ course.looks.dropLast,
        ¬look.IsComplete site.node.id write.seqn ∧ look.instant < deadline) ∧
      (∀ outcome, course.progress = .done outcome → ∃ result last,
        outcome = .written result ∧ course.looks.getLast? = some last ∧
          (result = .ok next.held ↔
            ∃ look ∈ course.looks, look.IsComplete site.node.id write.seqn) ∧
          ((∀ look ∈ course.looks, ¬look.IsComplete site.node.id write.seqn) →
            deadline ≤ last.instant ∧ ∃ missing, missing ≠ [] ∧
              last.Lacks site.node.id write.seqn missing ∧
              result = .error (.replicationIncomplete write.seqn missing))) ∧
      ∃ final outcome, course.Run Site.StaysUp final ∧ final.progress = .done outcome := by
  intro deadline
  have sound := run.invariant (fun sound step => sound.step step)
    (AckPlan.sound_opening active starts)
  have pos : 0 < site.node.config.pollInterval :=
    @Config.IsValid.interval_pos _ valid ("ack_poll_interval", _) (by simp [Config.intervals])
  have early := sound.fruitless_dropLast
  refine ⟨sound.keeps, fun look mem => ?_, fun outcome ends => ?_, sound.exists_done pos⟩
  · obtain ⟨incomplete, before⟩ := early look mem
    exact ⟨fun complete => incomplete (AckLook.missingAcks_eq_nil_iff.2 complete), before⟩
  · obtain ⟨before, last, split, decided⟩ := sound.decided ends
    have last_mem : last ∈ course.looks := by simp [split]
    have found : course.looks.getLast? = some last := by simp [split]
    rcases decided with ⟨rfl, complete⟩ | ⟨rfl, incomplete, late⟩
    · have complete := AckLook.missingAcks_eq_nil_iff.1 complete
      have told : (.ok (write.sum, write.seqn) : Replication.Result) = .ok next.held :=
        congrArg _ (Node.held_of_startWrite starts)
      exact ⟨_, last, rfl, found, ⟨fun _ => ⟨last, last_mem, complete⟩, fun _ => told⟩,
        fun none => absurd complete (none last last_mem)⟩
    · refine ⟨_, last, rfl, found, ⟨nofun, ?_⟩,
        fun _ => ⟨late, _, incomplete, last.lacks_missingAcks _ _, rfl⟩⟩
      rintro ⟨look, mem, complete⟩
      have none := AckLook.missingAcks_eq_nil_iff.2 complete
      rw [split] at mem early
      rcases List.mem_append.1 mem with mem | mem
      · rw [List.dropLast_concat] at early
        exact absurd none (early look mem).1
      · obtain rfl := List.mem_singleton.1 mem
        exact absurd none incomplete

/-- A primary with one peer, which looks for acknowledgements every four milliseconds for six. -/
def leader : Site Recorder where
  moment := ⟨0, 0.0⟩
  carrier := {}
  member :=
    let config : Config :=
      { (Config.ofPrimary 1 (.v4 ⟨10, 0, 0, 1⟩ 1)).withPeer ⟨2, .v4 ⟨10, 0, 0, 2⟩ 1⟩ with
        requestTimeout := 3
        pollInterval := 4
        retry := .single }
    { node := (Node.create config config.bindAddress 0).toOption.getD default
      endpoint := 0 }

/-- While the write is under way another node joins, and the peer acknowledges: the newcomer is the
one that is missing in the end. -/
theorem acks_decide_newcomer :
    ∃ next write course, leader.node.config.IsValid ∧ leader.isCancelled = false ∧
      leader.node.startWrite 0 7 none = .applied next write ∧
      (opening leader (.writing (.opening 7 none))).Run Site.StaysUp course ∧
      course.progress = .done (.written (.error (.replicationIncomplete 1 [3]))) ∧
      course.looks.map (·.instant) = [0, 4, 8] ∧
      ∃ last, course.looks.getLast? = some last ∧ last.Lacks 1 1 [3] := by
  have hears : ∀ (course : Course Recorder) (message : Message) (source : Address),
      course.site.isCancelled = false → course.Step Site.StaysUp { course with
        site := course.site.withNode (course.site.node.handle course.site.now message source).1 } :=
    fun course message source active =>
      .elsewhere ⟨.withNode (.hear message source), active⟩ rfl
  have joins : (opening leader (.writing (.opening 7 none))).Run Site.StaysUp _ :=
    .single (hears _ (.joinRequest 3 0) (.v4 ⟨10, 0, 0, 3⟩ 1) rfl)
  have looks :=
    (joins.wait 4 (by decide) (by rintro _ _ ⟨⟩ ⟨⟩; decide)).goOn rfl rfl (by decide)
  have acknowledges : Run Site.StaysUp _ _ :=
    .tail looks (hears _ (.stateAck 2 1) (.v4 ⟨10, 0, 0, 2⟩ 1) rfl)
  have run :=
    (acknowledges.wait 8 (by decide) (by rintro _ _ ⟨⟩ ⟨⟩; decide)).goOn rfl rfl (by decide)
  have valid : leader.node.config.IsValid := by decide
  have starts : leader.node.startWrite leader.now 7 none = .applied _ _ := rfl
  obtain ⟨instants, -, decided, -⟩ := acks_decide valid rfl starts run
  obtain ⟨result, last, told, found, complete, missing⟩ :=
    decided (.written (.error (.replicationIncomplete 1 [3]))) rfl
  obtain rfl := Outcome.written.inj told
  obtain ⟨-, listed, -, lacks, same⟩ :=
    missing fun look mem acknowledged => nomatch complete.2 ⟨look, mem, acknowledged⟩
  obtain ⟨-, rfl⟩ := ClusterError.replicationIncomplete.inj (Except.error.inj same)
  exact ⟨_, _, _, valid, rfl, starts, run, rfl, instants, last, found, lacks⟩

end Course

end SumCluster
