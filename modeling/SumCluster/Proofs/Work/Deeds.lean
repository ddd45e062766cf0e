import SumCluster.Proofs.Node.Held
import SumCluster.Proofs.Node.Standing
import SumCluster.Timeline.Call

/-!
# Work is made of deeds

Whatever goes on at a member changes its node by deeds only, one after the other
(`Activity.deeds_advance`).  So as long as a call goes on, however the tasks take turns and the
clock moves, every member stays who it is, and its number never falls (`Call.lasts_of_run?`).
-/

namespace SumCluster

/-- Deeds of a node one after the other, at any instants. -/
def Node.Deeds : Node → Node → Prop :=
  Relation.ReflTransGen fun node next => ∃ now cause letters, node.Deed now cause next letters

namespace Node.Deeds

variable {node middle next : Node}

theorem refl (node : Node) : node.Deeds node :=
  Relation.ReflTransGen.refl

theorem single {now : Int} {cause : Cause} {letters : List Letter}
    (deed : node.Deed now cause next letters) : node.Deeds next :=
  Relation.ReflTransGen.single ⟨now, cause, letters, deed⟩

theorem trans (first : node.Deeds middle) (second : middle.Deeds next) : node.Deeds next :=
  Relation.ReflTransGen.trans first second

/-- What each deed keeps holds after any deeds. -/
theorem invariant {P : Node → Prop} (deeds : node.Deeds next)
    (keeps : ∀ {node next : Node} {now : Int} {cause : Cause} {letters : List Letter},
      P node → node.Deed now cause next letters → P next)
    (start : P node) : P next := by
  induction deeds with
  | refl => exact start
  | tail _ step ih =>
    obtain ⟨_, _, _, deed⟩ := step
    exact keeps ih deed

theorem id_eq (deeds : node.Deeds next) : next.id = node.id :=
  deeds.invariant (fun same deed => deed.id_eq.trans same) rfl

theorem config_eq (deeds : node.Deeds next) : next.config = node.config :=
  deeds.invariant (fun same deed => deed.config_eq.trans same) rfl

theorem seqn_le (deeds : node.Deeds next) : node.state.seqn ≤ next.state.seqn :=
  deeds.invariant (fun le deed => UInt64.le_trans le deed.seqn_le) (UInt64.le_refl _)

end Node.Deeds

variable {C : Type}

/-- A later stage of the same member, after some deeds. -/
def Site.Deeds (site later : Site C) : Prop :=
  site.node.Deeds later.node

namespace Site.Deeds

variable {site middle later : Site C}

theorem refl (site : Site C) : site.Deeds site :=
  Node.Deeds.refl site.node

theorem trans (first : site.Deeds middle) (second : middle.Deeds later) : site.Deeds later :=
  Node.Deeds.trans first second

/-- A deed at a site. -/
theorem withNode {next : Node} {cause : Cause} {letters : List Letter}
    (deed : site.node.Deed site.now cause next letters) : site.Deeds (site.withNode next) :=
  Node.Deeds.single deed

end Site.Deeds

variable [Carrier C]

/-! ## Bursts -/

namespace Burst

/-- To send changes nothing of a site but its carrier. -/
theorem exists_carrier_sendCopies (letter : Letter) (policy : RetryPolicy) (left : Nat)
    (site : Site C) :
    ∃ carrier, (sendCopies site letter policy left).1 = site.withCarrier carrier := by
  induction left generalizing site with
  | zero => exact ⟨site.carrier, rfl⟩
  | succ left ih =>
    simp only [sendCopies]
    split
    · exact ⟨_, rfl⟩
    · split
      · obtain ⟨carrier, same⟩ := ih (site.send letter).2
        exact ⟨carrier, same⟩
      · exact ⟨_, rfl⟩

theorem exists_carrier_advanceAll (bursts : List Burst) (site : Site C) :
    ∃ carrier, (advanceAll site bursts).1 = site.withCarrier carrier := by
  induction bursts generalizing site with
  | nil => exact ⟨site.carrier, rfl⟩
  | cons burst rest ih =>
    obtain ⟨carrier, same⟩ : ∃ carrier, (burst.advance site).1 = site.withCarrier carrier := by
      unfold advance
      split
      · exact exists_carrier_sendCopies burst.letter burst.policy burst.left site
      · exact ⟨site.carrier, rfl⟩
    obtain ⟨carrier', same'⟩ := ih (burst.advance site).1
    refine ⟨carrier', ?_⟩
    show (advanceAll (burst.advance site).1 rest).1 = _
    rw [same', same]
    rfl

theorem deeds_advanceAll (bursts : List Burst) (site : Site C) :
    site.Deeds (advanceAll site bursts).1 := by
  obtain ⟨carrier, same⟩ := exists_carrier_advanceAll bursts site
  rw [same]
  exact .refl site

end Burst

/-! ## Elections -/

namespace Contest

theorem deeds_announce (site : Site C) (bursts : List Burst) :
    site.Deeds (announce site bursts).1 :=
  Burst.deeds_advanceAll bursts site

theorem deeds_claim (site : Site C) : site.Deeds (claim site).1 := by
  unfold claim
  split
  · exact .refl site
  · rename_i claims
    exact (Site.Deeds.withNode (.claim claims)).trans (deeds_announce _ _)

theorem deeds_look (site : Site C) (started : Int) : site.Deeds (look site started).1 := by
  unfold look
  split
  · exact .refl site
  · exact deeds_claim site
  · split
    · exact .withNode .giveUp
    · exact .refl site

theorem deeds_challenge (site : Site C) (started : Int) (bursts : List Burst) :
    site.Deeds (challenge site started bursts).1 := by
  have sent := Burst.deeds_advanceAll bursts site
  simp only [challenge]
  split
  · exact sent.trans (deeds_look _ started)
  · exact sent

theorem deeds_begin (site : Site C) : site.Deeds (begin site).1 := by
  unfold begin
  split
  · exact .refl site
  · rename_i opens
    exact (Site.Deeds.withNode (.contend opens)).trans (deeds_claim _)
  · rename_i opens
    exact (Site.Deeds.withNode (.contend opens)).trans (deeds_challenge _ _ _)

theorem deeds_advance (site : Site C) (contest : Contest) :
    site.Deeds (contest.advance site).1 := by
  cases contest with
  | opening => exact deeds_begin site
  | challenging started bursts => exact deeds_challenge site started bursts
  | awaiting started =>
    simp only [advance]
    split
    · exact .withNode .giveUp
    · exact deeds_look site started
  | announcing bursts => exact deeds_announce site bursts

end Contest

/-! ## Duties -/

namespace Beating

theorem deeds_advance (site : Site C) (beating : Beating) :
    site.Deeds (beating.advance site).1 := by
  unfold advance
  split
  · exact .refl site
  · split
    · have beats : site.Deeds (site.withNode (site.node.beat site.now (beating.ticks + 1)).1) :=
        .withNode (.beat _)
      exact beats.trans (Burst.deeds_advanceAll _ _)
    · exact .refl site

end Beating

namespace Watching

theorem deeds_contest (site : Site C) (due : Int) (election : Contest) :
    site.Deeds (contest site due election).1 := by
  have contends := Contest.deeds_advance site election
  unfold contest
  split
  · rename_i same
    rw [same] at contends
    exact contends
  · rename_i same
    rw [same] at contends
    exact contends

theorem deeds_decide (site : Site C) (due : Int) : site.Deeds (Watching.decide site due).1 := by
  unfold Watching.decide
  split
  · exact deeds_contest site due .opening
  · exact .refl site

theorem deeds_look (site : Site C) (due : Int) : site.Deeds (look site due).1 := by
  unfold look
  simp only
  split
  · exact .refl site
  · split
    · exact deeds_decide site _
    · exact .refl site

theorem deeds_advance (site : Site C) (watching : Watching) :
    site.Deeds (watching.advance site).1 := by
  cases watching with
  | looking due =>
    simp only [advance]
    split
    · exact .refl site
    · split
      · exact deeds_look site due
      · exact .refl site
  | hesitating due wake =>
    simp only [advance]
    split
    · exact .refl site
    · split
      · exact deeds_decide site due
      · exact .refl site
  | contesting due election => exact deeds_contest site due election

end Watching

/-! ## Joining -/

namespace Joining

omit [Carrier C] in
theorem deeds_look (site : Site C) (left : Nat) (deadline : Int) :
    site.Deeds (look site left deadline).1 := by
  unfold look
  split <;> exact .refl site

theorem deeds_startRounds (rounds : Nat) (site : Site C) :
    site.Deeds (startRounds site rounds).1 := by
  induction rounds generalizing site with
  | zero => exact .refl site
  | succ left ih =>
    unfold startRounds
    split
    · exact .refl site
    · rename_i address _
      have asks : site.Deeds
          (site.sendAll [⟨address, site.node.joinRequest site.now⟩]).1 :=
        Burst.deeds_advanceAll _ site
      simp only
      split
      · exact asks
      · split
        · exact asks.trans (ih _)
        · exact asks.trans (deeds_look _ _ _)

theorem deeds_wait (site : Site C) (left : Nat) (deadline : Int) :
    site.Deeds (wait site left deadline).1 := by
  unfold wait
  split
  · exact deeds_startRounds left site
  · exact deeds_look site left deadline

theorem deeds_advance (site : Site C) (joining : Joining) :
    site.Deeds (joining.advance site).1 := by
  cases joining with
  | starting rounds => exact deeds_startRounds rounds site
  | asking left bursts =>
    have asks := Burst.deeds_advanceAll bursts site
    simp only [advance]
    split
    · exact asks.trans (deeds_wait _ left _)
    · exact asks
  | waiting left deadline =>
    simp only [advance]
    split
    · exact .refl site
    · exact deeds_wait site left deadline

end Joining

/-! ## Writes -/

namespace Replication

omit [Carrier C] in
theorem deeds_look (site : Site C) (seqn : Seqn) (deadline : Int) :
    site.Deeds (look site seqn deadline).1 := by
  have looks : site.Deeds (site.withNode (site.node.pollAcks site.now seqn deadline).1) :=
    .withNode (.look seqn deadline)
  unfold look
  split
  · rename_i same
    rw [same] at looks
    exact looks
  · rename_i same
    rw [same] at looks
    exact looks

omit [Carrier C] in
theorem deeds_advanceAcks (site : Site C) (seqn : Seqn) (acks : AckWait) :
    site.Deeds (advanceAcks site seqn acks).1 := by
  cases acks with
  | settled => exact .refl site
  | waiting deadline again =>
    simp only [advanceAcks]
    split
    · exact .refl site
    · split
      · exact deeds_look site seqn deadline
      · exact .refl site

omit [Carrier C] in
theorem deeds_remaining (site : Site C) (sum : Int64) (seqn : Seqn) (bursts : List Burst)
    (acks : AckWait) : site.Deeds (remaining site sum seqn bursts acks).1 := by
  unfold remaining
  split <;> exact .refl site

theorem deeds_begin (site : Site C) (delta : Int64) (seqn : Option Seqn) :
    site.Deeds (begin site delta seqn).1 := by
  unfold begin
  split
  · exact .refl site
  · exact .refl site
  · rename_i node write starts
    have writes : site.Deeds (site.withNode node) := .withNode (.write starts)
    have sends : (site.withNode node).Deeds ((site.withNode node).sendAll write.letters).1 :=
      Burst.deeds_advanceAll _ _
    exact writes.trans (sends.trans ((deeds_look _ _ _).trans (deeds_remaining _ _ _ _ _)))

theorem deeds_advance (site : Site C) (replication : Replication) :
    site.Deeds (replication.advance site).1 := by
  cases replication with
  | opening delta seqn => exact deeds_begin site delta seqn
  | replicating sum seqn bursts acks =>
    refine (Burst.deeds_advanceAll bursts site).trans ?_
    exact (deeds_advanceAcks _ seqn acks).trans (deeds_remaining _ _ _ _ _)

end Replication

/-! ## Activities -/

namespace Activity

omit [Carrier C] in
theorem deeds_handleAll (now : Int) (arrivals : List Arrival) (node : Node) :
    node.Deeds (handleAll now node arrivals).1 := by
  induction arrivals generalizing node with
  | nil => exact .refl node
  | cons arrival rest ih =>
    cases arrival with
    | ok arrival =>
      exact (Node.Deeds.single (.hear arrival.1 arrival.2)).trans (ih _)
    | error error =>
      cases error with
      | shutdown => exact .refl node
      | codec =>
        have drops : node.Deed now .own node.countUnreadable [] := .drop
        exact (Node.Deeds.single drops).trans (ih _)
      | _ => exact ih node

theorem deeds_receive (site : Site C) : site.Deeds (receive site).site := by
  unfold receive
  split
  · exact .refl site
  · exact deeds_handleAll site.now _ site.node

/-- Whatever goes on at a member changes its node by deeds. -/
theorem deeds_advance (site : Site C) (hasCompany : Bool) (activity : Activity) :
    site.Deeds (activity.advance site hasCompany).site := by
  cases activity with
  | receiving => exact deeds_receive site
  | beating work => exact Beating.deeds_advance site work
  | watching work => exact Watching.deeds_advance site work
  | joining work => exact Joining.deeds_advance site work
  | sending bursts => exact Burst.deeds_advanceAll bursts site
  | contesting work => exact Contest.deeds_advance site work
  | writing work => exact Replication.deeds_advance site work
  | serving request work => exact Replication.deeds_advance site work
  | stopping isAsked =>
    simp only [advance]
    split
    · exact .refl site
    · split
      · exact .refl site
      · exact .refl site

end Activity

/-! ## Timelines -/

/-- Each member of a timeline is still there later, after some deeds. -/
def Timeline.Deeds (timeline later : Timeline C) : Prop :=
  ∀ member node, timeline.node? member = some node →
    ∃ next, later.node? member = some next ∧ node.Deeds next

namespace Timeline

variable {timeline later : Timeline C}

omit [Carrier C] in
theorem Deeds.of_members_eq (same : later.members = timeline.members) : timeline.Deeds later := by
  intro member node found
  refine ⟨node, ?_, .refl node⟩
  unfold node? at found ⊢
  rw [same]
  exact found

omit [Carrier C] in
theorem Deeds.trans {middle : Timeline C} (first : timeline.Deeds middle)
    (second : middle.Deeds later) : timeline.Deeds later := by
  intro member node found
  obtain ⟨between, found, before⟩ := first member node found
  obtain ⟨next, found, after⟩ := second member between found
  exact ⟨next, found, before.trans after⟩

/-- An activity that goes on at one member leaves the others as they are. -/
theorem deeds_advance (timeline : Timeline C) (member : Nat) (activity : Activity) :
    timeline.Deeds (timeline.advance member activity).1 := by
  unfold advance
  split
  · exact .of_members_eq rfl
  · rename_i site at_member
    obtain ⟨stage, stage_found, rfl⟩ := Option.map_eq_some_iff.1 at_member
    intro other node found
    obtain ⟨before, before_found, rfl⟩ := Option.map_eq_some_iff.1 found
    by_cases same : member = other
    · subst same
      obtain rfl : before = stage := Option.some.inj (before_found.symm.trans stage_found)
      have turn := Activity.deeds_advance ⟨timeline.moment, timeline.carrier, before⟩
        (timeline.hasAwaited member) activity
      have in_range := (List.getElem?_eq_some_iff.1 stage_found).1
      refine ⟨_, ?_, turn⟩
      simp [node?, withSite, spawn, addTasks, in_range, Site.node]
    · refine ⟨before.node, ?_, .refl _⟩
      simp [node?, withSite, spawn, addTasks, List.getElem?_set_ne same, before_found]

theorem deeds_stepTask? (steps : timeline.stepTask? = some later) : timeline.Deeds later := by
  obtain ⟨task, -, rfl⟩ := Option.map_eq_some_iff.1 steps
  let others := { timeline with tasks := timeline.tasks.eraseP timeline.isReady }
  have goes : timeline.Deeds (others.advance task.member task.activity).1 :=
    (Deeds.of_members_eq rfl).trans (deeds_advance others task.member task.activity)
  simp only
  split
  · exact goes
  · exact goes.trans (.of_members_eq rfl)

end Timeline

/-! ## Calls -/

namespace Call

variable {α : Type} {timeline : Timeline C} {call : Call C α}

theorem deeds_pursue (timeline : Timeline C) (demand : Demand) :
    timeline.Deeds (pursue timeline demand).1 := by
  cases demand with
  | pause => exact .of_members_eq rfl
  | perform member activity => exact timeline.deeds_advance member activity

theorem deeds_advance (timeline : Timeline C) (call : Call C α) :
    timeline.Deeds (call.advance timeline).1 := by
  unfold advance
  split
  · exact .of_members_eq rfl
  · split
    · exact deeds_pursue timeline _
    · exact .of_members_eq rfl

theorem events_advance (timeline : Timeline C) (call : Call C α) :
    (call.advance timeline).2.events = call.events := by
  unfold advance
  split
  · rfl
  · split <;> rfl

theorem deeds_step (timeline : Timeline C) (alone : call.events = []) :
    timeline.Deeds (call.step timeline).1 ∧ (call.step timeline).2.events = [] := by
  have none : (call.advance timeline).2.events = [] := (events_advance timeline call).trans alone
  unfold step
  simp only [none, happen]
  exact ⟨deeds_advance timeline call, trivial⟩

/-- A call during which nothing else happens takes the members through deeds. -/
theorem deeds_of_run? {turns : Nat} {report : Report C α} (alone : call.events = [])
    (runs : call.run? timeline turns = some report) : timeline.Deeds report.timeline := by
  -- a turn ends the call, goes on with it or with a task, or moves the clock
  induction turns generalizing timeline call with
  | zero => exact nomatch runs
  | succ turns ih =>
    unfold run? at runs
    split at runs
    · rename_i ends
      obtain rfl := Option.some.inj runs
      unfold report? at ends
      split at ends
      · obtain rfl := Option.some.inj ends
        exact .of_members_eq rfl
      · simp at ends
    · simp only at runs
      split at runs
      · obtain ⟨steps, alone⟩ := deeds_step timeline alone
        exact steps.trans (ih alone runs)
      · split at runs
        · rename_i steps
          exact (Timeline.deeds_stepTask? steps).trans (ih alone runs)
        · split at runs
          · simp at runs
          · rename_i instant _
            have moves : timeline.Deeds (timeline.moveTo instant) := .of_members_eq rfl
            exact moves.trans (ih alone runs)

/-- A member stays who it is, and its number never falls. -/
theorem lasts_of_run? {turns : Nat} {report : Report C α} (alone : call.events = [])
    (runs : call.run? timeline turns = some report) {member : Nat} {node : Node}
    (found : timeline.node? member = some node) :
    ∃ next, report.timeline.node? member = some next ∧ next.id = node.id ∧
      node.state.seqn ≤ next.state.seqn := by
  obtain ⟨next, found, deeds⟩ := deeds_of_run? alone runs member node found
  exact ⟨next, found, deeds.id_eq, deeds.seqn_le⟩

end Call

end SumCluster
