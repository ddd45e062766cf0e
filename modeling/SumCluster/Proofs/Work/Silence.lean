import SumCluster.Carrier.Recorder
import SumCluster.Proofs.Config
import SumCluster.Proofs.Node.Bid
import SumCluster.Proofs.Node.Unheard
import SumCluster.Proofs.Work.Sending

/-!
# An election that nobody answers

A backup that opens an election, and hears nothing while it runs, takes the lead: at once if it knows
no fresh higher node, and otherwise when the time is over and its challenges have been sent.  It
tells every node that it knows, and the election has been won for its caller when that is done
(`Course.silence_wins`).  The caller is not told earlier, and in between the node already does what a
primary does (`Course.silence_wins_late`).
-/

namespace SumCluster

/-! ## Elections -/

namespace Node

/-- The challenges of an election that begins now. -/
def challenges (node : Node) (now : Int) : List Letter :=
  (node.challenge now).toEach (node.rivals now)

/-- What a node sends when it takes the lead now. -/
def claims (node : Node) (now : Int) : List Letter :=
  (node.victory now).toEach node.others

end Node

/-- A later stage of a member that is not stopped, with nothing heard in between. -/
def Site.Undisturbed {C : Type} (site later : Site C) : Prop :=
  site.node.Unheard later.node ∧ later.isCancelled = false

namespace Silence

variable {C : Type}

/-- The election that has begun at a site goes on. -/
structure Contends (origin : Site (Tapped C)) (node : Node) : Prop where
  state_eq : node.state = (origin.node.contend origin.now).state
  config_eq : node.config = origin.node.config
  backup : node.state.isPrimary = false

/-- A node has just taken the lead in the election that has begun at a site. -/
structure Leads (origin : Site (Tapped C)) (leader : Node) : Prop where
  state_eq : leader.state = origin.node.lead.state
  config_eq : leader.config = origin.node.config

/-- Until when answers are waited for. -/
def deadline (origin : Site (Tapped C)) : Int :=
  Time.after origin.now origin.node.config.electionTimeout

/-- The challenges of an election have been sent. -/
structure Challenged (origin : Site (Tapped C)) (sent : List (Int × Letter)) : Prop where
  told : Told (origin.node.challenges origin.now) sent
  paced : origin.node.config.retry.IsSteady → origin.node.rivals origin.now ≠ [] →
    origin.node.config.retry.InPace origin.now (lastInstant origin.now sent)

/-- An election has lasted until now, and no longer than it has to. -/
structure Waited (origin : Site (Tapped C)) (sent : List (Int × Letter)) (now : Int) : Prop
    extends Challenged origin sent where
  now_eq : now = if origin.node.rivals origin.now = [] then origin.now
    else max (deadline origin) (lastInstant origin.now sent)

/-- A lead that has been taken. -/
structure Claimed (origin : Site (Tapped C)) (sent : List (Int × Letter)) (marks : List (Int × Node))
    (node : Node) (claimed : Int) (claims : List (Int × Letter)) : Prop where
  waited : ∃ challenges, sent = challenges ++ claims ∧ Waited origin challenges claimed
  leads : ∃ leader, Leads origin leader ∧ (claimed, leader) ∈ marks ∧ leader.Unheard node

/-- How an election that nobody answers stands: what has been sent, and what the node was after each
turn. -/
inductive Stage (origin : Site (Tapped C)) (sent : List (Int × Letter)) (marks : List (Int × Node))
    (node : Node) (now : Int) : Progress Contest ElectionOutcome → Prop
  | challenging {bursts : List Burst} (contends : Contends origin node)
    (some_rival : origin.node.rivals origin.now ≠ []) (begun : origin.now ≤ now)
    (sending : Sending origin.node.config.retry origin.now
      (origin.node.challenges origin.now) sent now bursts) (some_left : bursts ≠ []) :
    Stage origin sent marks node now (.going (.challenging origin.now bursts))
  | awaiting {again : Int} (contends : Contends origin node)
    (some_rival : origin.node.rivals origin.now ≠ []) (challenged : Challenged origin sent)
    (started : lastInstant origin.now sent ≤ now)
    (early : lastInstant origin.now sent < deadline origin) (timely : now ≤ again)
    (last : again ≤ deadline origin) :
    Stage origin sent marks node now (.going (.awaiting origin.now again))
  | announcing {claimed : Int} {claims : List (Int × Letter)} {bursts : List Burst}
    (won : Claimed origin sent marks node claimed claims)
    (sending : Sending origin.node.config.retry claimed (origin.node.claims claimed) claims now
      bursts) (some_left : bursts ≠ []) :
    Stage origin sent marks node now (.going (.announcing bursts))
  | done {claimed : Int} {claims : List (Int × Letter)}
    (won : Claimed origin sent marks node claimed claims)
    (told : Told (origin.node.claims claimed) claims)
    (ended : lastInstant origin.now marks = lastInstant claimed claims)
    (paced : origin.node.config.retry.IsSteady → origin.node.others ≠ [] →
      origin.node.config.retry.InPace claimed (lastInstant claimed claims)) :
    Stage origin sent marks node now (.done .won)

section Stages

variable {origin : Site (Tapped C)} {sent : List (Int × Letter)} {marks : List (Int × Node)}
  {node next : Node} {now : Int} {progress : Progress Contest ElectionOutcome}

theorem Contends.isElecting (contends : Contends origin node) :
    node.state.election.isElecting = true := by
  rw [contends.state_eq]
  rfl

theorem Contends.leads (contends : Contends origin node) : Leads origin node.lead where
  state_eq := by
    unfold Node.lead
    rw [contends.state_eq]
    rfl
  config_eq := contends.config_eq

/-- The claim of a contender is the one that it would have made at the beginning. -/
theorem Contends.claims_eq (contends : Contends origin node) (now : Int) :
    (node.lead.victory now).toEach node.others = origin.node.claims now := by
  unfold Node.others Node.victory Node.id Node.lead
  simp only [contends.state_eq]
  rfl

theorem Contends.claimVictory?_eq (contends : Contends origin node) (now : Int) :
    node.claimVictory? now = some (node.lead, origin.node.claims now) := by
  rw [← contends.claims_eq]
  exact if_pos contends.isElecting

/-- What a contender finds when it looks for answers. -/
theorem Contends.pollElection_eq (contends : Contends origin node) (now : Int) :
    node.pollElection origin.now now = if deadline origin ≤ now then .unanswered
      else .again (min (Time.after now origin.node.config.pollInterval) (deadline origin)) := by
  unfold Node.pollElection
  rw [contends.isElecting, contends.config_eq]
  rfl

theorem Waited.claimed {claimed : Int} {claims : List (Int × Letter)} {leader node : Node}
    (waited : Waited origin sent claimed) (leads : Leads origin leader)
    (mark : (claimed, leader) ∈ marks) (unheard : leader.Unheard node) :
    Claimed origin (sent ++ claims) marks node claimed claims :=
  ⟨⟨sent, rfl, waited⟩, leader, leads, mark, unheard⟩

/-! ## Between the turns -/

theorem Contends.unheard (contends : Contends origin node) (unheard : node.Unheard next) :
    Contends origin next := by
  have same := unheard.state_eq contends.isElecting contends.backup
  refine ⟨same.trans contends.state_eq, unheard.config_eq.trans contends.config_eq, ?_⟩
  rw [same]
  exact contends.backup

/-- What a node does that hears nothing does not disturb its election. -/
theorem Stage.unheard (stage : Stage origin sent marks node now progress)
    (unheard : node.Unheard next) : Stage origin sent marks next now progress := by
  cases stage with
  | challenging contends some_rival begun sending some_left =>
    exact .challenging (contends.unheard unheard) some_rival begun sending some_left
  | awaiting contends some_rival challenged started early timely last =>
    exact .awaiting (contends.unheard unheard) some_rival challenged started early timely last
  | announcing won sending some_left =>
    obtain ⟨waited, leader, leads, mark, before⟩ := won
    exact .announcing ⟨waited, leader, leads, mark, before.trans unheard⟩ sending some_left
  | done won told ended paced =>
    obtain ⟨waited, leader, leads, mark, before⟩ := won
    exact .done ⟨waited, leader, leads, mark, before.trans unheard⟩ told ended paced

/-- An election that goes on is due at an instant that is not over, and may wait until then. -/
theorem Stage.exists_due {contest : Contest}
    (stage : Stage origin sent marks node now (.going contest)) :
    ∃ instant, now ≤ instant ∧
      (∀ site : Site (Tapped C), site.isCancelled = false → contest.due? site = some instant) ∧
      ∀ moment, now ≤ moment → moment ≤ instant →
        Stage origin sent marks node moment (.going contest) := by
  cases stage with
  | challenging contends some_rival begun sending some_left =>
    obtain ⟨instant, due, timely⟩ := sending.exists_due some_left
    exact ⟨instant, timely, fun _ _ => due, fun moment later le =>
      .challenging contends some_rival (Int.le_trans begun later) (sending.later due le) some_left⟩
  | @awaiting again contends some_rival challenged started early timely last =>
    refine ⟨again, timely, fun site active => ?_, fun moment later le =>
      .awaiting contends some_rival challenged (Int.le_trans started later) early le last⟩
    simp only [Contest.due?, active, Bool.false_eq_true, if_false]
  | announcing won sending some_left =>
    obtain ⟨instant, due, timely⟩ := sending.exists_due some_left
    exact ⟨instant, timely, fun _ _ => due, fun moment _ le =>
      .announcing won (sending.later due le) some_left⟩

end Stages

/-! ## Turns -/

variable [Carrier C]

/-- A turn of an election that nobody answers, or a part of one. -/
structure Turns (origin : Site (Tapped C)) (sent : List (Int × Letter)) (marks : List (Int × Node))
    (site : Site (Tapped C)) (turn : Contest.Step (Tapped C)) : Prop where
  now_eq : turn.1.now = site.now
  isCancelled_eq : turn.1.isCancelled = site.isCancelled
  stage : ∃ given, site.Gives given turn.1 ∧
    Stage origin (sent ++ given.map fun letter => (site.now, letter))
      (marks ++ [(site.now, turn.1.node)]) turn.1.node site.now turn.2

section Turns

variable {origin : Site (Tapped C)} {sent : List (Int × Letter)} {marks : List (Int × Node)}
  {site : Site (Tapped C)} {bursts : List Burst}

/-- The claim is sent on. -/
theorem turns_announce {claimed : Int} {claims : List (Int × Letter)}
    (won : Claimed origin sent (marks ++ [(site.now, site.node)]) site.node claimed claims)
    (sending : Sending origin.node.config.retry claimed (origin.node.claims claimed) claims
      site.now bursts) : Turns origin sent marks site (Contest.announce site bursts) := by
  obtain ⟨given, gives, sending⟩ := sending.advanceAll site
  obtain ⟨carrier, left, sent_eq⟩ := Burst.exists_advanceAll_eq bursts site
  obtain ⟨⟨challenges, split, waited⟩, leads⟩ := won
  rw [sent_eq] at gives sending
  have won : Claimed origin (sent ++ given.map fun letter => (site.now, letter))
      (marks ++ [(site.now, site.node)]) site.node claimed
      (claims ++ given.map fun letter => (site.now, letter)) :=
    ⟨⟨challenges, by rw [split, List.append_assoc], waited⟩, leads⟩
  simp only [Contest.announce, sent_eq]
  refine ⟨rfl, rfl, given, gives, ?_⟩
  cases left with
  | nil =>
    obtain ⟨told, ended⟩ := sending.told
    refine .done won told ?_ fun steady some_peer => ?_
    · rw [ended]
      exact lastInstant_append origin.now site.now marks (List.cons_ne_nil site.node [])
    · rw [ended]
      exact (sending.paced steady).2 (mt List.map_eq_nil_iff.1 some_peer) rfl
  | cons burst left => exact .announcing won sending (List.cons_ne_nil _ _)

/-- An election that has lasted long enough is won. -/
theorem turns_claim (contends : Contends origin site.node) (waited : Waited origin sent site.now) :
    Turns origin sent marks site (Contest.claim site) := by
  have won : Claimed origin sent (marks ++ [(site.now, site.node.lead)]) site.node.lead
      site.now [] := by
    have won := @Waited.claimed C origin sent _ _ [] _ _ waited contends.leads
      (List.mem_append_right marks (List.mem_singleton_self (site.now, site.node.lead))) .refl
    rwa [List.append_nil] at won
  have sending := Sending.opening site.node.lead.config.retry site.now
    (origin.node.claims site.now)
  have config_eq : site.node.lead.config = origin.node.config := contends.config_eq
  rw [config_eq] at sending
  simp only [Contest.claim, contends.claimVictory?_eq, config_eq]
  obtain ⟨now_eq, isCancelled_eq, stage⟩ :=
    @turns_announce C _ origin sent marks (site.withNode site.node.lead) _ _ _ won sending
  exact ⟨now_eq, isCancelled_eq, stage⟩

/-- A contender looks for answers and finds none. -/
theorem turns_look (contends : Contends origin site.node) (active : site.isCancelled = false)
    (some_rival : origin.node.rivals origin.now ≠ []) (challenged : Challenged origin sent)
    (started : lastInstant origin.now sent ≤ site.now)
    (timely : deadline origin ≤ site.now →
      site.now = max (deadline origin) (lastInstant origin.now sent)) :
    Turns origin sent marks site (Contest.look site origin.now) := by
  have polls := contends.pollElection_eq site.now
  by_cases late : deadline origin ≤ site.now
  · rw [if_pos late] at polls
    simp only [Contest.look, polls]
    refine turns_claim contends ⟨challenged, ?_⟩
    rw [if_neg some_rival]
    exact timely late
  · rw [if_neg late] at polls
    simp only [Contest.look, polls, active, Bool.false_eq_true, if_false]
    refine ⟨rfl, rfl, [], .refl site, ?_⟩
    rw [List.map_nil, List.append_nil]
    have before := Int.not_le.1 late
    refine .awaiting contends some_rival challenged started (Int.lt_of_le_of_lt started before) ?_
      (Int.min_le_right _ _)
    exact Int.le_min.2 ⟨Int.le_add_of_nonneg_right (Int.natCast_nonneg _), Int.le_of_lt before⟩

/-- The challenges are sent on, and when all are sent, the contender looks for answers. -/
theorem turns_challenge (contends : Contends origin site.node) (active : site.isCancelled = false)
    (some_rival : origin.node.rivals origin.now ≠ []) (begun : origin.now ≤ site.now)
    (sending : Sending origin.node.config.retry origin.now
      (origin.node.challenges origin.now) sent site.now bursts) :
    Turns origin sent marks site (Contest.challenge site origin.now bursts) := by
  obtain ⟨given, gives, sending⟩ := sending.advanceAll site
  obtain ⟨carrier, left, sent_eq⟩ := Burst.exists_advanceAll_eq bursts site
  rw [sent_eq] at gives sending
  simp only [Contest.challenge, sent_eq]
  cases left with
  | nil =>
    obtain ⟨told, ended⟩ := sending.told
    have challenged : Challenged origin (sent ++ given.map fun letter => (site.now, letter)) := by
      refine ⟨told, fun steady _ => ?_⟩
      rw [ended]
      exact (sending.paced steady).2 (mt List.map_eq_nil_iff.1 some_rival) rfl
    have looks := @turns_look C _ origin _ marks (site.withCarrier carrier) contends active
      some_rival challenged (Int.le_of_eq ended) fun late => by
        rw [ended]
        exact (Int.max_eq_right late).symm
    obtain ⟨now_eq, isCancelled_eq, more, gives', stage⟩ := looks
    refine ⟨now_eq, isCancelled_eq, given ++ more, gives.trans gives', ?_⟩
    rw [List.map_append, ← List.append_assoc]
    exact stage
  | cons burst left =>
    exact ⟨rfl, rfl, given, gives,
      .challenging contends some_rival begun sending (List.cons_ne_nil _ _)⟩

/-- A backup that runs no election opens one. -/
theorem turns_begin (active : origin.isCancelled = false)
    (backup : origin.node.state.role = .backup) (idle : origin.node.state.election = .idle) :
    Turns origin [] [] origin (Contest.begin origin) := by
  have opens : origin.node.openElection? origin.now =
      some (origin.node.contend origin.now, origin.node.rivals origin.now) := by
    simp [Node.openElection?, State.beginElection?, State.isPrimary, Election.isElecting, backup,
      idle, Node.contend, Node.rivals]
  have contends : Contends origin (origin.node.contend origin.now) :=
    ⟨rfl, rfl, by simp [Node.contend, State.isPrimary, backup]⟩
  unfold Contest.begin
  rw [opens]
  cases rivals : origin.node.rivals origin.now with
  | nil =>
    have told : Told (origin.node.challenges origin.now) [] := by
      simp [Told, Node.challenges, rivals, Message.toEach]
    have waited : Waited origin [] origin.now :=
      ⟨⟨told, fun _ some_rival => absurd rivals some_rival⟩, (if_pos rivals).symm⟩
    obtain ⟨now_eq, isCancelled_eq, stage⟩ := @turns_claim C _ origin [] []
      (origin.withNode (origin.node.contend origin.now)) contends waited
    exact ⟨now_eq, isCancelled_eq, stage⟩
  | cons peer rest =>
    have some_rival : origin.node.rivals origin.now ≠ [] := by
      rw [rivals]
      exact List.cons_ne_nil _ _
    have sending := Sending.opening origin.node.config.retry origin.now
      (origin.node.challenges origin.now)
    obtain ⟨now_eq, isCancelled_eq, stage⟩ := @turns_challenge C _ origin [] []
      (origin.withNode (origin.node.contend origin.now)) _ contends active some_rival
      (Int.le_refl _) sending
    have letters : origin.node.challenges origin.now =
        (origin.node.challenge origin.now).toEach (peer :: rest) := by
      rw [Node.challenges, rivals]
    rw [letters] at now_eq isCancelled_eq stage
    exact ⟨now_eq, isCancelled_eq, stage⟩

/-- An election that nobody answers goes on. -/
theorem turns_advance (active : site.isCancelled = false) {contest : Contest}
    (stage : Stage origin sent marks site.node site.now (.going contest)) :
    Turns origin sent marks site (contest.advance site) := by
  cases stage with
  | challenging contends some_rival begun sending =>
    exact turns_challenge contends active some_rival begun sending
  | awaiting contends some_rival challenged started early timely last =>
    simp only [Contest.advance, active, Bool.false_eq_true, if_false]
    refine turns_look contends active some_rival challenged started fun late => ?_
    rw [Int.max_eq_left (Int.le_of_lt early)]
    exact Int.le_antisymm (Int.le_trans timely last) late
  | announcing won sending =>
    obtain ⟨waited, leader, leads, mark, unheard⟩ := won
    exact turns_announce ⟨waited, leader, leads, List.mem_append_left _ mark, unheard⟩ sending

end Turns

/-! ## What is left to do -/

/-- The most that a claim leaves to do. -/
def claimLoad (origin : Site (Tapped C)) : Nat :=
  Burst.load ((origin.node.claims origin.now).map
    (Burst.starting origin.node.config.retry origin.now))

/-- How much is left to do of an election. -/
def load (origin : Site (Tapped C)) : Contest → Nat
  | .opening => 0
  | .challenging _ bursts =>
    Burst.load bursts + origin.node.config.electionTimeout + claimLoad origin + 2
  | .awaiting _ again => (deadline origin - again).toNat + claimLoad origin + 1
  | .announcing bursts => Burst.load bursts

section Load

variable {origin : Site (Tapped C)} {site : Site (Tapped C)} {rest : Contest}

theorem load_announce {bursts : List Burst}
    (goes : (Contest.announce site bursts).2 = .going rest) :
    load origin rest = Burst.load (Burst.advanceAll site bursts).2 := by
  simp only [Contest.announce] at goes
  split at goes
  · exact nomatch goes
  · obtain rfl := Progress.going.inj goes
    rfl

theorem load_claim_le (contends : Contends origin site.node)
    (goes : (Contest.claim site).2 = .going rest) : load origin rest ≤ claimLoad origin := by
  simp only [Contest.claim, contends.claimVictory?_eq] at goes
  rw [load_announce goes]
  refine Nat.le_trans (Burst.load_advanceAll_le _ _).1 (Nat.le_of_eq ?_)
  have config_eq : site.node.lead.config = origin.node.config := contends.config_eq
  simp [claimLoad, Burst.load, Burst.starting, Node.claims, Message.toEach, config_eq,
    Function.comp_def]

/-- A look claims the lead, or is followed by a later one. -/
theorem load_look_le (contends : Contends origin site.node) (active : site.isCancelled = false)
    (pos : 0 < origin.node.config.pollInterval)
    (goes : (Contest.look site origin.now).2 = .going rest) :
    load origin rest ≤ (deadline origin - site.now).toNat + claimLoad origin := by
  have polls := contends.pollElection_eq site.now
  by_cases late : deadline origin ≤ site.now
  · rw [if_pos late] at polls
    simp only [Contest.look, polls] at goes
    exact Nat.le_trans (load_claim_le contends goes) (Nat.le_add_left _ _)
  · rw [if_neg late] at polls
    simp only [Contest.look, polls, active, Bool.false_eq_true, if_false] at goes
    obtain rfl := Progress.going.inj goes
    simp only [load, Time.after]
    omega

end Load

/-! ## Courses of elections -/

/-- The course of an election that nobody answers. -/
structure Sound (origin : Site (Tapped C)) (course : Course (Tapped C)) : Prop where
  isActive : course.site.isCancelled = false
  stage : ∃ progress, course.progress = (progress.mapWork .contesting).mapResult .elected ∧
    Stage origin course.sent course.marks course.site.node course.site.now progress

namespace Sound

variable {origin : Site (Tapped C)} {course next : Course (Tapped C)}

theorem going (sound : Sound origin course) {activity : Activity}
    (going : course.progress = .going activity) :
    ∃ contest, activity = .contesting contest ∧
      Stage origin course.sent course.marks course.site.node course.site.now (.going contest) := by
  obtain ⟨progress, same, stage⟩ := sound.stage
  rw [going] at same
  cases progress with
  | done => exact nomatch same
  | going contest => exact ⟨contest, Progress.going.inj same, stage⟩

/-- A turn of the election keeps its course sound. -/
theorem of_turns {contest : Contest} (active : course.site.isCancelled = false)
    (turns : Turns origin course.sent course.marks course.site (contest.advance course.site)) :
    Sound origin (course.goOn (.contesting contest)) := by
  obtain ⟨now_eq, isCancelled_eq, given, gives, stage⟩ := turns
  have now : (course.goOn (.contesting contest)).site.now = course.site.now := now_eq
  refine ⟨isCancelled_eq.trans active, _, rfl, ?_⟩
  rw [@Course.sent_goOn C _ course (.contesting contest) given gives, Course.marks_goOn, now]
  exact stage

theorem step (sound : Sound origin course) (step : course.Step Site.Undisturbed next) :
    Sound origin next := by
  cases step with
  | goOn going =>
    obtain ⟨contest, rfl, stage⟩ := sound.going going
    exact of_turns sound.isActive (turns_advance sound.isActive stage)
  | elsewhere happens same =>
    obtain ⟨unheard, active⟩ := happens
    obtain ⟨progress, progress_eq, stage⟩ := sound.stage
    have now : _ = course.site.now := congrArg Moment.now same
    have stage := stage.unheard unheard
    rw [← now] at stage
    exact ⟨active, progress, progress_eq, stage⟩
  | pass later timely =>
    obtain ⟨progress, progress_eq, stage⟩ := sound.stage
    refine ⟨sound.isActive, progress, progress_eq, ?_⟩
    cases progress with
    | done =>
      cases stage with
      | done won told ended paced => exact .done won told ended paced
    | going contest =>
      obtain ⟨instant, -, due, stays⟩ := stage.exists_due
      exact stays _ later (timely _ _ progress_eq (due _ sound.isActive))

theorem due (sound : Sound origin course) {activity : Activity}
    (going : course.progress = .going activity) :
    ∃ instant, course.site.now ≤ instant ∧
      ∀ moment, activity.due? { course.site with moment } false = some instant := by
  obtain ⟨contest, rfl, stage⟩ := sound.going going
  obtain ⟨instant, timely, due, -⟩ := stage.exists_due
  exact ⟨instant, timely, fun moment => due _ sound.isActive⟩

/-- A turn that is due leaves less to do. -/
theorem load_lt (sound : Sound origin course) (pos : 0 < origin.node.config.pollInterval)
    {contest rest : Contest} (going : course.progress = .going (.contesting contest))
    (due : contest.due? course.site = some course.site.now)
    (goes : (contest.advance course.site).2 = .going rest) :
    load origin rest < load origin contest := by
  obtain ⟨_, same, stage⟩ := sound.going going
  obtain rfl := Activity.contesting.inj same
  cases stage with
  | @challenging bursts contends some_rival begun sending some_left =>
    obtain ⟨burst, mem, come⟩ := (Burst.of_nextDue?_eq_some due).2
    have fewer := (Burst.load_advanceAll_le bursts course.site).2 ⟨burst, mem, Int.le_of_eq come⟩
    obtain ⟨carrier, at_site⟩ := Burst.exists_carrier_advanceAll bursts course.site
    simp only [Contest.advance, Contest.challenge] at goes
    split at goes
    · rw [at_site] at goes
      have less := @load_look_le C _ origin (course.site.withCarrier carrier) rest contends
        sound.isActive pos goes
      have time : (course.site.withCarrier carrier).now = course.site.now := rfl
      have window : deadline origin =
        Time.after origin.now origin.node.config.electionTimeout := rfl
      simp only [load, Time.after, time, window] at less ⊢
      omega
    · obtain rfl := Progress.going.inj goes
      simp only [load]
      omega
  | awaiting contends some_rival challenged started early timely last =>
    have now := due
    simp only [Contest.due?, sound.isActive, Bool.false_eq_true, if_false] at now
    obtain rfl := Option.some.inj now
    simp only [Contest.advance, sound.isActive, Bool.false_eq_true, if_false] at goes
    exact Nat.lt_succ_of_le (load_look_le contends sound.isActive pos goes)
  | @announcing claimed claims bursts won sending some_left =>
    obtain ⟨burst, mem, come⟩ := (Burst.of_nextDue?_eq_some due).2
    rw [load_announce goes]
    exact (Burst.load_advanceAll_le bursts course.site).2 ⟨burst, mem, Int.le_of_eq come⟩

theorem opening (active : origin.isCancelled = false) (backup : origin.node.state.role = .backup)
    (idle : origin.node.state.election = .idle) :
    Sound origin (Course.opening origin (.contesting .opening)) :=
  @of_turns C _ origin ⟨origin, .going (.contesting .opening), []⟩ .opening active
    (turns_begin active backup idle)

end Sound

/-- How much is left to do of an activity that is an election. -/
def activityLoad (origin : Site (Tapped C)) : Activity → Nat
  | .contesting contest => load origin contest
  | _ => 0

theorem Sound.activityLoad_lt {origin : Site (Tapped C)} {course : Course (Tapped C)}
    (sound : Sound origin course) (pos : 0 < origin.node.config.pollInterval)
    {activity rest : Activity} (going : course.progress = .going activity)
    (due : activity.due? course.site false = some course.site.now)
    (goes : (activity.advance course.site false).progress = .going rest) :
    activityLoad origin rest < activityLoad origin activity := by
  obtain ⟨contest, rfl, -⟩ := sound.going going
  simp only [Activity.advance] at goes
  cases left : (contest.advance course.site).2 with
  | done =>
    rw [left] at goes
    cases goes
  | going work =>
    rw [left] at goes
    obtain rfl := Progress.going.inj goes
    exact sound.load_lt pos going due left

/-- An election that nobody answers comes to an end. -/
theorem Sound.exists_done {origin : Site (Tapped C)} {course : Course (Tapped C)}
    (sound : Sound origin course) (pos : 0 < origin.node.config.pollInterval) :
    ∃ final outcome, course.Run Site.Undisturbed final ∧ final.progress = .done outcome :=
  Course.exists_done (activityLoad origin) (fun sound => sound.step)
    (fun sound => sound.due) (fun sound => sound.activityLoad_lt pos) sound

end Silence

namespace Course

variable {C : Type} [Carrier C]

/-- A backup that runs no election opens one, and hears nothing until the call returns; nothing else
begins or ends an election, and the node is not stopped.  Then the call returns, and the election is
won.  If a higher node is alive and was heard of within the timeout, the node challenges exactly
these nodes, and takes the lead when the time is over and the last challenge has been sent; if there
is none, it takes the lead at once.  Then it leads with the sum, the number and the directory that
it had, and claims the lead, with that sum and number, from exactly the other nodes that it
knows, alive or not.  The call returns when the last claim has been sent.  If the pauses do not vary,
either end is a whole number of pauses, fewer than the copies, after its beginning. -/
theorem silence_wins {site : Site (Tapped C)} {course : Course (Tapped C)}
    (valid : site.node.config.IsValid) (active : site.isCancelled = false)
    (backup : site.node.state.role = .backup) (idle : site.node.state.election = .idle)
    (run : (opening site (.contesting .opening)).Run Site.Undisturbed course) :
    let higher := site.node.state.directory.freshHigher site.node.id site.now
      site.node.config.replicaTimeout
    let peers := site.node.state.directory.knownPeers site.node.id
    let policy := site.node.config.retry
    (∀ outcome, course.progress = .done outcome → outcome = .elected .won ∧
      ∃ challenges claims claimed leader, course.sent = challenges ++ claims ∧
        Told ((Message.startElection site.node.id (Time.stamp site.now)).toEach higher)
          challenges ∧
        Told ((Message.victory site.node.id site.node.state.sum site.node.state.seqn
          (Time.stamp claimed)).toEach peers) claims ∧
        claimed = (if higher = [] then site.now
          else max (Time.after site.now site.node.config.electionTimeout)
            (lastInstant site.now challenges)) ∧
        lastInstant site.now course.marks = lastInstant claimed claims ∧
        (claimed, leader) ∈ course.marks ∧
        leader.state = { site.node.state with
          role := .primary, primary := some site.node.id, election := .idle, hasInitial := true } ∧
        leader.Unheard course.site.node ∧ course.site.node.Reigns ∧
        (policy.IsSteady →
          (higher ≠ [] → policy.InPace site.now (lastInstant site.now challenges)) ∧
          (peers ≠ [] → policy.InPace claimed (lastInstant claimed claims)))) ∧
      ∃ final outcome, course.Run Site.Undisturbed final ∧ final.progress = .done outcome := by
  intro higher peers policy
  have sound := run.invariant (fun sound step => sound.step step)
    (Silence.Sound.opening active backup idle)
  have pos : 0 < site.node.config.pollInterval :=
    @Config.IsValid.interval_pos _ valid ("ack_poll_interval", _) (by simp [Config.intervals])
  refine ⟨fun outcome ends => ?_, sound.exists_done pos⟩
  obtain ⟨progress, same, stage⟩ := sound.stage
  rw [ends] at same
  cases progress with
  | going => exact nomatch same
  | done result =>
    obtain rfl := Progress.done.inj same
    cases stage with
    | done won told ended paced =>
      obtain ⟨⟨challenges, split, waited⟩, leader, leads, mark, unheard⟩ := won
      have reigns : leader.Reigns := by
        obtain ⟨state_eq, -⟩ := leads
        unfold Node.lead at state_eq
        refine ⟨?_, ?_, ?_⟩
        · rw [state_eq]
          rfl
        · unfold Node.id
          rw [state_eq]
          rfl
        · rw [state_eq]
          rfl
      exact ⟨rfl, challenges, _, _, leader, split, waited.told, told, waited.now_eq, ended, mark,
        leads.state_eq, unheard, unheard.reigns reigns,
        fun steady => ⟨waited.paced steady, paced steady⟩⟩

/-- A node that has just been created. -/
def newcomer (config : Config) : Site (Tapped Recorder) where
  moment := ⟨0, 0.0⟩
  carrier := { carrier := {} }
  member :=
    { node := (Node.create config config.bindAddress 0).toOption.getD default
      endpoint := 0 }

/-- A backup with a lower peer and a higher one, which sends three copies two milliseconds apart. -/
def middleConfig : Config :=
  { (Config.ofBackup 2 (.v4 ⟨10, 0, 0, 2⟩ 1) ⟨1, .v4 ⟨10, 0, 0, 1⟩ 1⟩).withPeer
      ⟨3, .v4 ⟨10, 0, 0, 3⟩ 1⟩ with
    electionTimeout := 7
    pollInterval := 4
    retry := ⟨3, 2, 0.0⟩ }

/-- The copies of the challenge go out until 4, the time is over at 7, and the copies of the claim go
out until 11. -/
theorem silence_wins_middle :
    ∃ course, (newcomer middleConfig).node.config.IsValid ∧
      (newcomer middleConfig).isCancelled = false ∧
      (newcomer middleConfig).node.state.role = .backup ∧
      (newcomer middleConfig).node.state.election = .idle ∧
      (opening (newcomer middleConfig) (.contesting .opening)).Run Site.Undisturbed course ∧
      course.progress = .done (.elected .won) ∧ course.site.node.Reigns ∧
      ∃ challenges claims claimed, course.sent = challenges ++ claims ∧
        Told [⟨.v4 ⟨10, 0, 0, 3⟩ 1, .startElection 2 0⟩] challenges ∧
        Told [⟨.v4 ⟨10, 0, 0, 1⟩ 1, .victory 2 0 0 (Time.stamp claimed)⟩,
          ⟨.v4 ⟨10, 0, 0, 3⟩ 1, .victory 2 0 0 (Time.stamp claimed)⟩] claims ∧
        claimed = max 7 (lastInstant 0 challenges) ∧ lastInstant claimed claims = 11 := by
  have opens : (opening (newcomer middleConfig) (.contesting .opening)).Run Site.Undisturbed _ :=
    .refl
  have challenges :=
    (opens.wait 2 (by decide) (by rintro _ _ ⟨⟩ ⟨⟩; decide)).goOn rfl rfl (by decide)
  have looks :=
    (challenges.wait 4 (by decide) (by rintro _ _ ⟨⟩ ⟨⟩; decide)).goOn rfl rfl (by decide)
  have claims :=
    (looks.wait 7 (by decide) (by rintro _ _ ⟨⟩ ⟨⟩; decide)).goOn rfl rfl (by decide)
  have announces :=
    (claims.wait 9 (by decide) (by rintro _ _ ⟨⟩ ⟨⟩; decide)).goOn rfl rfl (by decide)
  have run :=
    (announces.wait 11 (by decide) (by rintro _ _ ⟨⟩ ⟨⟩; decide)).goOn rfl rfl (by decide)
  have valid : (newcomer middleConfig).node.config.IsValid := by decide
  obtain ⟨ended, -⟩ := silence_wins valid rfl rfl rfl run
  obtain ⟨-, challenges, claims, claimed, leader, split, challenged, told, lasts, returns, -, -, -,
    reigns, -⟩ := ended (.elected .won) rfl
  exact ⟨_, valid, rfl, rfl, rfl, run, rfl, reigns, challenges, claims, claimed, split, challenged,
    told, lasts, returns.symm⟩

/-- A backup with a lower peer, which sends three copies ten milliseconds apart. -/
def topConfig : Config :=
  { Config.ofBackup 2 (.v4 ⟨10, 0, 0, 2⟩ 1) ⟨1, .v4 ⟨10, 0, 0, 1⟩ 1⟩ with
    heartbeatInterval := 4
    primaryTimeout := 7
    retry := ⟨3, 10, 0.0⟩ }

/-- Without a higher node the lead is taken at once, but the call returns after twenty milliseconds,
and in between the directory may have changed: the heartbeat of the new primary marks a node dead. -/
theorem silence_wins_late :
    (newcomer topConfig).node.config.IsValid ∧ (newcomer topConfig).isCancelled = false ∧
      (newcomer topConfig).node.state.role = .backup ∧
      (newcomer topConfig).node.state.election = .idle ∧
      (newcomer topConfig).node.config.retry.jitterFactor ≤ 0.0 ∧
      (newcomer topConfig).node.state.directory.freshHigher 2 0 topConfig.replicaTimeout = [] ∧
      (∃ course, (opening (newcomer topConfig) (.contesting .opening)).Run Site.Undisturbed course ∧
        course.progress = .done (.elected .won) ∧ lastInstant 0 course.marks = 20) ∧
      ∃ course, (opening (newcomer topConfig) (.contesting .opening)).Run Site.Undisturbed course ∧
        course.progress = .done (.elected .won) ∧
        course.site.node.state.directory.records.map (·.isAlive) = [false, true] ∧
        (newcomer topConfig).node.state.directory.records.map (·.isAlive) = [true, true] := by
  have beats : ∀ course : Course (Tapped Recorder), course.site.isCancelled = false →
      (course.site.node.beat course.site.now 1).1.state.election = course.site.node.state.election →
      course.Step Site.Undisturbed { course with
        site := course.site.withNode (course.site.node.beat course.site.now 1).1 } :=
    fun course active same =>
      .elsewhere ⟨.single ⟨_, _, _, .beat 1, nofun, same⟩, active⟩ rfl
  have opens : (opening (newcomer topConfig) (.contesting .opening)).Run Site.Undisturbed _ :=
    .refl
  have announces :=
    (opens.wait 10 (by decide) (by rintro _ _ ⟨⟩ ⟨⟩; decide)).goOn rfl rfl (by decide)
  have returns :=
    (announces.wait 20 (by decide) (by rintro _ _ ⟨⟩ ⟨⟩; decide)).goOn rfl rfl (by decide)
  have leads : Run Site.Undisturbed _ _ := .tail announces (beats _ rfl rfl)
  have returns_later :=
    (leads.wait 20 (by decide) (by rintro _ _ ⟨⟩ ⟨⟩; decide)).goOn rfl rfl (by decide)
  exact ⟨by decide, rfl, rfl, rfl, by decide, by decide, ⟨_, returns, rfl, rfl⟩,
    ⟨_, returns_later, rfl, rfl, rfl⟩⟩

end Course

end SumCluster
