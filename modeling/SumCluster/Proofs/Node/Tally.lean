import SumCluster.Proofs.Node.Coherence

/-!
# The account of leads

A node has the lead from boot or from a won election on, until it steps down.  Both ends are counted
where they happen, so the leads that were given up and the present one (`Node.leadsHad`) are as many
as the elections that were won and the lead at boot.  An election is counted when it begins, and
ends before it is counted as won, so those that were won and the one under way
(`Node.electionsHeld`) are no more than those that began.  Both hold of every run
(`Node.leads_accounted`).
-/

namespace SumCluster

namespace Node

/-- How often the node has led: the leads that it gave up, and the present one. -/
def leadsHad (node : Node) : Nat :=
  node.stats.stepDowns + node.state.isPrimary.toNat

/-- The elections that the node has won, and the one under way. -/
def electionsHeld (node : Node) : Nat :=
  node.stats.electionsWon + node.state.election.isElecting.toNat

/-! ## Changes -/

section Changes

variable {node next : Node} {cause : Cause}

/-- A lead that ends is counted. -/
theorem leadsHad_follow (node : Node) (leader : NodeId) :
    (node.follow leader).leadsHad = node.leadsHad := by
  show node.stats.stepDowns + (if node.state.isPrimary then 1 else 0) + 0 =
    node.stats.stepDowns + node.state.isPrimary.toNat
  cases node.state.isPrimary <;> rfl

theorem Change.leadsHad_eq (change : Change cause node next) : next.leadsHad = node.leadsHad := by
  cases change with
  | follow leader => exact leadsHad_follow node leader
  | count _ _ ended => simp [leadsHad, ended]
  | _ => rfl

theorem Changes.leadsHad_eq (changes : Changes cause node next) :
    next.leadsHad = node.leadsHad := by
  induction changes with
  | refl => rfl
  | tail _ change ih => exact change.leadsHad_eq.trans ih

theorem Change.electionsStarted_le (change : Change cause node next) :
    node.stats.electionsStarted ≤ next.stats.electionsStarted := by
  cases change with
  | count _ begun => exact begun
  | _ => exact Nat.le_refl _

theorem Changes.electionsStarted_le (changes : Changes cause node next) :
    node.stats.electionsStarted ≤ next.stats.electionsStarted := by
  induction changes with
  | refl => exact Nat.le_refl _
  | tail _ change ih => exact Nat.le_trans ih change.electionsStarted_le

theorem Changes.electionsWon_eq (changes : Changes cause node next) :
    next.stats.electionsWon = node.stats.electionsWon :=
  congrArg (·.2.2.2) changes.standing_eq

end Changes

/-- Nothing that a node hears begins an election. -/
theorem electionsHeld_handle_le (node : Node) (now : Int) (message : Message) (source : Address) :
    (node.handle now message source).1.electionsHeld ≤ node.electionsHeld := by
  unfold electionsHeld
  rw [(changes_handle node now message source).electionsWon_eq]
  cases stands_handle node now message source with
  | kept election => exact Nat.le_of_eq (by rw [election])
  | ended idle =>
    rw [idle]
    exact Nat.le_add_right _ _

/-! ## Deeds -/

section Deeds

variable {node next : Node} {now : Int} {cause : Cause} {letters : List Letter}
  (deed : node.Deed now cause next letters)

include deed

/-- A lead begins with a won election only. -/
theorem Deed.leadsHad_eq (coherent : node.Coherent) :
    next.leadsHad + node.stats.electionsWon = node.leadsHad + next.stats.electionsWon := by
  cases deed.outcome with
  | heard changes | own changes => rw [changes.leadsHad_eq, changes.electionsWon_eq]
  | claimed contends =>
    -- a node that leads runs no election, so this is a new lead
    have backup : node.state.isPrimary = false := by
      apply Bool.eq_false_iff.2
      intro leads
      simp [coherent.atRest leads] at contends
    show node.stats.stepDowns + 1 + node.stats.electionsWon =
      node.stats.stepDowns + node.state.isPrimary.toNat + (node.stats.electionsWon + 1)
    rw [backup, Bool.toNat_false]
    omega
  | wrote => rfl

/-- An election is counted when it begins, and held until it is won or lost. -/
theorem Deed.electionsHeld_le (fits : node.electionsHeld ≤ node.stats.electionsStarted) :
    next.electionsHeld ≤ next.stats.electionsStarted := by
  cases deed with
  | hear message source =>
    calc (node.handle now message source).1.electionsHeld
        ≤ node.electionsHeld := electionsHeld_handle_le node now message source
      _ ≤ node.stats.electionsStarted := fits
      _ ≤ (node.handle now message source).1.stats.electionsStarted :=
        (changes_handle node now message source).electionsStarted_le
  | drop | join | discover => exact fits
  | beat tick =>
    unfold Node.beat
    split <;> exact fits
  | contend opens =>
    obtain ⟨idle, -, rfl⟩ := of_openElection? opens
    rw [electionsHeld, idle] at fits
    exact Nat.succ_le_succ fits
  | claim claims =>
    obtain ⟨contends, rfl, -⟩ := of_claimVictory? claims
    rw [electionsHeld, contends] at fits
    exact fits
  | giveUp => exact Nat.le_trans (Nat.add_le_add_left (Nat.zero_le _) _) fits
  | write starts =>
    obtain ⟨-, -, applied⟩ := applied_of_startWrite starts
    obtain ⟨rfl, -⟩ := Prod.mk.inj applied
    exact fits
  | look seqn deadline =>
    unfold pollAcks
    simp only
    split
    · exact fits
    · split <;> exact fits

end Deeds

/-! ## Every run -/

section Runs

variable {config : Config} {address : Address} {since : Int} {first node : Node}

theorem leadsHad_of_create (created : create config address since = .ok first) :
    first.leadsHad = if config.role = .primary then 1 else 0 := by
  obtain ⟨directory, rfl, -⟩ := of_create created
  cases config.role <;> simp [leadsHad, State.boot, State.isPrimary]

theorem electionsHeld_of_create (created : create config address since = .ok first) :
    first.electionsHeld = 0 := by
  obtain ⟨directory, rfl, -⟩ := of_create created
  rfl

theorem Deeds.leadsHad_eq (deeds : first.Deeds node) (coherent : first.Coherent) :
    node.leadsHad + first.stats.electionsWon = first.leadsHad + node.stats.electionsWon := by
  induction deeds with
  | refl => rfl
  | tail deeds step ih =>
    obtain ⟨_, _, _, deed⟩ := step
    have gained := deed.leadsHad_eq (Deeds.coherent deeds coherent)
    omega

theorem Deeds.electionsHeld_le (deeds : first.Deeds node)
    (fits : first.electionsHeld ≤ first.stats.electionsStarted) :
    node.electionsHeld ≤ node.stats.electionsStarted :=
  deeds.invariant (fun fits deed => deed.electionsHeld_le fits) fits

end Runs

/-- Whatever has happened to a node since it booted, the leads that it had, one at boot if it booted
as primary and one with each election that it won, are those that it gave up and the present one;
and it has won no more elections than it began. -/
theorem leads_accounted {config : Config} {address : Address} {since : Int} {first node : Node}
    (created : create config address since = .ok first) (deeds : first.Deeds node) :
    (if config.role = .primary then 1 else 0) + node.stats.electionsWon =
        node.stats.stepDowns + (if node.state.role = .primary then 1 else 0) ∧
      node.stats.electionsWon ≤ node.stats.electionsStarted := by
  have counts := stats_of_create created
  constructor
  · have account := deeds.leadsHad_eq (coherent_of_create created)
    rw [leadsHad_of_create created, counts] at account
    calc (if config.role = .primary then 1 else 0) + node.stats.electionsWon
        = node.leadsHad := account.symm
      _ = node.stats.stepDowns + (if node.state.role = .primary then 1 else 0) := by
        unfold leadsHad State.isPrimary
        cases node.state.role <;> rfl
  · have fits : first.electionsHeld ≤ first.stats.electionsStarted := by
      rw [electionsHeld_of_create created]
      exact Nat.zero_le _
    exact Nat.le_trans (Nat.le_add_right _ _) (deeds.electionsHeld_le fits)

/-- A backup that wins an election and then hears the heartbeat of a higher node has stepped down
once. -/
theorem leads_accounted_superseded :
    ∃ first node, create followerConfig followerConfig.bindAddress 0 = .ok first ∧
      first.Deeds node ∧ followerConfig.role = .backup ∧ node.state.role = .backup ∧
      node.stats.electionsWon = 1 ∧ node.stats.stepDowns = 1 ∧ 1 ≤ node.stats.electionsStarted := by
  let first := ((create followerConfig followerConfig.bindAddress 0).toOption).getD default
  have created : create followerConfig followerConfig.bindAddress 0 = .ok first := rfl
  have opens : first.openElection? 0 = some (first.contend 0, first.rivals 0) := rfl
  have claims : (first.contend 0).claimVictory? 1 =
      some ((first.contend 0).lead, ((first.contend 0).lead.victory 1).toEach
        (first.contend 0).others) := rfl
  let node := ((first.contend 0).lead.handle 2 (.heartbeat 3 4 2 0) (.v4 ⟨10, 0, 0, 3⟩ 1)).1
  have deeds : first.Deeds node :=
    ((Deeds.single (.contend opens)).trans (.single (.claim claims))).trans
      (.single (.hear (.heartbeat 3 4 2 0) (.v4 ⟨10, 0, 0, 3⟩ 1)))
  obtain ⟨account, won_le⟩ := leads_accounted created deeds
  have won : node.stats.electionsWon = 1 := by decide
  have backup : node.state.role = .backup := by decide
  have booted : followerConfig.role = .backup := rfl
  simp only [booted, backup, reduceCtorEq, if_false, won] at account
  exact ⟨first, node, created, deeds, booted, backup, won, account.symm, won ▸ won_le⟩

end Node

end SumCluster
