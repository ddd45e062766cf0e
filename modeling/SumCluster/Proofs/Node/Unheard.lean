import SumCluster.Proofs.Node.Standing

/-!
# A node that hears nothing

What a node does of its own accord while no message arrives, and nothing begins or ends an election
(`Node.Unheard`).  A contender only waits then, and keeps its state (`Node.Unheard.state_eq`).  A
leader may write and mark nodes dead, but it leads on (`Node.Unheard.reigns`).
-/

namespace SumCluster

namespace Node

/-- Deeds of a node while no message arrives, and nothing begins or ends an election. -/
def Unheard : Node → Node → Prop :=
  Relation.ReflTransGen fun node next => ∃ now cause letters, node.Deed now cause next letters ∧
    (∀ message, cause ≠ .heard message) ∧ next.state.election = node.state.election

variable {node next : Node}

theorem Unheard.config_eq (unheard : node.Unheard next) : next.config = node.config := by
  induction unheard with
  | refl => rfl
  | tail _ step ih =>
    obtain ⟨_, _, _, deed, -⟩ := step
    exact deed.config_eq.trans ih

theorem openElection?_of_busy {node : Node} (now : Int)
    (busy : (node.state.election.isElecting || node.state.isPrimary) = true) :
    node.openElection? now = none := by
  simp [openElection?, State.beginElection?, busy]

theorem state_pollAcks (node : Node) (now : Int) (seqn : Seqn) (deadline : Int) :
    (node.pollAcks now seqn deadline).1.state = node.state := by
  unfold pollAcks
  simp only
  split
  · rfl
  · split <;> rfl

/-- A contender that hears nothing waits. -/
theorem Deed.state_eq_of_unheard {now : Int} {cause : Cause} {letters : List Letter}
    (deed : node.Deed now cause next letters) (unheard : ∀ message, cause ≠ .heard message)
    (same : next.state.election = node.state.election)
    (contends : node.state.election.isElecting = true) (backup : node.state.isPrimary = false) :
    next.state = node.state := by
  cases deed with
  | hear message => exact absurd rfl (unheard message)
  | drop => rfl
  | beat tick =>
    unfold Node.beat
    rw [backup]
    rfl
  | contend opens =>
    rw [openElection?_of_busy now (by simp [contends])] at opens
    exact nomatch opens
  | claim claims =>
    obtain ⟨rfl, -⟩ := Prod.mk.inj (Option.some.inj ((if_pos contends).symm.trans claims))
    rw [← same] at contends
    exact nomatch contends
  | giveUp =>
    rw [← same] at contends
    exact nomatch contends
  | join => rfl
  | discover => rfl
  | write starts =>
    rw [(applied_of_startWrite starts).1] at backup
    exact nomatch backup
  | look seqn deadline => exact state_pollAcks node now seqn deadline

/-- The node leads, follows itself and runs no election. -/
structure Reigns (node : Node) : Prop where
  role : node.state.role = .primary
  primary : node.state.primary = some node.id
  idle : node.state.election = .idle

/-- A leader that hears nothing leads on. -/
theorem Deed.reigns_of_unheard {now : Int} {cause : Cause} {letters : List Letter}
    (deed : node.Deed now cause next letters) (unheard : ∀ message, cause ≠ .heard message)
    (reigns : node.Reigns) : next.Reigns := by
  have leads : node.state.isPrimary = true := decide_eq_true reigns.role
  cases deed with
  | hear message => exact absurd rfl (unheard message)
  | drop => exact ⟨reigns.role, reigns.primary, reigns.idle⟩
  | beat tick =>
    unfold Node.beat
    rw [leads]
    exact ⟨reigns.role, reigns.primary, reigns.idle⟩
  | contend opens =>
    rw [openElection?_of_busy now (by simp [leads])] at opens
    exact nomatch opens
  | claim claims =>
    have idle : ¬node.state.election.isElecting = true := by
      rw [reigns.idle]
      exact nofun
    exact nomatch (if_neg idle).symm.trans claims
  | giveUp => exact ⟨reigns.role, reigns.primary, rfl⟩
  | join => exact reigns
  | discover => exact reigns
  | write starts =>
    obtain ⟨-, -, applied⟩ := applied_of_startWrite starts
    obtain ⟨rfl, -⟩ := Prod.mk.inj applied
    exact ⟨reigns.role, reigns.primary, reigns.idle⟩
  | look seqn deadline =>
    have same := state_pollAcks node now seqn deadline
    refine ⟨?_, ?_, ?_⟩
    · rw [same]
      exact reigns.role
    · unfold id
      rw [same]
      exact reigns.primary
    · rw [same]
      exact reigns.idle

theorem Unheard.state_eq (unheard : node.Unheard next)
    (contends : node.state.election.isElecting = true) (backup : node.state.isPrimary = false) :
    next.state = node.state := by
  induction unheard with
  | refl => rfl
  | tail _ step ih =>
    obtain ⟨_, _, _, deed, silent, same⟩ := step
    rw [← ih] at contends backup
    exact (deed.state_eq_of_unheard silent same contends backup).trans ih

theorem Unheard.reigns (unheard : node.Unheard next) (reigns : node.Reigns) : next.Reigns := by
  induction unheard with
  | refl => exact reigns
  | tail _ step ih =>
    obtain ⟨_, _, _, deed, silent, -⟩ := step
    exact deed.reigns_of_unheard silent ih

end Node

end SumCluster
