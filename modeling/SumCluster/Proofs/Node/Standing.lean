import SumCluster.Proofs.Node.Change

/-!
# Who a node is, and whether it leads

The identifier, the address and the configuration of a node never change, and the number of
elections that it has won changes with a won election only (`Node.Deed.standing_eq`).  Nothing else
makes a node lead that did not lead before (`Node.Deed.leads_or_won`), and only a node that leads
applies writes (`Node.Deed.leads_of_wrote`).
-/

namespace SumCluster

namespace Node

/-- What no message changes: the identifier, the address and the configuration of a node, and how
many elections it has won. -/
def standing (node : Node) : NodeId × Address × Config × Nat :=
  (node.id, node.address, node.config, node.stats.electionsWon)

section Changes

variable {node next : Node} {cause : Cause}

theorem Change.standing_eq (change : Change cause node next) : next.standing = node.standing := by
  cases change with
  | count won =>
    unfold standing
    rw [won]
    rfl
  | _ => rfl

theorem Changes.standing_eq (changes : Changes cause node next) :
    next.standing = node.standing := by
  induction changes with
  | refl => rfl
  | tail _ change ih => exact change.standing_eq.trans ih

theorem id_of_handled {now : Int} {message : Message} {source : Address} {effects : Effects}
    (handled : node.handle now message source = (next, effects)) : next.id = node.id :=
  congrArg (·.1) (changes_of_handled handled).standing_eq

/-- A small change makes no node lead. -/
theorem Change.leads (change : Change cause node next) (leads : next.state.isPrimary = true) :
    node.state.isPrimary = true := by
  cases change with
  | follow =>
    have backup : ¬(Role.backup = Role.primary) := nofun
    exact absurd (of_decide_eq_true leads) backup
  | _ => exact leads

theorem Changes.leads (changes : Changes cause node next) (leads : next.state.isPrimary = true) :
    node.state.isPrimary = true := by
  induction changes with
  | refl => exact leads
  | tail _ change ih => exact ih (change.leads leads)

end Changes

/-! ## Deeds -/

section Deeds

variable {node next : Node} {now : Int} {cause : Cause} {letters : List Letter}
  (deed : node.Deed now cause next letters)

include deed

/-- Only a won election changes the standing of a node, which leads then. -/
theorem Deed.standing_eq : next.standing = node.standing ∨
    next.standing = (node.id, node.address, node.config, node.stats.electionsWon + 1) ∧
      next.state.isPrimary = true := by
  cases deed.outcome with
  | heard changes => exact .inl changes.standing_eq
  | own changes => exact .inl changes.standing_eq
  | claimed => exact .inr ⟨rfl, rfl⟩
  | wrote => exact .inl rfl

theorem Deed.id_eq : next.id = node.id := by
  rcases deed.standing_eq with same | ⟨same, -⟩ <;> exact congrArg (·.1) same

theorem Deed.config_eq : next.config = node.config := by
  rcases deed.standing_eq with same | ⟨same, -⟩ <;> exact congrArg (·.2.2.1) same

theorem Deed.leads_of_won (won : node.stats.electionsWon < next.stats.electionsWon) :
    next.state.isPrimary = true := by
  rcases deed.standing_eq with same | ⟨-, leads⟩
  · have same : next.stats.electionsWon = node.stats.electionsWon := congrArg (·.2.2.2) same
    omega
  · exact leads

theorem Deed.leads_or_won (leads : next.state.isPrimary = true) :
    node.state.isPrimary = true ∨ 0 < next.stats.electionsWon := by
  cases deed.outcome with
  | heard changes => exact .inl (changes.leads leads)
  | own changes => exact .inl (changes.leads leads)
  | claimed => exact .inr (Nat.succ_pos _)
  | wrote _ leads => exact .inl leads

end Deeds

theorem Deed.leads_of_wrote {node next : Node} {now : Int} {sum : Int64} {seqn : Seqn}
    {letters : List Letter} (deed : node.Deed now (.wrote sum seqn) next letters) :
    node.state.isPrimary = true := by
  cases deed.outcome with
  | wrote _ leads => exact leads

end Node

end SumCluster
