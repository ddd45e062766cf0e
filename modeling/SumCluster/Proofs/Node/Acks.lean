import SumCluster.Proofs.Directory.Acks
import SumCluster.Proofs.Node.Held

/-!
# Acknowledgements that a node has recorded

A node records a number for the sender of a message only if the message acknowledges that number and
the node itself has reached it.  So a predicate on the numbers in its directory that zero satisfies
is kept by a deed if it holds of such an acknowledgement (`Node.Deed.acksSatisfy`).
-/

namespace SumCluster

namespace Node

/-- Every number that the node has recorded as acknowledged satisfies a predicate. -/
def AcksSatisfy (node : Node) (P : NodeId → Seqn → Prop) : Prop :=
  node.state.directory.AcksSatisfy P

variable {P : NodeId → Seqn → Prop} {node next : Node} {cause : Cause}

theorem Change.acksSatisfy (change : Change cause node next) (zero : ∀ id, P id 0)
    (old : node.AcksSatisfy P)
    (new : ∀ message seqn, cause = .heard message → message.acknowledged? = some seqn →
      seqn ≤ next.state.seqn → P message.sender seqn) : next.AcksSatisfy P := by
  cases change with
  | follow | recognise | elect | count | adopt => exact old
  | learn learns => exact learns.acksSatisfy zero old
  | note heard acknowledged reached =>
    exact Directory.acksSatisfy_recordAck old (new _ _ heard acknowledged reached)

theorem Changes.acksSatisfy (changes : Changes cause node next) (zero : ∀ id, P id 0)
    (old : node.AcksSatisfy P)
    (new : ∀ message seqn, cause = .heard message → message.acknowledged? = some seqn →
      seqn ≤ next.state.seqn → P message.sender seqn) : next.AcksSatisfy P := by
  induction changes with
  | refl => exact old
  | tail _ change ih =>
    -- a number that the node had reached on the way it has reached at the end
    refine change.acksSatisfy zero (ih fun message seqn heard acknowledged reached => ?_) new
    exact new message seqn heard acknowledged (UInt64.le_trans reached change.follows.seqn_le)

/-- A deed records the number that a message acknowledges, if the node has reached it, and no
other. -/
theorem Deed.acksSatisfy {now : Int} {letters : List Letter}
    (deed : node.Deed now cause next letters) (zero : ∀ id, P id 0) (old : node.AcksSatisfy P)
    (new : ∀ message seqn, cause = .heard message → message.acknowledged? = some seqn →
      seqn ≤ next.state.seqn → P message.sender seqn) : next.AcksSatisfy P := by
  cases deed.outcome with
  | heard changes => exact changes.acksSatisfy zero old new
  | own changes => exact changes.acksSatisfy zero old new
  | claimed => exact old
  | wrote => exact old

end Node

end SumCluster
