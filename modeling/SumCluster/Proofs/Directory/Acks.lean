import SumCluster.Proofs.Directory.Learning

/-!
# Acknowledged numbers in a directory

The numbers that a directory holds for its nodes begin at zero and change only when an
acknowledgement is recorded.  So a predicate on them that zero satisfies (`AcksSatisfy`) is kept by
whatever the directory learns, and by `recordAck` if the recorded number satisfies it too.  When no
acknowledgement of a number is missing, the other nodes marked alive have all reached it
(`le_acked_of_missingAcks_eq_nil`).
-/

namespace SumCluster.Directory

/-- Every acknowledged number in the table satisfies a predicate. -/
def AcksSatisfy (directory : Directory) (P : NodeId → Seqn → Prop) : Prop :=
  ∀ record ∈ directory.records, P record.id record.acked

variable {directory directory' : Directory} {P Q : NodeId → Seqn → Prop}

theorem AcksSatisfy.mono (old : directory.AcksSatisfy P) (le : ∀ id seqn, P id seqn → Q id seqn) :
    directory.AcksSatisfy Q :=
  fun record mem => le _ _ (old record mem)

theorem acksSatisfy_empty (capacity : Nat) : (empty capacity).AcksSatisfy P := by
  intro record mem
  simp [empty] at mem

theorem Learning.acksSatisfy (learning : directory.Learning directory') (zero : ∀ id, P id 0)
    (old : directory.AcksSatisfy P) : directory'.AcksSatisfy P := by
  intro record mem
  cases learning with
  | change keeps =>
    obtain ⟨before, before_mem, rfl⟩ := List.mem_map.1 mem
    show P before.id _
    rw [keeps]
    exact old before before_mem
  | insert fresh =>
    rcases Record.mem_insert mem with rfl | mem
    · rw [fresh]
      exact zero record.id
    · exact old record mem

/-- What a table learns brings no acknowledgements with it. -/
theorem Learns.acksSatisfy (learns : directory.Learns directory') (zero : ∀ id, P id 0)
    (old : directory.AcksSatisfy P) : directory'.AcksSatisfy P := by
  induction learns with
  | refl => exact old
  | tail _ learning ih => exact learning.acksSatisfy zero ih

theorem acksSatisfy_recordAck (old : directory.AcksSatisfy P) {id : NodeId} {seqn : Seqn}
    (new : P id seqn) : (directory.recordAck id seqn).AcksSatisfy P := by
  intro record mem
  obtain ⟨before, before_mem, rfl⟩ := List.mem_map.1 mem
  show P before.id (if before.id = id then _ else before).acked
  split
  · rename_i same
    show P before.id (if before.acked ≤ seqn then seqn else before.acked)
    split
    · exact same ▸ new
    · exact old before before_mem
  · exact old before before_mem

/-! ## Missing acknowledgements -/

theorem le_acked_of_missingAcks_eq_nil {self : NodeId} {seqn : Seqn}
    (none : directory.missingAcks self seqn = []) {record : Record}
    (mem : record ∈ directory.records) (other : record.id ≠ self) (alive : record.isAlive) :
    seqn ≤ record.acked := by
  unfold missingAcks at none
  rw [List.map_eq_nil_iff, List.filter_eq_nil_iff] at none
  have := none record mem
  simpa [other, alive] using this

theorem mem_missingAcks {self id : NodeId} {seqn : Seqn} :
    id ∈ directory.missingAcks self seqn ↔
      ∃ record ∈ directory.records, record.id ≠ self ∧ record.isAlive ∧ record.acked < seqn ∧
        record.id = id := by
  simp [missingAcks, and_assoc]

theorem ascending_missingAcks (self : NodeId) (seqn : Seqn) :
    (directory.missingAcks self seqn).Pairwise (· < ·) :=
  List.pairwise_map.2 (directory.ascending.filter _)

theorem mem_alivePeers {self : NodeId} {peer : Peer} :
    peer ∈ directory.alivePeers self ↔
      ∃ record ∈ directory.records, record.id ≠ self ∧ record.isAlive ∧ record.peer = peer := by
  simp [alivePeers, and_assoc]

end SumCluster.Directory
