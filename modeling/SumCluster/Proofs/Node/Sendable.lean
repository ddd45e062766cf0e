import SumCluster.Proofs.Node.Lists
import SumCluster.Proofs.Wire.Size

/-!
# What a node can send

Lists are the only messages that may be too large to be sent, and a list is no longer than the table
that it tells of.  A node with room for no more than 1871 nodes therefore sends nothing but what
fits into a frame, even if all its peers have addresses of the newer family
(`Node.messages_sendable`).
-/

namespace SumCluster

namespace Node

variable {node next : Node} {now : Int} {cause : Cause} {letters : List Letter}

/-- A list that is sent is no longer than the sender's table can get. -/
theorem Deed.length_list_le (deed : node.Deed now cause next letters) {letter : Letter}
    (sent : letter ∈ letters) {sender : NodeId} {primary : Option NodeId}
    {entries : List PeerEntry} (list : letter.message = .replicaList sender primary entries) :
    entries.length ≤ node.state.directory.capacity := by
  obtain ⟨message, -⟩ := deed.listed sent (by rw [list]; rfl)
  obtain ⟨-, -, rfl⟩ := Message.replicaList.inj (list.symm.trans message)
  rw [Directory.entries_eq, List.length_map, ← deed.capacity_eq]
  exact next.state.directory.fits

/-- What a node sends takes no more room than a list of as many nodes as it can have on record. -/
theorem Deed.frameSize_le (deed : node.Deed now cause next letters) {letter : Letter}
    (sent : letter ∈ letters) :
    letter.message.frameSize ≤ 41 ∨
      letter.message.frameSize ≤ 30 + 35 * node.state.directory.capacity := by
  by_cases list : letter.message.kind = .replicaList
  · right
    cases same : letter.message with
    | replicaList sender primary entries =>
      calc (Message.replicaList sender primary entries).frameSize
          ≤ 30 + 35 * entries.length := Message.frameSize_replicaList_le
        _ ≤ 30 + 35 * node.state.directory.capacity :=
          Nat.add_le_add_left (Nat.mul_le_mul_left 35 (deed.length_list_le sent same)) 30
    | _ =>
      rw [same] at list
      exact nomatch list
  · exact .inl (Message.frameSize_le list)

/-- A message cannot be sent just when it is a list with too many entries, 23 bytes for each with an
address of the older family and 35 for each of the newer one; the frames of the other lists have
just that size, and those of the other messages at most 41 bytes.  So a node with room for at most
1871 nodes sends nothing that does not fit, whatever happens to it, and nobody can send a list of
2849 entries. -/
theorem messages_sendable :
    (∀ message : Message, (∃ fault, message.encode = .error fault) ↔
      ∃ sender primary entries, message = .replicaList sender primary entries ∧
        65536 < 9 + 17 + (if primary.isSome then 4 else 0) +
          23 * entries.countP (·.address.isV4) + 35 * entries.countP (!·.address.isV4)) ∧
    (∀ message : Message, ∀ frame, message.encode = .ok frame →
      (∀ sender primary entries, message = .replicaList sender primary entries →
        frame.length = 9 + 17 + (if primary.isSome then 4 else 0) +
          23 * entries.countP (·.address.isV4) + 35 * entries.countP (!·.address.isV4)) ∧
      (message.kind ≠ .replicaList → frame.length ≤ 41)) ∧
    (∀ config address since first node, config.maxReplicas ≤ 1871 →
      create config address since = .ok first → first.Deeds node →
      ∀ now cause next letters, node.Deed now cause next letters →
        ∀ letter ∈ letters, ∃ frame, letter.message.encode = .ok frame) ∧
    ∀ sender primary entries, 2849 ≤ entries.length →
      ∃ fault, (Message.replicaList sender primary entries).encode = .error fault := by
  refine ⟨fun message => ?_, fun message frame encodes => ⟨?_, fun other => ?_⟩, ?_, ?_⟩
  · rw [Message.encode_eq_error_iff]
    constructor
    · intro large
      by_cases list : message.kind = .replicaList
      · cases message with
        | replicaList sender primary entries => exact ⟨sender, primary, entries, rfl, large⟩
        | _ => exact nomatch list
      · have short := Message.frameSize_le list
        unfold Wire.frameLimit at large
        omega
    · rintro ⟨sender, primary, entries, rfl, large⟩
      exact large
  · rintro sender primary entries rfl
    exact Message.length_of_encode encodes
  · rw [Message.length_of_encode encodes]
    exact Message.frameSize_le other
  · intro config address since first node room created deeds now cause next letters deed letter sent
    apply Message.exists_encode_of_le
    have size := deed.frameSize_le sent
    rw [deeds.capacity_eq, capacity_of_create created] at size
    unfold Wire.frameLimit
    omega
  · intro sender primary entries long
    rw [Message.encode_eq_error_iff]
    have size := @Message.le_frameSize_replicaList sender primary entries
    unfold Wire.frameLimit
    omega

/-- A list of 2848 nodes with addresses of the older family fits if it names no primary, and one of
2849 does not.  A backup with room for 1871 nodes answers a request with a list that fits. -/
theorem messages_sendable_largest :
    let entry : PeerEntry := ⟨1, .v4 ⟨10, 0, 0, 1⟩ 1, true, 0⟩
    let config := { followerConfig with maxReplicas := 1871 }
    (∃ frame, (Message.replicaList 2 none (.replicate 2848 entry)).encode = .ok frame ∧
        frame.length = 65530) ∧
      (∃ fault, (Message.replicaList 2 none (.replicate 2849 entry)).encode = .error fault) ∧
      (∃ frame, (Message.victory 2 5 3 0).encode = .ok frame ∧ frame.length ≤ 41) ∧
      ∃ first letter, create config config.bindAddress 0 = .ok first ∧
        letter ∈ (first.handle 7 (.joinRequest 3 0) (.v4 ⟨10, 0, 0, 3⟩ 1)).2.letters ∧
        letter.message.kind = .replicaList ∧ ∃ frame, letter.message.encode = .ok frame := by
  intro entry config
  obtain ⟨fails, sizes, sends, long⟩ := messages_sendable
  have old : (List.replicate 2848 entry).countP (·.address.isV4) = 2848 :=
    List.countP_replicate.trans (if_pos rfl)
  have new : (List.replicate 2848 entry).countP (!·.address.isV4) = 0 :=
    List.countP_replicate.trans (if_neg Bool.false_ne_true)
  refine ⟨?_, ?_, ?_, ?_⟩
  · cases encodes : (Message.replicaList 2 none (.replicate 2848 entry)).encode with
    | ok frame =>
      refine ⟨frame, rfl, ?_⟩
      rw [(sizes _ frame encodes).1 2 none _ rfl, old, new]
      rfl
    | error fault =>
      obtain ⟨_, _, _, same, large⟩ := (fails _).1 ⟨fault, encodes⟩
      obtain ⟨-, rfl, rfl⟩ := Message.replicaList.inj same
      rw [old, new] at large
      exact absurd large (by decide)
  · apply long
    exact Nat.le_of_eq List.length_replicate.symm
  · have encodes : (Message.victory 2 5 3 0).encode = .ok _ := rfl
    exact ⟨_, encodes, (sizes _ _ encodes).2 nofun⟩
  · let first := ((create config config.bindAddress 0).toOption).getD default
    let answer := (first.handle 7 (.joinRequest 3 0) (.v4 ⟨10, 0, 0, 3⟩ 1)).2.letters
    let next := (first.handle 7 (.joinRequest 3 0) (.v4 ⟨10, 0, 0, 3⟩ 1)).1
    have created : create config config.bindAddress 0 = .ok first := rfl
    have sent : ⟨.v4 ⟨10, 0, 0, 3⟩ 1, next.replicaList 7⟩ ∈ answer := by decide +kernel
    have fits := sends config config.bindAddress 0 first first (Nat.le_refl _) created (.refl _)
    exact ⟨first, _, created, sent, rfl, fits 7 _ next answer (.hear _ _) _ sent⟩

end Node

end SumCluster
