import SumCluster.Proofs.Wire.Layout
import SumCluster.Wire.Payload

/-!
# Payloads are exact

A message is read off a payload just when the payload begins with the message as it is written, the
number of its kind in front of its fields (`Wire.exact_payload`).  What may be lost of a message is
said by `Message.Arrives`: the scopes and flow labels of listed addresses, and a list with more
entries than eight bytes can count.
-/

namespace SumCluster

namespace Message

/-- Whether a message arrives as it was written. -/
def Arrives : Message → Prop
  | replicaList _ _ entries => entries.length < 256 ^ 8 ∧ ∀ entry ∈ entries, entry.address.IsBare
  | _ => True

/-- Whether nothing of a message is lost: it lists no scope and no flow label. -/
def IsBare (message : Message) : Prop :=
  message.bare = message

theorem isBare_replicaList_iff {sender : NodeId} {primary : Option NodeId}
    {entries : List PeerEntry} :
    (replicaList sender primary entries).IsBare ↔ ∀ entry ∈ entries, entry.address.IsBare := by
  have member (entry : PeerEntry) :
      { entry with address := entry.address.bare } = entry ↔ entry.address.IsBare :=
    ⟨congrArg PeerEntry.address, fun bare => by rw [bare]⟩
  simp only [IsBare, bare, replicaList.injEq, true_and]
  induction entries with
  | nil => simp
  | cons entry rest ih =>
    simp only [List.map_cons, List.cons.injEq, ih, member, List.forall_mem_cons]

theorem Arrives.isBare {message : Message} (arrives : message.Arrives) : message.IsBare := by
  cases message with
  | replicaList => exact isBare_replicaList_iff.2 arrives.2
  | _ => rfl

@[simp] theorem bare_bare (message : Message) : message.bare.bare = message.bare := by
  cases message with
  | replicaList => simp [bare]
  | _ => rfl

end Message

namespace Wire

/-! ## Fields -/

namespace Layout

theorem exact_notice : notice.Exact fun _ => True :=
  (exact_word32.pair exact_word64).congr fun _ => by simp

theorem exact_report : report.Exact fun _ => True :=
  (exact_word32.pair (exact_int64.pair (exact_word64.pair exact_word64))).congr fun _ => by simp

theorem exact_acknowledgement : acknowledgement.Exact fun _ => True :=
  (exact_word32.pair exact_word64).congr fun _ => by simp

theorem exact_offer : offer.Exact fun _ => True :=
  (exact_word32.pair (exact_int64.pair exact_word64)).congr fun _ => by simp

theorem exact_table : table.Exact fun (sender, primary, entries) =>
    (Message.replicaList sender primary entries).Arrives :=
  (exact_word32.pair (exact_word32.option.pair exact_entry.list)).congr fun _ => by
    simp [Message.Arrives]

end Layout

section Fields

variable {β : Type} {layout : Layout β} {Q : β → Prop} {kind : MessageKind} {bytes rest : Bytes}
  {message : Message}

/-- The fields of one kind of messages, laid out as a type that the messages of the kind are made
of. -/
theorem map_read_eq_ok_iff (exact : layout.Exact Q) {make : β → Message}
    (writes : ∀ b, writeFields (make b) = layout.write b) (arrives : ∀ b, Q b ↔ (make b).Arrives)
    (makes : ∀ message, message.kind = kind ↔ ∃ b, make b = message) :
    layout.read.map make bytes = .ok (message, rest) ↔
      message.kind = kind ∧ message.Arrives ∧ bytes = writeFields message ++ rest := by
  rw [Layout.map_eq_ok_iff, makes]
  constructor
  · rintro ⟨b, reads, rfl⟩
    rw [exact, arrives, ← writes] at reads
    exact ⟨⟨b, rfl⟩, reads⟩
  · rintro ⟨⟨b, rfl⟩, whole⟩
    rw [writes, ← arrives, ← exact] at whole
    exact ⟨b, whole, rfl⟩

theorem readFields_eq_ok_iff :
    readFields kind bytes = .ok (message, rest) ↔
      message.kind = kind ∧ message.Arrives ∧ bytes = writeFields message ++ rest := by
  cases kind <;> unfold readFields
  case heartbeat | stateUpdate | victory =>
    refine map_read_eq_ok_iff Layout.exact_report (fun _ => rfl) (fun _ => Iff.rfl) fun message => ?_
    cases message <;> simp [Message.kind]
  case joinRequest | startElection | electionResponse =>
    refine map_read_eq_ok_iff Layout.exact_notice (fun _ => rfl) (fun _ => Iff.rfl) fun message => ?_
    cases message <;> simp [Message.kind]
  case stateAck =>
    refine map_read_eq_ok_iff Layout.exact_acknowledgement (fun _ => rfl) (fun _ => Iff.rfl)
      fun message => ?_
    cases message <;> simp [Message.kind]
  case replicaList =>
    refine map_read_eq_ok_iff Layout.exact_table (fun _ => rfl) (fun _ => Iff.rfl)
      fun message => ?_
    cases message <;> simp [Message.kind]
  case victoryAck =>
    refine map_read_eq_ok_iff Layout.exact_offer (fun _ => rfl) (fun _ => Iff.rfl)
      fun message => ?_
    cases message <;> simp [Message.kind]

end Fields

/-! ## Payloads -/

theorem index_eq_of_getElem? {index : Nat} {kind : MessageKind}
    (found : MessageKind.all[index]? = some kind) : kind.index = index := by
  have inside : index < MessageKind.all.length := (List.getElem?_eq_some_iff.1 found).1
  have distinct : MessageKind.all.Nodup := by decide
  exact ((List.getElem?_inj inside distinct).1
    (found.trans (MessageKind.getElem?_index kind).symm)).symm

theorem exact_payload : payload.Exact Message.Arrives := by
  intro bytes message rest
  refine bind_eq_ok_iff.trans ⟨?_, ?_⟩
  · rintro ⟨⟨index, middle⟩, reads, goesOn⟩
    obtain ⟨-, rfl⟩ := readWord_eq_ok_iff.1 reads
    simp only at goesOn
    split at goesOn
    · exact nomatch goesOn
    · rename_i kind found
      obtain ⟨rfl, arrives, rfl⟩ := readFields_eq_ok_iff.1 goesOn
      obtain rfl := index_eq_of_getElem? found
      exact ⟨arrives, (List.append_assoc ..).symm⟩
  · rintro ⟨arrives, rfl⟩
    have small : message.kind.index < 256 ^ 4 := by cases message.kind <;> decide
    refine ⟨(message.kind.index, writeFields message ++ rest),
      readWord_eq_ok_iff.2 ⟨small, List.append_assoc ..⟩, ?_⟩
    simp only [MessageKind.getElem?_index]
    exact readFields_eq_ok_iff.2 ⟨rfl, arrives, rfl⟩

/-- Scopes and flow labels are not written. -/
theorem write_payload_bare (message : Message) :
    payload.write message.bare = payload.write message := by
  have address (address : Address) :
      Layout.address.write address.bare = Layout.address.write address := by
    cases address <;> rfl
  cases message with
  | replicaList sender primary entries =>
    simp [payload, writeFields, Message.bare, Message.kind, Layout.table, Layout.pair,
      Layout.list, Layout.entry, Layout.via, address, List.flatMap_map]
  | _ => rfl

/-- Written entries are no fewer bytes than entries. -/
theorem length_le_length_entries (entries : List PeerEntry) :
    entries.length ≤ (entries.flatMap Layout.entry.write).length := by
  induction entries with
  | nil => exact Nat.le_refl _
  | cons entry rest ih =>
    have written : 0 < (Layout.entry.write entry).length := by
      simp only [Layout.entry, Layout.via, Layout.pair, Layout.word32, Layout.word,
        List.length_append, length_writeWord]
      omega
    rw [List.flatMap_cons, List.length_append, List.length_cons]
    omega

/-- Nothing of a message is lost if it has no scope and no flow label and is not too long to be
counted. -/
theorem arrives_of_isBare {message : Message} (bare : message.IsBare)
    (short : (payload.write message).length < 256 ^ 8) : message.Arrives := by
  cases message with
  | replicaList sender primary entries =>
    refine ⟨Nat.lt_of_le_of_lt ?_ short, Message.isBare_replicaList_iff.1 bare⟩
    have long := length_le_length_entries entries
    simp only [payload, writeFields, Layout.table, Layout.pair, Layout.list, List.length_append]
    omega
  | _ => trivial

end Wire

end SumCluster
