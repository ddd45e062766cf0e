import Mathlib.Algebra.GroupWithZero.Nat
import SumCluster.Proofs.Wire.Frame

/-!
# The size of a frame

A layout takes as many bytes for a value as its parts take (`Wire.Layout.Takes`).  Every message but
a list has one size for its kind; in a list, an entry takes 23 bytes if its address is of the older
family and 35 if it is of the newer one (`Message.frameSize`).  A message can be sent just when its
frame is within the limit (`Message.encode_eq_error_iff`), and is never cut short
(`Message.length_of_encode`).
-/

namespace SumCluster

open Wire

/-- Whether an address is of the older family. -/
def Address.isV4 : Address → Bool
  | v4 .. => true
  | v6 .. => false

namespace Wire

namespace Layout

/-- A value is written in as many bytes as its size says. -/
def Takes {α : Type} (layout : Layout α) (size : α → Nat) : Prop :=
  ∀ a, (layout.write a).length = size a

variable {α β : Type} {m : α → Nat} {n : β → Nat}

/-! ## Layouts from layouts -/

theorem Takes.congr {layout : Layout α} (takes : layout.Takes m) {m' : α → Nat}
    (same : ∀ a, m a = m' a) : layout.Takes m' :=
  fun a => (takes a).trans (same a)

theorem Takes.via {layout : Layout β} (takes : layout.Takes n) (into : α → β) (back : β → α) :
    (layout.via into back).Takes fun a => n (into a) :=
  fun a => takes (into a)

theorem Takes.pair {first : Layout α} {second : Layout β} (takes : first.Takes m)
    (takes' : second.Takes n) : (first.pair second).Takes fun p => m p.1 + n p.2 := by
  intro p
  show (first.write p.1 ++ second.write p.2).length = _
  rw [List.length_append, takes, takes']

theorem Takes.option {layout : Layout α} (takes : layout.Takes m) :
    layout.option.Takes fun o => 1 + o.elim 0 m := by
  intro o
  cases o with
  | none => rfl
  | some a =>
    show (layout.write a).length + 1 = 1 + m a
    rw [takes, Nat.add_comm]

theorem Takes.list {layout : Layout α} (takes : layout.Takes m) :
    layout.list.Takes fun as => 8 + (as.map m).sum := by
  intro as
  have members : as.map (fun a => (layout.write a).length) = as.map m :=
    List.map_congr_left fun a _ => takes a
  show (writeWord 8 as.length ++ as.flatMap layout.write).length = _
  rw [List.length_append, length_writeWord, List.length_flatMap, members]

/-! ## Fields -/

theorem takes_word (width : Nat) : (word width).Takes fun _ => width :=
  fun n => length_writeWord width n

theorem takes_byte : byte.Takes fun _ => 1 := (takes_word 1).via _ _

theorem takes_word16 : word16.Takes fun _ => 2 := (takes_word 2).via _ _

theorem takes_word32 : word32.Takes fun _ => 4 := (takes_word 4).via _ _

theorem takes_word64 : word64.Takes fun _ => 8 := (takes_word 8).via _ _

theorem takes_int64 : int64.Takes fun _ => 8 := takes_word64.via _ _

theorem takes_bool : bool.Takes fun _ => 1 := fun _ => rfl

theorem takes_ipv4 : ipv4.Takes fun _ => 4 :=
  (takes_byte.pair (takes_byte.pair (takes_byte.pair takes_byte))).via _ _

theorem takes_group : group.Takes fun _ => 2 := (takes_byte.pair takes_byte).via _ _

theorem takes_ipv6 : ipv6.Takes fun _ => 16 :=
  (takes_group.pair (takes_group.pair (takes_group.pair (takes_group.pair (takes_group.pair
    (takes_group.pair (takes_group.pair takes_group))))))).via _ _

theorem takes_address : address.Takes fun a => if a.isV4 then 10 else 22 := by
  intro a
  cases a with
  | v4 ip port =>
    show (writeWord 4 0 ++ ipv4.write ip ++ word16.write port).length = 10
    rw [List.length_append, List.length_append, length_writeWord, takes_ipv4, takes_word16]
    rfl
  | v6 ip port flow scope =>
    show (writeWord 4 1 ++ ipv6.write ip ++ word16.write port).length = 22
    rw [List.length_append, List.length_append, length_writeWord, takes_ipv6, takes_word16]
    rfl

theorem takes_entry : entry.Takes fun entry => if entry.address.isV4 then 23 else 35 := by
  have fields := takes_word32.pair (takes_address.pair (takes_bool.pair takes_word64))
  refine (fields.via _ _).congr fun entry => ?_
  simp only
  split <;> rfl

theorem takes_notice : notice.Takes fun _ => 12 := takes_word32.pair takes_word64

theorem takes_report : report.Takes fun _ => 28 :=
  takes_word32.pair (takes_int64.pair (takes_word64.pair takes_word64))

theorem takes_acknowledgement : acknowledgement.Takes fun _ => 12 := takes_word32.pair takes_word64

theorem takes_offer : offer.Takes fun _ => 20 := takes_word32.pair (takes_int64.pair takes_word64)

/-- The bytes of a list by the families of its addresses. -/
theorem sum_map_entry (entries : List PeerEntry) :
    (entries.map fun entry => if entry.address.isV4 then 23 else 35).sum =
      23 * entries.countP (·.address.isV4) + 35 * entries.countP (!·.address.isV4) := by
  induction entries with
  | nil => rfl
  | cons entry rest ih =>
    rw [List.map_cons, List.sum_cons, ih, List.countP_cons, List.countP_cons]
    cases entry.address.isV4 <;> simp <;> omega

theorem takes_table : table.Takes fun (_, primary, entries) =>
    13 + (if primary.isSome then 4 else 0) + 23 * entries.countP (·.address.isV4) +
      35 * entries.countP (!·.address.isV4) := by
  have fields := takes_word32.pair (takes_word32.option.pair takes_entry.list)
  refine fields.congr fun (sender, primary, entries) => ?_
  simp only [sum_map_entry]
  cases primary <;> simp <;> omega

end Layout

end Wire

/-! ## Messages -/

namespace Message

/-- The bytes that the frame of a message takes, if there is one. -/
def frameSize : Message → Nat
  | heartbeat .. | stateUpdate .. | victory .. => 41
  | joinRequest .. | stateAck .. | startElection .. | electionResponse .. => 25
  | victoryAck .. => 33
  | replicaList _ primary entries =>
    9 + 17 + (if primary.isSome then 4 else 0) + 23 * entries.countP (·.address.isV4) +
      35 * entries.countP (!·.address.isV4)

variable {message : Message} {frame : Bytes} {sender : NodeId} {primary : Option NodeId}
  {entries : List PeerEntry}

theorem frameSize_replicaList : (replicaList sender primary entries).frameSize =
    9 + 17 + (if primary.isSome then 4 else 0) + 23 * entries.countP (·.address.isV4) +
      35 * entries.countP (!·.address.isV4) :=
  rfl

theorem length_payload (message : Message) :
    (payload.write message).length + frameOverhead = message.frameSize := by
  show (writeWord 4 message.kind.index ++ writeFields message).length + 9 = _
  rw [List.length_append, length_writeWord]
  cases message <;> unfold writeFields
  case heartbeat | stateUpdate | victory => rw [Layout.takes_report]; rfl
  case joinRequest | startElection | electionResponse => rw [Layout.takes_notice]; rfl
  case stateAck => rw [Layout.takes_acknowledgement]; rfl
  case victoryAck => rw [Layout.takes_offer]; rfl
  case replicaList sender primary entries =>
    rw [Layout.takes_table, frameSize_replicaList]
    show 4 + (13 + _ + _ + _) + 9 = _
    omega

/-- A message that cannot be sent has too large a frame. -/
theorem encode_eq_error_iff :
    (∃ fault, message.encode = .error fault) ↔ frameLimit < message.frameSize := by
  unfold encode
  simp only [length_payload]
  split
  · rename_i large
    exact ⟨fun _ => large, fun _ => ⟨_, rfl⟩⟩
  · rename_i fits
    exact ⟨nofun, fun large => absurd large fits⟩

theorem exists_encode_of_le (fits : message.frameSize ≤ frameLimit) :
    ∃ frame, message.encode = .ok frame := by
  cases encodes : message.encode with
  | ok frame => exact ⟨frame, rfl⟩
  | error fault => exact absurd (encode_eq_error_iff.1 ⟨fault, encodes⟩) (Nat.not_lt.2 fits)

theorem length_of_encode (encodes : message.encode = .ok frame) :
    frame.length = message.frameSize := by
  obtain ⟨-, rfl⟩ := encode_eq_ok_iff.1 encodes
  rw [← length_payload]
  simp [withChecksum, frameOverhead]
  omega

/-- Every message but a list is short. -/
theorem frameSize_le (other : message.kind ≠ .replicaList) : message.frameSize ≤ 41 := by
  cases message with
  | replicaList => exact absurd rfl other
  | _ => simp [frameSize]

theorem length_eq_countP_isV4 (entries : List PeerEntry) :
    entries.length = entries.countP (·.address.isV4) + entries.countP (!·.address.isV4) := by
  simpa using List.length_eq_countP_add_countP fun entry : PeerEntry => entry.address.isV4

theorem frameSize_replicaList_le :
    (replicaList sender primary entries).frameSize ≤ 30 + 35 * entries.length := by
  have families := length_eq_countP_isV4 entries
  rw [frameSize_replicaList]
  split <;> omega

theorem le_frameSize_replicaList :
    26 + 23 * entries.length ≤ (replicaList sender primary entries).frameSize := by
  have families := length_eq_countP_isV4 entries
  rw [frameSize_replicaList]
  omega

end Message

end SumCluster
