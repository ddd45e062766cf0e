import Mathlib.Algebra.Group.Nat.Defs
import Mathlib.Data.Set.Basic
import SumCluster.Proofs.Node.Unease
import SumCluster.Proofs.World.Wiring

/-!
# How much a message can lead to

The weight of a datagram depends on who listens at its destination, and on whom the listener knows
and has met (`Campaign.weight`); that of a call for an election on the node that makes it
(`Campaign.callWeight`).  As long as nobody meets anybody, whatever a message or a call brings into
being weighs less than the message or the call itself (`Campaign.Wired.weight_reply`,
`Campaign.Wired.weight_election`).  There is one exception: a node that finds its way to a primary
that it has met asks it to join.  This happens to uneasy nodes only, and puts them at ease.
-/

noncomputable section

open scoped Classical

namespace SumCluster

namespace Campaign

variable {ι : Type}

/-- Whom each node knows, and whom it has met. -/
abbrev Lore (ι : Type) : Type := Set (ι × NodeId) × Set (ι × NodeId)

/-- Whom the nodes know, and whom they have met. -/
def lore (campaign : Campaign ι) : Lore ι :=
  ({fact | (campaign.nodes fact.1).state.directory.contains fact.2 = true},
    {fact | (campaign.nodes fact.1).state.directory.HasMet campaign.now fact.2})

/-! ## Weights -/

/-- How many identifiers are not lower. -/
def depth (id : NodeId) : ℕ :=
  2 ^ 32 - id.toNat

theorem depth_lt {id higher : NodeId} (above : id < higher) : depth higher < depth id := by
  have less := UInt32.lt_iff_toNat_lt.1 above
  have bound := higher.toNat_lt
  unfold depth
  omega

theorem depth_pos (id : NodeId) : 0 < depth id := by
  have bound := id.toNat_lt
  unfold depth
  omega

theorem depth_le (id : NodeId) : depth id ≤ 2 ^ 32 :=
  Nat.sub_le _ _

section AtListener

variable {team : ι → Seat} {address : Address} {weight weight' : ι → ℕ}

/-- What an address weighs if that depends on who listens there. -/
def atListener (team : ι → Seat) (address : Address) (weight : ι → ℕ) : ℕ :=
  if listens : ∃ i, (team i).address = address then weight listens.choose else 0

theorem atListener_self (distinct : Function.Injective fun i => (team i).address) (i : ι) :
    atListener team (team i).address weight = weight i := by
  have listens : ∃ j, (team j).address = (team i).address := ⟨i, rfl⟩
  unfold atListener
  rw [dif_pos listens, distinct listens.choose_spec]

theorem atListener_lt {bound : ℕ} (positive : 0 < bound)
    (less : ∀ i, (team i).address = address → weight i < bound) :
    atListener team address weight < bound := by
  unfold atListener
  split
  · rename_i listens
    exact less _ listens.choose_spec
  · exact positive

theorem atListener_le (le : ∀ i, weight i ≤ weight' i) :
    atListener team address weight ≤ atListener team address weight' := by
  unfold atListener
  split
  · exact le _
  · exact Nat.le_refl 0

end AtListener

section Weights

variable (team : ι → Seat) (lore : Lore ι)

/-- What the list of a node weighs. -/
def listWeight (i : ι) (sender : NodeId) : ℕ :=
  -- the listener may ask a primary to join, which weighs 3, or 5 if it was met before, and it may
  -- become uneasy, which weighs 6, if it does not know the sender even afterwards
  if (i, sender) ∈ lore.2 then 4 else if (i, sender) ∈ lore.1 then 2 else 7

/-- What a message from an address weighs for a member.  A claim or a challenge may bring a call
for an election into being, which sends claims and challenges to higher members. -/
def messageWeight (i : ι) (source : Address) : Message → ℕ
  | .stateAck .. | .electionResponse .. | .victoryAck .. => 0
  | .stateUpdate .. => 1
  | .heartbeat .. => 2
  | .replicaList sender .. => listWeight lore i sender
  | .joinRequest .. => 1 + atListener team source fun j => listWeight lore j (team i).id
  | .victory sender .. => if (team i).id < sender then 1 else 4 * depth (team i).id + 3
  | .startElection sender .. =>
    if sender < (team i).id then 4 * depth (team i).id + 3 else 4 * 2 ^ 32 + 4

/-- What a datagram weighs. -/
def weight (d : Datagram) : ℕ :=
  atListener team d.letter.destination fun i =>
    messageWeight team lore i d.source d.letter.message

/-- What a call for an election weighs. -/
def callWeight : ι × Bid → ℕ
  | (i, .opening) | (i, .contending _) => 4 * depth (team i).id + 2
  | (i, .claiming) => 4 * depth (team i).id + 1
  | (_, .announcing) => 0

end Weights

section Bounds

variable {team : ι → Seat} {lore : Lore ι} {i : ι} {source : Address} {message : Message}

theorem two_le_listWeight (i : ι) (sender : NodeId) : 2 ≤ listWeight lore i sender := by
  unfold listWeight
  split
  · omega
  · split <;> omega

theorem listWeight_le_four {sender : NodeId} (knows : (i, sender) ∈ lore.1) :
    listWeight lore i sender ≤ 4 := by
  unfold listWeight
  rw [if_pos knows]
  split <;> omega

@[simp] theorem messageWeight_bare :
    messageWeight team lore i source message.bare = messageWeight team lore i source message := by
  cases message <;> rfl

theorem messageWeight_of_heartbeat (is : message.kind = .heartbeat) :
    messageWeight team lore i source message = 2 := by
  cases message <;> first | rfl | exact nomatch is

theorem messageWeight_of_joinRequest (is : message.kind = .joinRequest) :
    messageWeight team lore i source message =
      1 + atListener team source fun j => listWeight lore j (team i).id := by
  cases message <;> first | rfl | exact nomatch is

theorem messageWeight_of_replicaList (is : message.kind = .replicaList) :
    messageWeight team lore i source message = listWeight lore i message.sender := by
  cases message <;> first | rfl | exact nomatch is

theorem messageWeight_of_startElection (is : message.kind = .startElection) :
    messageWeight team lore i source message =
      if message.sender < (team i).id then 4 * depth (team i).id + 3 else 4 * 2 ^ 32 + 4 := by
  cases message <;> first | rfl | exact nomatch is

theorem messageWeight_of_victory (is : message.kind = .victory) :
    messageWeight team lore i source message =
      if (team i).id < message.sender then 1 else 4 * depth (team i).id + 3 := by
  cases message <;> first | rfl | exact nomatch is

theorem messageWeight_of_isFinal (final : message.isFinal = true) :
    messageWeight team lore i source message = 0 := by
  cases message with
  | stateAck | electionResponse | victoryAck => rfl
  | _ => exact nomatch final

theorem messageWeight_pos (opened : message.isFinal = false) :
    0 < messageWeight team lore i source message := by
  cases message with
  | stateAck | electionResponse | victoryAck => exact nomatch opened
  | stateUpdate | heartbeat => simp [messageWeight]
  | replicaList sender => exact Nat.lt_of_lt_of_le Nat.two_pos (two_le_listWeight i sender)
  | joinRequest => exact Nat.add_pos_left Nat.one_pos _
  | victory | startElection =>
    simp only [messageWeight]
    split <;> omega

end Bounds

/-! ## What a message leads to -/

/-- A node has got to know nobody, and has met nobody, that it had not before. -/
structure Settled (now : Int) (node next : Node) : Prop where
  known : ∀ id, next.state.directory.contains id = true → node.state.directory.contains id = true
  met : ∀ id, next.state.directory.HasMet now id → node.state.directory.HasMet now id

namespace Wired

variable {team : ι → Seat} {campaign : Campaign ι} (wired : Wired team campaign)

section Delivery

variable {member : ι} {d : Datagram} {next : Node} {effects : Effects}
  (flies : d ∈ campaign.inFlight)
  (handled : (campaign.nodes member).handle campaign.now d.letter.message.bare d.source =
    (next, effects))

include wired

/-- Who listens where a message came from has sent it. -/
theorem id_of_listens (flies : d ∈ campaign.inFlight) {i : ι}
    (listens : (team i).address = d.source) : (team i).id = d.letter.message.bare.sender := by
  rw [Message.sender_bare]
  exact (wired.sources d flies i (.inl listens.symm)).symm

section Answers

variable (lore : Lore ι) (source : Address)

include handled

theorem id_next : next.id = (team member).id :=
  congrArg Seat.id (wired.seat_next handled)

/-- A request to join outweighs the list that answers it. -/
theorem weight_list (kind : d.letter.message.bare.kind = .joinRequest) :
    weight team lore ⟨source, d.source, next.replicaList campaign.now⟩ <
      messageWeight team lore member d.source d.letter.message.bare := by
  rw [messageWeight_of_joinRequest kind, ← wired.id_next handled]
  exact Nat.lt_add_of_pos_left Nat.one_pos

omit wired handled in
theorem weight_update (kind : d.letter.message.bare.kind = .joinRequest) :
    weight team lore ⟨source, d.source, next.stateUpdate campaign.now⟩ <
      messageWeight team lore member d.source d.letter.message.bare := by
  rw [messageWeight_of_joinRequest kind]
  refine Nat.lt_one_add_iff.2 (atListener_le fun i => ?_)
  exact Nat.le_of_lt (two_le_listWeight i _)

/-- The primary that is asked answers with its list. -/
theorem weight_rejoin {address : Address} {primary : NodeId}
    (reaches : Reaches team primary address) {bound : ℕ}
    (heavy : 1 + listWeight lore member primary < bound) :
    weight team lore ⟨next.address, address, next.joinRequest campaign.now⟩ < bound := by
  refine atListener_lt (Nat.zero_lt_of_lt heavy) fun i listens => ?_
  have primary_eq : primary = (team i).id := reaches i (.inl listens.symm)
  have back : next.address = (team member).address :=
    congrArg Seat.address (wired.seat_next handled)
  rw [messageWeight_of_joinRequest rfl, back, atListener_self wired.distinct_addresses]
  rwa [← primary_eq]

include flies

theorem weight_victory_of_lower (lower : d.letter.message.bare.sender < (team member).id)
    {bound : ℕ} (heavy : 1 < bound) :
    weight team lore ⟨source, d.source, next.victory campaign.now⟩ < bound := by
  refine atListener_lt (Nat.lt_trans Nat.one_pos heavy) fun i listens => ?_
  have below : (team i).id < next.id := by
    rwa [wired.id_of_listens flies listens, wired.id_next handled]
  rw [messageWeight_of_victory rfl]
  exact (if_pos below).trans_lt heavy

/-- A primary corrects a lower one. -/
theorem weight_defy (kind : d.letter.message.bare.kind = .heartbeat ∨
      d.letter.message.bare.kind = .victory)
    (lower : d.letter.message.bare.sender < (team member).id) :
    weight team lore ⟨source, d.source, next.victory campaign.now⟩ <
      messageWeight team lore member d.source d.letter.message.bare := by
  refine wired.weight_victory_of_lower flies handled lore source lower ?_
  rcases kind with kind | kind
  · rw [messageWeight_of_heartbeat kind]
    exact Nat.one_lt_two
  · rw [messageWeight_of_victory kind, if_neg (UInt32.not_lt.2 (UInt32.le_of_lt lower))]
    omega

/-- A primary holds on to the lead against a contender. -/
theorem weight_claim (kind : d.letter.message.bare.kind = .startElection) :
    weight team lore ⟨source, d.source, next.victory campaign.now⟩ <
      messageWeight team lore member d.source d.letter.message.bare := by
  rw [messageWeight_of_startElection kind]
  split
  · rename_i lower
    exact wired.weight_victory_of_lower flies handled lore source lower (by omega)
  · refine atListener_lt (by omega) fun i _ => ?_
    have bound := depth_le (team i).id
    rw [messageWeight_of_victory rfl]
    split <;> omega

end Answers

section Settled

variable (other : d.letter.message.bare.sender ≠ (campaign.nodes member).id)
  (settled : Settled campaign.now (campaign.nodes member) next)

include flies handled other settled

omit wired flies in
/-- Who sends something to a settled node was met before, or there is no room for it. -/
theorem met_or_unmet : campaign.lore.2 (member, d.letter.message.bare.sender) ∨
    ((campaign.nodes member).meet campaign.now d.letter.message.bare.sender
      d.source).state.directory.contains d.letter.message.bare.sender = false := by
  have metOrUnmet := @Node.hasMet_handle_or_unknown (campaign.nodes member) campaign.now
    d.letter.message.bare d.source other
  rw [handled] at metOrUnmet
  exact metOrUnmet.imp_left (settled.met _)

omit wired flies handled other settled in
theorem listWeight_of_unknown {sender : NodeId}
    (unknown : (campaign.nodes member).state.directory.contains sender = false) :
    listWeight campaign.lore member sender = 7 := by
  have notKnown : (member, sender) ∉ campaign.lore.1 := Bool.eq_false_iff.1 unknown
  have notMet : (member, sender) ∉ campaign.lore.2 :=
    fun met => notKnown (Directory.HasMet.contains met)
  unfold listWeight
  rw [if_neg notMet, if_neg notKnown]

/-- Whatever a settled node sends because of a message weighs less than the message, or puts the
node at ease. -/
theorem weight_reply : ∀ letter ∈ effects.letters,
    weight team campaign.lore ⟨next.address, letter⟩ <
        messageWeight team campaign.lore member d.source d.letter.message.bare ∨
      ((campaign.nodes member).IsUneasy campaign.now ∧ ¬next.IsUneasy campaign.now ∧
        weight team campaign.lore ⟨next.address, letter⟩ < 6) := by
  intro letter mem
  have replies := Node.replies_handle handled other letter mem
  cases replies with
  | closing opened final =>
    refine .inl (atListener_lt (messageWeight_pos opened) fun i _ => ?_)
    rw [messageWeight_of_isFinal final]
    exact messageWeight_pos opened
  | defy kind lower =>
    have lower : d.letter.message.bare.sender < (team member).id := wired.id_eq member ▸ lower
    exact .inl (wired.weight_defy flies handled _ _ kind lower)
  | claim kind => exact .inl (wired.weight_claim flies handled _ _ kind)
  | list kind => exact .inl (wired.weight_list handled _ _ kind)
  | update kind => exact .inl (weight_update _ _ kind)
  | spread kind new knows =>
    exfalso
    rcases met_or_unmet handled other settled with met | unmet
    · have unknown : (campaign.nodes member).state.directory.contains
          d.letter.message.bare.sender = false := by simpa using new
      exact absurd (Directory.HasMet.contains met) (Bool.eq_false_iff.1 unknown)
    · exact absurd knows (Bool.eq_false_iff.1 unmet)
  | @rejoin primary entries record names backup lost follows found =>
    have kind : d.letter.message.bare.kind = .replicaList := by
      rw [names]
      rfl
    have records := wired.records_handle flies member
    rw [handled] at records
    have reaches : Reaches team record.id record.address := records.of_find? found
    rw [Directory.id_of_find? found] at reaches
    have knows : (member, primary) ∈ campaign.lore.1 :=
      settled.known primary (Option.isSome_iff_exists.2 ⟨record, found⟩)
    have light := listWeight_le_four knows
    rw [messageWeight_of_replicaList kind]
    rcases met_or_unmet handled other settled with known | unmet
    · rw [show listWeight campaign.lore member d.letter.message.bare.sender = 4 from if_pos known]
      by_cases met : (member, primary) ∈ campaign.lore.2
      · -- the request to join weighs more than the list, but the node is at ease from now on
        obtain ⟨before, after⟩ := Node.eased_of_lost handled backup lost follows met
        exact .inr ⟨before, after, wired.weight_rejoin handled _ reaches (by omega)⟩
      · have two : listWeight campaign.lore member primary = 2 := by
          unfold listWeight
          rw [if_neg met, if_pos knows]
        exact .inl (wired.weight_rejoin handled _ reaches (by omega))
    · rw [listWeight_of_unknown (Node.unknown_of_unmet unmet)]
      exact .inl (wired.weight_rejoin handled _ reaches (by omega))

omit flies other settled in
/-- A message that makes a node contend weighs more than the call. -/
theorem weight_election (elects : effects.elects = true) :
    callWeight team (member, .opening) <
      messageWeight team campaign.lore member d.source d.letter.message.bare := by
  obtain ⟨lower, kind⟩ := Node.lower_of_elects handled elects
  rw [wired.id_eq member] at lower
  have heavy : messageWeight team campaign.lore member d.source d.letter.message.bare =
      4 * depth (team member).id + 3 := by
    rcases kind with kind | kind
    · rw [messageWeight_of_startElection kind, if_pos lower]
    · rw [messageWeight_of_victory kind, if_neg (UInt32.not_lt.2 (UInt32.le_of_lt lower))]
  rw [heavy]
  exact Nat.lt_succ_self _

omit wired flies in
/-- Only the list of an unknown node makes a settled node uneasy. -/
theorem unease_costs (uneasy : next.IsUneasy campaign.now) :
    (campaign.nodes member).IsUneasy campaign.now ∨
      6 < messageWeight team campaign.lore member d.source d.letter.message.bare := by
  have known := settled.known
  have comes := @Node.uneasy_handle (campaign.nodes member) campaign.now d.letter.message.bare
    d.source other
  rw [handled] at comes
  refine (comes known uneasy).imp_right fun ⟨kind, unknown⟩ => ?_
  rw [messageWeight_of_replicaList kind, listWeight_of_unknown unknown]
  omega

end Settled

end Delivery

/-! ## What a call leads to -/

section Turn

variable {member : ι} {bid : Bid} {next : Node} {letters : List Letter} {stage : Option Bid}
  (turn : Bid.Turn (campaign.nodes member) campaign.now bid next letters stage)

include turn

omit wired in
theorem callWeight_prompt : ∀ later ∈ Bid.prompt stage,
    callWeight team (member, later) < callWeight team (member, bid) := by
  intro later mem
  obtain ⟨claims, rfl⟩ := Bid.mem_prompt.1 mem
  cases turn with
  | begun | looked => exact Nat.lt_succ_self _
  | won => exact nomatch claims
  | skipped | beaten | announced => exact nomatch claims

include wired

/-- Challenges go up, and claims go to the other nodes. -/
theorem weight_turn (lore : Lore ι) : ∀ letter ∈ letters,
    weight team lore ⟨next.address, letter⟩ < callWeight team (member, bid) := by
  intro letter mem
  have id := wired.id_eq member
  cases turn with
  | begun =>
    obtain ⟨peer, peer_mem, rfl⟩ := List.mem_map.1 mem
    obtain ⟨record, record_mem, rfl, higher⟩ := Node.record_of_mem_rivals peer_mem
    refine atListener_lt (Nat.succ_pos _) fun i listens => ?_
    have id_eq : record.id = (team i).id :=
      wired.records member record record_mem i (.inl listens.symm)
    rw [id, id_eq] at higher
    have less := depth_lt higher
    have up : (Message.startElection (campaign.nodes member).id
        (Time.stamp campaign.now)).sender < (team i).id := id.trans_lt higher
    show messageWeight team lore i _ (.startElection _ _) < 4 * depth (team member).id + 2
    rw [messageWeight_of_startElection rfl, if_pos up]
    omega
  | won =>
    obtain ⟨peer, peer_mem, rfl⟩ := List.mem_map.1 mem
    obtain ⟨record, record_mem, rfl, other⟩ := Node.record_of_mem_others peer_mem
    refine atListener_lt (Nat.succ_pos _) fun i listens => ?_
    have id_eq : record.id = (team i).id :=
      wired.records member record record_mem i (.inl listens.symm)
    rw [id, id_eq] at other
    show messageWeight team lore i _ (.victory _ _ _ _) < 4 * depth (team member).id + 1
    rw [messageWeight_of_victory rfl]
    split
    · have positive := depth_pos (team member).id
      omega
    · rename_i notLower
      have notLower : ¬(team i).id < (team member).id := id ▸ notLower
      have less := depth_lt (UInt32.lt_of_le_of_ne (UInt32.not_lt.1 notLower) other.symm)
      omega
  | skipped | looked | beaten | announced => exact nomatch mem

end Turn

end Wired

end Campaign

end SumCluster

end
