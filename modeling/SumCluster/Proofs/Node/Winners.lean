import SumCluster.Proofs.Node.Integrity
import SumCluster.Proofs.Node.Delivery
import SumCluster.Proofs.Node.Room

/-!
# Rival winners

Elections that run at the same time can have several winners, and a node hears the claims of all of
them.  It compares each with itself, never with the one it has just followed: after any claims of
higher nodes it follows the last one, be that the highest or not (`Node.trails_of_claims`).  What
settles the matter is the next heartbeat of the highest (`Node.Trails.yields_of_outranking`).
-/

namespace SumCluster

namespace Node

/-- A claim of a node above a given one, from among some nodes. -/
structure Claims (id : NodeId) (ids : List NodeId) (delivery : Delivery) : Prop where
  claim : delivery.message.kind = .victory
  higher : id < delivery.message.sender
  mem : delivery.message.sender ∈ ids

variable {node : Node} {ids : List NodeId}

/-- To hear a claim changes the directory by the meeting only. -/
theorem directory_handle_victory {now : Int} {sender : NodeId} {sum : Int64} {seqn : Seqn}
    {timestamp : UInt64} {source : Address} {next : Node} {effects : Effects}
    (other : sender ≠ node.id)
    (handled : node.handle now (.victory sender sum seqn timestamp) source = (next, effects)) :
    next.state.directory = (node.meet now sender source).state.directory := by
  have heard := directory_hearVictory (node.meet now sender source) now sender sum seqn
  simp only [handle, Message.sender, other, if_false, hear] at handled
  rwa [handled] at heard

/-- After the claim of a higher node that fits into its directory, a node follows that one, and
keeps the room that it has for others. -/
theorem trails_of_claim {delivery : Delivery} (room : node.state.directory.HasRoom ids)
    (claims : Claims node.id ids delivery) {next : Node} {effects : Effects}
    (handled : node.handle delivery.instant delivery.message delivery.source = (next, effects)) :
    next.Trails delivery.message.sender ∧ next.id = node.id ∧ next.state.directory.HasRoom ids := by
  obtain ⟨now, message, source⟩ := delivery
  obtain ⟨claim, higher, mem⟩ := claims
  cases message with
  | victory sender sum seqn timestamp =>
    have address := @addressOf?_meet_of_hasRoom node ids now sender source room mem
    have other : sender ≠ node.id := (UInt32.ne_of_lt higher).symm
    obtain ⟨yields, -, -⟩ := handle_victory_of_met higher address handled
    have met := directory_handle_victory other handled
    have id : next.id = node.id := id_of_handled handled
    refine ⟨⟨yields.follows, yields.primary, id ▸ other, ?_⟩, id, ?_⟩
    · rw [met]
      exact contains_of_addressOf? address
    · rw [met]
      exact hasRoom_meet room mem
  | heartbeat | joinRequest | stateUpdate | stateAck | replicaList | startElection
  | electionResponse | victoryAck => exact nomatch claim

/-- A node that hears claims of higher nodes, one after the other, follows the last one. -/
theorem trails_of_claims {deliveries : List Delivery} (room : node.state.directory.HasRoom ids)
    (claims : ∀ delivery ∈ deliveries, Claims node.id ids delivery) (nonempty : deliveries ≠ []) :
    (node.receive deliveries).Trails (deliveries.getLast nonempty).message.sender ∧
      (node.receive deliveries).id = node.id ∧
      (node.receive deliveries).state.directory.HasRoom ids := by
  induction deliveries generalizing node with
  | nil => exact absurd rfl nonempty
  | cons delivery rest ih =>
    obtain ⟨trails, id, room'⟩ :=
      trails_of_claim room (claims delivery (List.mem_cons_self ..)) (Prod.eta _).symm
    cases rest with
    | nil => exact ⟨trails, id, room'⟩
    | cons following rest =>
      obtain ⟨trails', id', room''⟩ := ih room'
        (fun other mem => id ▸ claims other (List.mem_cons_of_mem _ mem)) (List.cons_ne_nil _ _)
      exact ⟨trails', id'.trans id, room''⟩

/-- A backup changes over to a node that outranks its primary as soon as it hears a heartbeat of
it. -/
theorem Trails.yields_of_outranking {leader : NodeId} {later : Delivery}
    (trails : node.Trails leader) (beats : later.message.kind = .heartbeat)
    (outranks : leader < later.message.sender) (other : later.message.sender ≠ node.id)
    (knows : node.state.directory.contains later.message.sender = true) :
    node.Yields (node.receive [later]) later.message.sender := by
  obtain ⟨now, message, source⟩ := later
  cases message with
  | heartbeat sender sum seqn timestamp =>
    show node.Yields (node.handle now (.heartbeat sender sum seqn timestamp) source).1 sender
    generalize handled : node.handle now (.heartbeat sender sum seqn timestamp) source = result
    obtain ⟨next, effects⟩ := result
    cases handle_heartbeat other knows handled with
    | defies leads => exact absurd leads (Bool.eq_false_iff.1 trails.backup)
    | ignores _ follows higher =>
      obtain rfl := Option.some.inj (trails.primary.symm.trans follows)
      exact absurd higher (UInt32.not_lt.2 (UInt32.le_of_lt outranks))
    | yields _ yields => exact yields
  | joinRequest | stateUpdate | stateAck | replicaList | startElection | electionResponse | victory
  | victoryAck => exact nomatch beats

/-- A node below two winners follows the higher one if it hears that one's claim last.  If it hears
the lower one's claim last, it follows the lower one, until it hears a heartbeat of the higher
one. -/
theorem rivals_settle {lower higher : NodeId} (below : node.id < lower) (ranks : lower < higher)
    (room : node.state.directory.HasRoom [lower, higher]) {claim rival : Delivery}
    (claims : claim.message.kind = .victory) (claims' : rival.message.kind = .victory)
    (author : claim.message.sender = lower) (author' : rival.message.sender = higher) :
    ((node.receive [claim, rival]).state.role = .backup ∧
      (node.receive [claim, rival]).state.primary = some higher) ∧
    ((node.receive [rival, claim]).state.role = .backup ∧
      (node.receive [rival, claim]).state.primary = some lower) ∧
    ∀ later : Delivery, later.message.kind = .heartbeat → later.message.sender = higher →
      (node.receive [rival, claim, later]).state.role = .backup ∧
        (node.receive [rival, claim, later]).state.primary = some higher := by
  have above : node.id < higher := UInt32.lt_trans below ranks
  have one : Claims node.id [lower, higher] claim :=
    ⟨claims, author ▸ below, author ▸ List.mem_cons_self ..⟩
  have two : Claims node.id [lower, higher] rival :=
    ⟨claims', author' ▸ above, author' ▸ List.mem_cons_of_mem _ (List.mem_cons_self ..)⟩
  have upward := (trails_of_claims room
    (List.forall_mem_cons.2 ⟨one, List.forall_mem_singleton.2 two⟩) (List.cons_ne_nil _ _)).1
  obtain ⟨downward, id, -⟩ := trails_of_claims room
    (List.forall_mem_cons.2 ⟨two, List.forall_mem_singleton.2 one⟩) (List.cons_ne_nil _ _)
  obtain ⟨first, id', -⟩ := trails_of_claim room two (Prod.eta _).symm
  refine ⟨⟨role_of_not_isPrimary upward.backup, upward.primary.trans (congrArg some author')⟩,
    ⟨role_of_not_isPrimary downward.backup, downward.primary.trans (congrArg some author)⟩,
    fun later beats author'' => ?_⟩
  -- the node has met the higher one when that claimed the lead
  have knows : (node.receive [rival, claim]).state.directory.contains higher = true :=
    (changes_handle _ claim.instant claim.message claim.source).extends higher
      (author' ▸ first.known)
  have yields := downward.yields_of_outranking beats
    (author''.symm ▸ author.symm ▸ ranks) (author''.symm ▸ id.symm ▸ (UInt32.ne_of_lt above).symm)
    (author''.symm ▸ knows)
  exact ⟨role_of_not_isPrimary yields.follows, yields.primary.trans (congrArg some author'')⟩

/-- A backup that hears the claims of two winners in either order. -/
theorem rivals_settle_backup :
    ∃ (first : Node) (claim rival later : Delivery),
      create followerConfig followerConfig.bindAddress 0 = .ok first ∧
      first.id < 3 ∧ first.state.directory.HasRoom [3, 4] ∧
      claim.message.sender = 3 ∧ rival.message.sender = 4 ∧
      (first.receive [claim, rival]).state.primary = some 4 ∧
      (first.receive [rival, claim]).state.primary = some 3 ∧
      (first.receive [rival, claim, later]).state.primary = some 4 := by
  let first := ((create followerConfig followerConfig.bindAddress 0).toOption).getD default
  have created : create followerConfig followerConfig.bindAddress 0 = .ok first := rfl
  let claim : Delivery := ⟨1, .victory 3 5 1 0, .v4 ⟨10, 0, 0, 3⟩ 1⟩
  let rival : Delivery := ⟨1, .victory 4 9 2 0, .v4 ⟨10, 0, 0, 4⟩ 1⟩
  let later : Delivery := ⟨2, .heartbeat 4 9 2 0, .v4 ⟨10, 0, 0, 4⟩ 1⟩
  have room : first.state.directory.HasRoom [3, 4] := by decide
  obtain ⟨upward, downward, heals⟩ :=
    @rivals_settle first 3 4 (by decide) (by decide) room claim rival rfl rfl rfl rfl
  exact ⟨first, claim, rival, later, created, by decide, room, rfl, rfl, upward.2, downward.2,
    (heals later rfl rfl).2⟩

/-- The lower one of two winners is followed by a backup that hears its claim last. -/
theorem lower_winner_followed :
    ∃ first : Node, create followerConfig followerConfig.bindAddress 0 = .ok first ∧
      first.id < 3 ∧ first.state.directory.HasRoom [3, 4] ∧
      (first.receive [⟨1, .victory 4 9 2 0, .v4 ⟨10, 0, 0, 4⟩ 1⟩,
        ⟨1, .victory 3 5 1 0, .v4 ⟨10, 0, 0, 3⟩ 1⟩]).state.primary ≠ some 4 := by
  let first := ((create followerConfig followerConfig.bindAddress 0).toOption).getD default
  have created : create followerConfig followerConfig.bindAddress 0 = .ok first := rfl
  exact ⟨first, created, by decide, by decide, by decide⟩

end Node

end SumCluster
