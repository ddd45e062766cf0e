import SumCluster.Proofs.Node.Bid

/-!
# Moves

A deed that is not the handling of a message leaves a node at its place with its election, or is one
of the three steps of an election: it begins, the node takes the lead, or the node gives up
(`Node.Deed.move`).  So a node gives up its lead only when it hears a higher node, as a heartbeat, as
a list or as a claim of the lead, and it falls in behind that node (`Node.Deed.superseded`).
-/

namespace SumCluster

namespace Node

/-- What a deed does to the place and the election of a node. -/
inductive Move (node : Node) (now : Int) : Cause → Node → Prop
  | hears (message : Message) (source : Address) :
    Move node now (.heard message) (node.handle now message source).1
  | stays {cause : Cause} {next : Node} (keeps : node.Keeps next)
      (election : next.state.election = node.state.election) : Move node now cause next
  | contends (backup : node.state.isPrimary = false) : Move node now .own (node.contend now)
  | leads : Move node now .own node.lead
  | rests : Move node now .own node.standDown

theorem Deed.move {node next : Node} {now : Int} {cause : Cause} {letters : List Letter}
    (deed : node.Deed now cause next letters) : node.Move now cause next := by
  cases deed with
  | hear message source => exact .hears message source
  | drop | join | discover => exact .stays ⟨rfl, rfl, rfl⟩ rfl
  | beat tick =>
    unfold Node.beat
    split <;> exact .stays ⟨rfl, rfl, rfl⟩ rfl
  | contend opens =>
    obtain ⟨-, backup, rfl⟩ := of_openElection? opens
    exact .contends backup
  | claim claims =>
    obtain ⟨-, rfl, -⟩ := of_claimVictory? claims
    exact .leads
  | giveUp => exact .rests
  | write starts =>
    obtain ⟨-, -, applied⟩ := applied_of_startWrite starts
    obtain ⟨rfl, -⟩ := Prod.mk.inj applied
    exact .stays ⟨rfl, rfl, rfl⟩ rfl
  | look seqn deadline =>
    unfold pollAcks
    simp only
    split
    · exact .stays (.refl node) rfl
    · split <;> exact .stays ⟨rfl, rfl, rfl⟩ rfl

/-! ## The end of a lead -/

section Superseded

variable {node : Node} {now : Int} {message : Message} {source : Address}

theorem keeps_of_response (kind : message.kind = .electionResponse) :
    node.Keeps (node.handle now message source).1 := by
  cases message with
  | electionResponse => exact (handle_response (Prod.eta _).symm).1
  | _ => nomatch kind

/-- A node that leads and then hears a message that ends its lead follows the sender. -/
theorem primary_of_superseded (leads : node.state.isPrimary = true)
    (follows : (node.handle now message source).1.state.isPrimary = false) :
    (node.handle now message source).1.state.primary = some message.sender := by
  unfold handle at follows ⊢
  split at follows
  · simp [leads] at follows
  · rename_i other
    simp only [other, if_false]
    cases place_hear (node.meet now message.sender source) now _ message with
    | kept keeps =>
      have led : node.state.isPrimary = false := keeps.leads.symm.trans follows
      simp [leads] at led
    | behindSender yields | behindFirst _ _ yields | behindAnnounced _ yields =>
      exact yields.primary
    | behindNamed _ _ backup =>
      have led : node.state.isPrimary = false := backup
      simp [leads] at led

end Superseded

/-- A node gives up its lead only for a higher node that it hears. -/
theorem Deed.superseded {node next : Node} {now : Int} {cause : Cause} {letters : List Letter}
    (deed : node.Deed now cause next letters) (leads : node.state.isPrimary = true)
    (follows : next.state.isPrimary = false) :
    ∃ message, cause = .heard message ∧
      (message.kind = .heartbeat ∨ message.kind = .victory ∨ message.kind = .replicaList) ∧
      node.id < message.sender ∧ next.state.primary = some message.sender := by
  cases deed.move with
  | hears message source =>
    refine ⟨message, rfl, ?_⟩
    cases stands_handle node now message source with
    | kept _ still => simp [still, leads] at follows
    | ended _ higher kind =>
      refine ⟨?_, higher, primary_of_superseded leads follows⟩
      simp only [List.mem_cons, List.not_mem_nil, or_false] at kind
      rcases kind with kind | kind | kind | kind
      · exact .inl kind
      · exact .inr (.inr kind)
      · simp [(keeps_of_response kind).leads, leads] at follows
      · exact .inr (.inl kind)
  | stays keeps => simp [keeps.leads, leads] at follows
  | contends backup => simp [leads] at backup
  | leads => exact nomatch follows
  | rests => exact absurd leads (Bool.eq_false_iff.1 follows)

end Node

end SumCluster
