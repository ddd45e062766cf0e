import SumCluster.Proofs.Node.Bid
import SumCluster.Proofs.World.Basic

/-!
# Campaigns

A cluster at a fixed instant, in which datagrams arrive and calls for elections go on, in any order
(`Campaign.Step`).  Of each letter that a node sends, one or more copies get on their way; each copy
arrives once, or stays on its way.  A message that asks for an election brings a call into being.
A call that would have to wait for answers is left alone: it does not come to its deadline.
-/

namespace SumCluster

/-- What never changes of a node. -/
structure Seat where
  id : NodeId
  address : Address
  config : Config

/-- What never changes of the node. -/
def Node.seat (node : Node) : Seat :=
  ⟨node.id, node.address, node.config⟩

theorem Node.seat_handle (node : Node) (now : Int) (message : Message) (source : Address) :
    (node.handle now message source).1.seat = node.seat :=
  congrArg (fun standing => Seat.mk standing.1 standing.2.1 standing.2.2.1)
    (changes_handle node now message source).standing_eq

theorem Bid.Turn.seat_eq {node next : Node} {now : Int} {bid : Bid} {letters : List Letter}
    {stage : Option Bid} (turn : Turn node now bid next letters stage) : next.seat = node.seat := by
  cases turn <;> rfl

/-- The stage of a call that goes on at once; one that waits for answers does not. -/
def Bid.prompt : Option Bid → List Bid
  | some claiming => [claiming]
  | _ => []

theorem Bid.mem_prompt {stage : Option Bid} {bid : Bid} :
    bid ∈ prompt stage ↔ stage = some claiming ∧ bid = claiming := by
  unfold prompt
  split
  · simp
  · rename_i waits
    simp only [List.not_mem_nil, false_iff]
    exact fun same => waits same.1

/-- Copies of each of several letters from an address, and nothing else. -/
def Copies (source : Address) (letters : List Letter) (sent : List Datagram) : Prop :=
  ∀ datagram, datagram ∈ sent ↔ ∃ letter ∈ letters, datagram = ⟨source, letter⟩

theorem copies_map (source : Address) (letters : List Letter) :
    Copies source letters (letters.map (Datagram.mk source)) := by
  intro datagram
  rw [List.mem_map]
  exact exists_congr fun letter => and_congr_right fun _ => eq_comm

/-- A cluster at an instant. -/
structure Campaign (ι : Type) where
  now : Int
  nodes : ι → Node
  /-- The copies of letters that have not arrived. -/
  inFlight : List Datagram
  /-- The calls for elections that can go on at once. -/
  calls : List (ι × Bid)

namespace Campaign

variable {ι : Type}

/-- Nothing is on its way, and no call goes on. -/
def IsQuiet (campaign : Campaign ι) : Prop :=
  campaign.inFlight = [] ∧ campaign.calls = []

/-- What a member sends to another one, on its way. -/
def datagram (team : ι → Seat) (s r : ι) (message : Message) : Datagram :=
  ⟨(team s).address, ⟨(team r).address, message⟩⟩

theorem datagram_inj {team : ι → Seat} (distinct : Function.Injective fun i => (team i).address)
    {s r s' r' : ι} {message message' : Message}
    (same : datagram team s r message = datagram team s' r' message') :
    s = s' ∧ r = r' ∧ message = message' := by
  obtain ⟨source, letter⟩ := Datagram.mk.inj same
  obtain ⟨destination, message⟩ := Letter.mk.inj letter
  exact ⟨distinct source, distinct destination, message⟩

variable [DecidableEq ι]

/-- The cluster after a member has changed. -/
def put (campaign : Campaign ι) (member : ι) (node : Node) (inFlight : List Datagram)
    (calls : List (ι × Bid)) : Campaign ι where
  now := campaign.now
  nodes := Function.update campaign.nodes member node
  inFlight := inFlight
  calls := calls

/-- The cluster after a member has handled a datagram, and sent some copies. -/
def received (campaign : Campaign ι) (member : ι) (datagram : Datagram) (node : Node)
    (effects : Effects) (sent : List Datagram) : Campaign ι :=
  campaign.put member node (campaign.inFlight.erase datagram ++ sent)
    (campaign.calls ++ if effects.elects then [(member, .opening)] else [])

/-- The cluster after a call has gone on, and some copies have been sent. -/
def advanced (campaign : Campaign ι) (member : ι) (bid : Bid) (node : Node) (stage : Option Bid)
    (sent : List Datagram) : Campaign ι :=
  campaign.put member node (campaign.inFlight ++ sent)
    (campaign.calls.erase (member, bid) ++ (Bid.prompt stage).map (member, ·))

/-- One thing that happens. -/
inductive Step (campaign : Campaign ι) : Campaign ι → Prop
  /-- A copy arrives. -/
  | deliver {member : ι} {datagram : Datagram} {sent : List Datagram} {next : Node}
    {effects : Effects} (flies : datagram ∈ campaign.inFlight)
    (reaches : datagram.letter.destination = (campaign.nodes member).address)
    (handled : (campaign.nodes member).handle campaign.now datagram.letter.message.bare
      datagram.source = (next, effects))
    (copies : Copies next.address effects.letters sent) :
    Step campaign (campaign.received member datagram next effects sent)
  /-- A call goes on. -/
  | advance {member : ι} {bid : Bid} {sent : List Datagram} {next : Node}
    {letters : List Letter} {stage : Option Bid} (called : (member, bid) ∈ campaign.calls)
    (advances : bid.advance (campaign.nodes member) campaign.now = (next, letters, stage))
    (copies : Copies next.address letters sent) :
    Step campaign (campaign.advanced member bid next stage sent)

/-- Several things that happen one after the other. -/
def Run : Campaign ι → Campaign ι → Prop :=
  Relation.ReflTransGen Step

theorem Run.refl (campaign : Campaign ι) : campaign.Run campaign :=
  Relation.ReflTransGen.refl

/-- A datagram arrives at a member, and one copy of each letter gets on its way. -/
def tell (campaign : Campaign ι) (member : ι) (datagram : Datagram) : Campaign ι :=
  let (next, effects) :=
    (campaign.nodes member).handle campaign.now datagram.letter.message.bare datagram.source
  campaign.received member datagram next effects (effects.letters.map (Datagram.mk next.address))

/-- A call goes on, and one copy of each letter gets on its way. -/
def goOn (campaign : Campaign ι) (member : ι) (bid : Bid) : Campaign ι :=
  let (next, letters, stage) := bid.advance (campaign.nodes member) campaign.now
  campaign.advanced member bid next stage (letters.map (Datagram.mk next.address))

theorem Run.tell {first campaign : Campaign ι} (run : first.Run campaign) {member : ι}
    {datagram : Datagram} (flies : datagram ∈ campaign.inFlight)
    (reaches : datagram.letter.destination = (campaign.nodes member).address) :
    first.Run (campaign.tell member datagram) :=
  Relation.ReflTransGen.tail run (.deliver flies reaches rfl (copies_map _ _))

theorem Run.goOn {first campaign : Campaign ι} (run : first.Run campaign) {member : ι}
    {bid : Bid} (called : (member, bid) ∈ campaign.calls) :
    first.Run (campaign.goOn member bid) :=
  Relation.ReflTransGen.tail run (.advance called rfl (copies_map _ _))

section Put

variable (campaign : Campaign ι) {member : ι} {node : Node} {inFlight : List Datagram}
  {calls : List (ι × Bid)}

@[simp] theorem nodes_put_self : (campaign.put member node inFlight calls).nodes member = node :=
  Function.update_self ..

theorem nodes_put_of_ne {i : ι} (ne : i ≠ member) :
    (campaign.put member node inFlight calls).nodes i = campaign.nodes i :=
  Function.update_of_ne ne ..

/-- What holds of the other nodes as before and of the new one holds of all. -/
theorem forall_put {P : ι → Node → Prop} (old : ∀ i, P i (campaign.nodes i))
    (new : P member node) (i : ι) : P i ((campaign.put member node inFlight calls).nodes i) := by
  by_cases acting : i = member
  · subst acting
    rwa [nodes_put_self]
  · rw [nodes_put_of_ne campaign acting]
    exact old i

end Put

end Campaign

end SumCluster
