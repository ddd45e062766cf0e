import SumCluster.Node.Basic

/-!
# Following a primary

How a node takes heartbeats and updates of a primary, and acknowledgements of those that follow it.
-/

namespace SumCluster.Node

/-- The node that has decided to follow the sender of a heartbeat, if it does. One that leads gives
way to higher nodes only. One that follows another node changes over if that one is not alive or is
outranked. -/
def heed? (node : Node) (now : Int) (sender : NodeId) : Option Node :=
  if node.state.isPrimary then
    if sender < node.id then none else some (node.follow sender)
  else if node.state.primary = some sender then some node
  else if node.hasLivePrimary now && !node.state.primary.all (· < sender) then none
  else some (node.recognise sender)

/-- Takes over what a heartbeat says, if it is newer. -/
def catchUp (node : Node) (sum : Int64) (seqn : Seqn) : Node :=
  if node.state.seqn < seqn then { node with state := node.state.adopt sum seqn } else node

/-- Ends an election that a higher node makes pointless. -/
def yieldTo (node : Node) (sender : NodeId) : Node :=
  if node.id < sender then node.standDown else node

/-- Answers a heartbeat: with the own state if that is newer, so that the primary can take it over,
and with an acknowledgement otherwise. -/
def acknowledge (node : Node) (destination : Address) (seqn : Seqn) : Effects :=
  if seqn < node.state.seqn then .send destination node.victoryAck
  else .reply destination (node.stateAck node.state.seqn)

/-- Handles a heartbeat. A primary asserts itself against a lower one. -/
def hearHeartbeat (node : Node) (now : Int) (sender : NodeId) (sum : Int64) (seqn : Seqn) :
    Node × Effects :=
  match node.addressOf? sender with
  | none => (node, .none)
  | some address =>
    match node.heed? now sender with
    | some node =>
      let node := (node.yieldTo sender).catchUp sum seqn
      (node, node.acknowledge address seqn)
    | none => (node, if node.state.isPrimary then .send address (node.victory now) else .none)

/-- Handles an update. One from a node that is not followed is rejected; a node that follows none
follows the sender. An older one is acknowledged too, but the own state goes with it. -/
def hearUpdate (node : Node) (sender : NodeId) (sum : Int64) (seqn : Seqn) : Node × Effects :=
  let node :=
    if node.state.primary.isNone && !node.state.isPrimary then node.recognise sender else node
  if node.state.primary ≠ some sender then
    ({ node with stats.rejectedUpdates := node.stats.rejectedUpdates + 1 }, .none)
  else
    match node.addressOf? sender with
    | none => (node, .none)
    | some address =>
      match node.state.adopt? sum seqn with
      | some state => ({ node with state }, .reply address (node.stateAck seqn))
      | none =>
        ({ node with stats.staleUpdatesIgnored := node.stats.staleUpdatesIgnored + 1 },
          { replies := [⟨address, node.victoryAck⟩, ⟨address, node.stateAck seqn⟩] })

/-- Handles an acknowledgement. One of a number that the node has not reached is ignored: it tells
of a state that the node never had. -/
def hearAck (node : Node) (sender : NodeId) (seqn : Seqn) : Node :=
  if node.state.seqn < seqn then node else node.recordAck sender seqn

end SumCluster.Node
