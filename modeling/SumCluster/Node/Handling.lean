import SumCluster.Node.Following
import SumCluster.Node.Membership
import SumCluster.Node.Contest

/-!
# Handling of messages

Every message is a sign of life of its sender, whatever it says. What a node hears of itself is
ignored.
-/

namespace SumCluster.Node

/-- Notes that a message of another node came from an address. If the directory has no room for the
sender, the message still counts. -/
def meet (node : Node) (now : Int) (sender : NodeId) (source : Address) : Node :=
  let directory :=
    match node.state.directory.register sender source now with
    | .ok directory => directory
    | .error _ => node.state.directory
  { node with
    state.directory := directory
    stats.messagesReceived := node.stats.messagesReceived + 1 }

/-- Acts on a message; `isNew` says whether its sender was unknown before. -/
def hear (node : Node) (now : Int) (isNew : Bool) : Message → Node × Effects
  | .heartbeat sender sum seqn _ => node.hearHeartbeat now sender sum seqn
  | .joinRequest sender _ => node.hearJoinRequest now sender isNew
  | .stateUpdate sender sum seqn _ => node.hearUpdate sender sum seqn
  | .stateAck sender seqn => (node.hearAck sender seqn, .none)
  | .replicaList sender primary replicas => node.hearReplicaList now sender primary replicas
  | .startElection sender _ => (node, node.hearChallenge now sender)
  | .electionResponse sender _ => (node.hearResponse sender, .none)
  | .victory sender sum seqn _ => node.hearVictory now sender sum seqn
  | .victoryAck sender sum seqn => (node.hearVictoryAck sender sum seqn, .none)

/-- Handles a message that came from an address. -/
def handle (node : Node) (now : Int) (message : Message) (source : Address) : Node × Effects :=
  if message.sender = node.id then (node, .none)
  else
    let isNew := !node.state.directory.contains message.sender
    (node.meet now message.sender source).hear now isNew message

/-- Counts a datagram that could not be read. -/
def countUnreadable (node : Node) : Node :=
  { node with stats.decodeErrors := node.stats.decodeErrors + 1 }

end SumCluster.Node
