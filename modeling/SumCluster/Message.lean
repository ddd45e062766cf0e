import SumCluster.Address.Basic

/-!
# Messages

What the members of a cluster tell each other. Every message names its sender; an identifier is
also the rank of its node in an election.
-/

namespace SumCluster

/-- Identifies a node of the cluster; the highest live one is meant to lead. -/
abbrev NodeId : Type := UInt32

/-- Number of the last write that a state contains. -/
abbrev Seqn : Type := UInt64

/-- One line of the table of nodes as it travels in a message. -/
structure PeerEntry where
  id : NodeId
  address : Address
  isAlive : Bool
  /-- Milliseconds since the sender last heard of the peer. -/
  age : UInt64
  deriving DecidableEq, Repr, Inhabited

/-- A message between two nodes. -/
inductive Message
  /-- The primary lives and holds this state. -/
  | heartbeat (sender : NodeId) (sum : Int64) (seqn : Seqn) (timestamp : UInt64)
  /-- A node asks to be told the cluster and its state. -/
  | joinRequest (sender : NodeId) (timestamp : UInt64)
  /-- The primary passes on its state. -/
  | stateUpdate (sender : NodeId) (sum : Int64) (seqn : Seqn) (timestamp : UInt64)
  /-- A backup holds the state with this number. -/
  | stateAck (sender : NodeId) (seqn : Seqn)
  /-- The table of nodes as the sender knows it. -/
  | replicaList (sender : NodeId) (primary : Option NodeId) (replicas : List PeerEntry)
  /-- A contender challenges a node that outranks it. -/
  | startElection (sender : NodeId) (timestamp : UInt64)
  /-- A node that outranks the contender is there. -/
  | electionResponse (sender : NodeId) (timestamp : UInt64)
  /-- The sender leads from now on, with this state. -/
  | victory (sender : NodeId) (sum : Int64) (seqn : Seqn) (timestamp : UInt64)
  /-- Answer to a claim of leadership, with the state of the sender. -/
  | victoryAck (sender : NodeId) (sum : Int64) (seqn : Seqn)
  deriving DecidableEq, Repr, Inhabited

/-- The nine kinds of messages. -/
inductive MessageKind
  | heartbeat
  | joinRequest
  | stateUpdate
  | stateAck
  | replicaList
  | startElection
  | electionResponse
  | victory
  | victoryAck
  deriving DecidableEq, Repr, Inhabited

namespace MessageKind

/-- All kinds, in the order that numbers them inside a payload. -/
def all : List MessageKind :=
  [heartbeat, joinRequest, stateUpdate, stateAck, replicaList, startElection, electionResponse,
    victory, victoryAck]

/-- The byte that opens a frame of this kind. Election traffic starts at sixteen. -/
def code : MessageKind → UInt8
  | heartbeat => 0x01
  | joinRequest => 0x02
  | stateUpdate => 0x03
  | stateAck => 0x04
  | replicaList => 0x05
  | startElection => 0x10
  | electionResponse => 0x11
  | victory => 0x12
  | victoryAck => 0x13

/-- The kind with a given byte. -/
def ofCode? (byte : UInt8) : Option MessageKind :=
  all.find? (·.code == byte)

/-- The name of a kind. -/
def name : MessageKind → String
  | heartbeat => "Heartbeat"
  | joinRequest => "JoinRequest"
  | stateUpdate => "StateUpdate"
  | stateAck => "StateAck"
  | replicaList => "ReplicaListUpdate"
  | startElection => "StartElection"
  | electionResponse => "ElectionResponse"
  | victory => "Victory"
  | victoryAck => "VictoryAck"

@[simp] theorem ofCode?_code (kind : MessageKind) : ofCode? kind.code = some kind := by
  cases kind <;> decide

end MessageKind

namespace Message

/-- The kind of a message. -/
def kind : Message → MessageKind
  | heartbeat .. => .heartbeat
  | joinRequest .. => .joinRequest
  | stateUpdate .. => .stateUpdate
  | stateAck .. => .stateAck
  | replicaList .. => .replicaList
  | startElection .. => .startElection
  | electionResponse .. => .electionResponse
  | victory .. => .victory
  | victoryAck .. => .victoryAck

/-- The node that sent a message. -/
def sender : Message → NodeId
  | heartbeat sender .. => sender
  | joinRequest sender .. => sender
  | stateUpdate sender .. => sender
  | stateAck sender .. => sender
  | replicaList sender .. => sender
  | startElection sender .. => sender
  | electionResponse sender .. => sender
  | victory sender .. => sender
  | victoryAck sender .. => sender

/-- The part of a message that arrives: scopes and flow labels of listed addresses are lost. -/
def bare : Message → Message
  | replicaList sender primary replicas =>
    replicaList sender primary
      (replicas.map fun entry => { entry with address := entry.address.bare })
  | message => message

end Message

end SumCluster
