import SumCluster.Config.Basic

/-!
# Nodes

A node is its configuration, the address it listens at, its state and its statistics. Whatever
happens to it yields the node as it is afterwards and the effects that this asks for; carrying them
out is left to its surroundings.
-/

namespace SumCluster

/-- Counts of what happened to a node. -/
structure Stats where
  /-- Messages of other nodes that were handled. -/
  messagesReceived : Nat := 0
  /-- Datagrams that could not be read. -/
  decodeErrors : Nat := 0
  /-- Heartbeats sent, one for each recipient. -/
  heartbeatsSent : Nat := 0
  /-- Writes applied while leading. -/
  updatesReplicated : Nat := 0
  /-- Writes that were not acknowledged by all live backups in time. -/
  incompleteReplications : Nat := 0
  /-- Updates with a number below the node's own. -/
  staleUpdatesIgnored : Nat := 0
  /-- Updates from a node that is not followed. -/
  rejectedUpdates : Nat := 0
  /-- Requests to join that were answered while leading. -/
  joinsHandled : Nat := 0
  electionsStarted : Nat := 0
  electionsWon : Nat := 0
  /-- How often the node gave up the lead. -/
  stepDowns : Nat := 0
  deriving DecidableEq, Repr, Inhabited

/-- The counts with their names. -/
def Stats.toFields (stats : Stats) : List (String × Nat) :=
  [("messages_received", stats.messagesReceived), ("decode_errors", stats.decodeErrors),
    ("heartbeats_sent", stats.heartbeatsSent), ("updates_replicated", stats.updatesReplicated),
    ("incomplete_replications", stats.incompleteReplications),
    ("stale_updates_ignored", stats.staleUpdatesIgnored),
    ("rejected_updates", stats.rejectedUpdates), ("joins_handled", stats.joinsHandled),
    ("elections_started", stats.electionsStarted), ("elections_won", stats.electionsWon),
    ("step_downs", stats.stepDowns)]

/-- A message and where it goes. -/
structure Letter where
  destination : Address
  message : Message
  deriving DecidableEq, Repr, Inhabited

/-- What a node asks for when it has handled a message. -/
structure Effects where
  /-- To be sent as bursts. -/
  sends : List Letter := []
  /-- Answers to messages that come in bursts themselves; to be sent once. -/
  replies : List Letter := []
  /-- Whether to run an election. -/
  elects : Bool := false
  deriving DecidableEq, Repr, Inhabited

namespace Effects

/-- Asks for nothing. -/
def none : Effects := {}

/-- Asks for one burst. -/
def send (destination : Address) (message : Message) : Effects :=
  { sends := [⟨destination, message⟩] }

/-- Asks for one answer. -/
def reply (destination : Address) (message : Message) : Effects :=
  { replies := [⟨destination, message⟩] }

/-- Asks for an election. -/
def elect : Effects :=
  { elects := true }

end Effects

/-- One message to each of several nodes. -/
def Message.toEach (message : Message) (peers : List Peer) : List Letter :=
  peers.map fun peer => ⟨peer.address, message⟩

/-- A member of the cluster. -/
structure Node where
  config : Config
  /-- Where the node listens. -/
  address : Address
  state : State
  stats : Stats
  deriving Inhabited

namespace Node

/-- A node that listens at an address. Its directory starts with itself and the configured peers. -/
def create (config : Config) (address : Address) (now : Int) : Except ClusterError Node :=
  match config.defect? with
  | some defect => .error (.config defect.message)
  | none => do
    let state := State.boot config.id config.role config.primary config.maxReplicas
    let directory ← (⟨config.id, address⟩ :: config.peers).foldlM
      (fun directory (peer : Peer) => directory.register peer.id peer.address now) state.directory
    return ⟨config, address, { state with directory }, {}⟩

/-- The identifier of the node. -/
def id (node : Node) : NodeId :=
  node.state.selfId

/-- Where another node listens, as far as the node knows. -/
def addressOf? (node : Node) (id : NodeId) : Option Address :=
  node.state.directory.addressOf? id

/-- Where the believed primary listens. -/
def primaryAddress? (node : Node) : Option Address :=
  node.state.primary.bind node.addressOf?

/-- Whether the believed primary is known, alive and not silent for too long. -/
def hasLivePrimary (node : Node) (now : Int) : Bool :=
  node.state.directory.isPrimaryAlive node.state.primary now node.config.primaryTimeout

/-! ## What a node says -/

/-- It leads and lives. -/
def heartbeat (node : Node) (now : Int) : Message :=
  .heartbeat node.id node.state.sum node.state.seqn (Time.stamp now)

/-- It asks to join. -/
def joinRequest (node : Node) (now : Int) : Message :=
  .joinRequest node.id (Time.stamp now)

/-- Its state, as the primary's. -/
def stateUpdate (node : Node) (now : Int) : Message :=
  .stateUpdate node.id node.state.sum node.state.seqn (Time.stamp now)

/-- It holds the state with a number. -/
def stateAck (node : Node) (seqn : Seqn) : Message :=
  .stateAck node.id seqn

/-- The nodes it knows, and whom it follows. -/
def replicaList (node : Node) (now : Int) : Message :=
  .replicaList node.id node.state.primary (node.state.directory.entries now)

/-- It challenges higher nodes. -/
def challenge (node : Node) (now : Int) : Message :=
  .startElection node.id (Time.stamp now)

/-- It is there, in answer to a challenge. -/
def electionResponse (node : Node) (now : Int) : Message :=
  .electionResponse node.id (Time.stamp now)

/-- It leads from now on. -/
def victory (node : Node) (now : Int) : Message :=
  .victory node.id node.state.sum node.state.seqn (Time.stamp now)

/-- Its state, in answer to a primary. -/
def victoryAck (node : Node) : Message :=
  .victoryAck node.id node.state.sum node.state.seqn

/-! ## Small changes -/

/-- Takes another node for the primary; the role stays. -/
def recognise (node : Node) (primary : NodeId) : Node :=
  { node with state.primary := some primary }

/-- Follows a primary, and counts that if the node led before. -/
def follow (node : Node) (primary : NodeId) : Node :=
  { node with
    state := node.state.follow primary
    stats.stepDowns := node.stats.stepDowns + if node.state.isPrimary then 1 else 0 }

/-- Ends a running election. -/
def standDown (node : Node) : Node :=
  { node with state.election := .idle }

/-- Notes the number that another node acknowledged. -/
def recordAck (node : Node) (id : NodeId) (seqn : Seqn) : Node :=
  { node with state.directory := node.state.directory.recordAck id seqn }

/-- Marks a node dead. -/
def markDead? (node : Node) (id : NodeId) : Option Node :=
  (node.state.directory.markDead? id).map fun directory =>
    { node with state.directory := directory }

end Node

end SumCluster
