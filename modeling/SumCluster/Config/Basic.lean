import SumCluster.State
import SumCluster.Retry

/-!
# Configuration of a node

The identity of a node, the peers it starts with and the timing of its work, and the rules that a
configuration has to meet.
-/

namespace SumCluster

/-- Configuration of a node. Durations are in milliseconds. -/
structure Config where
  /-- Identifier, and rank in elections. -/
  id : NodeId
  /-- Where the node listens for other nodes. -/
  bindAddress : Address
  /-- Role at boot. -/
  role : Role
  /-- Primary that a backup follows at boot. -/
  primary : Option NodeId
  /-- Nodes known at boot, the primary among them. -/
  peers : List Peer
  /-- Time between two heartbeats of a primary. -/
  heartbeatInterval : Nat
  /-- Time between two checks of the primary by a backup. -/
  checkInterval : Nat
  /-- Silence after which a node counts as dead. -/
  primaryTimeout : Nat
  /-- Silence after which a node is no longer challenged in an election. -/
  replicaTimeout : Nat
  /-- How long a contender waits for an answer. -/
  electionTimeout : Nat
  /-- Half of the time for which a write waits for acknowledgements. -/
  requestTimeout : Nat
  /-- How long a joining node waits for the state before it asks again. -/
  joinTimeout : Nat
  /-- Time between two looks at what is waited for. -/
  pollInterval : Nat
  /-- Longest wait for one datagram. -/
  receiveTimeout : Nat
  /-- Longest random wait before an election. -/
  electionJitter : Nat
  /-- Capacity of the directory. -/
  maxReplicas : Nat
  /-- How often a joining node asks. -/
  joinAttempts : Nat
  /-- Repetition of messages. -/
  retry : RetryPolicy
  deriving Repr, Inhabited

namespace Config

/-- A backup without a primary, on the loopback interface. -/
def standard : Config where
  id := 2000
  bindAddress := .v4 ⟨127, 0, 0, 1⟩ 2002
  role := .backup
  primary := none
  peers := []
  heartbeatInterval := 1000
  checkInterval := 1000
  primaryTimeout := 5000
  replicaTimeout := 3000
  electionTimeout := 5000
  requestTimeout := 500
  joinTimeout := 5000
  pollInterval := 10
  receiveTimeout := 100
  electionJitter := 200
  maxReplicas := 10
  joinAttempts := 3
  retry := .standard

/-- The node that leads a new cluster. -/
def ofPrimary (id : NodeId) (bindAddress : Address) : Config :=
  { standard with id, bindAddress, role := .primary, primary := some id }

/-- A node that joins a primary. -/
def ofBackup (id : NodeId) (bindAddress : Address) (primary : Peer) : Config :=
  { standard with id, bindAddress, role := .backup, primary := some primary.id, peers := [primary] }

/-- Adds a peer, unless there is one with the same identifier. -/
def withPeer (config : Config) (peer : Peer) : Config :=
  if config.peers.any (·.id == peer.id) then config
  else { config with peers := config.peers ++ [peer] }

/-- Sets how often heartbeats come, and how long a primary may be silent. -/
def withHeartbeat (config : Config) (interval timeout : Nat) : Config :=
  { config with heartbeatInterval := interval, primaryTimeout := timeout }

/-- Sets how long a contender waits. -/
def withElectionTimeout (config : Config) (timeout : Nat) : Config :=
  { config with electionTimeout := timeout }

/-- Sets the capacity of the directory. -/
def withMaxReplicas (config : Config) (maxReplicas : Nat) : Config :=
  { config with maxReplicas }

/-- Sets the repetition of messages. -/
def withRetry (config : Config) (retry : RetryPolicy) : Config :=
  { config with retry }

/-- Short times, for clusters within one process. -/
def fast (config : Config) : Config :=
  { config with
    heartbeatInterval := 50
    checkInterval := 50
    primaryTimeout := 300
    replicaTimeout := 300
    electionTimeout := 250
    requestTimeout := 100
    joinTimeout := 300
    pollInterval := 5
    receiveTimeout := 20
    electionJitter := 40
    retry := ⟨3, 2, 0.0⟩ }

/-- How long a write waits for acknowledgements. -/
def ackTimeout (config : Config) : Nat :=
  2 * config.requestTimeout

/-- The longest time from the loss of a primary to the end of the election that follows. -/
def electionDeadline (config : Config) : Nat :=
  config.primaryTimeout + config.checkInterval + config.electionJitter + config.electionTimeout

/-- How often a heartbeat also goes to the nodes marked dead: every so many beats, about once per
`primaryTimeout`. -/
def sweepPeriod (config : Config) : Nat :=
  max (config.primaryTimeout / max config.heartbeatInterval 1) 1

/-- The durations that may not be zero, with the names they have in settings. -/
def intervals (config : Config) : List (String × Nat) :=
  [("heartbeat_interval", config.heartbeatInterval), ("check_interval", config.checkInterval),
    ("election_timeout", config.electionTimeout), ("request_timeout", config.requestTimeout),
    ("recv_timeout", config.receiveTimeout), ("ack_poll_interval", config.pollInterval)]

/-- What is wrong with a configuration. -/
inductive Defect
  /-- A backup follows itself. -/
  | ownPrimary
  /-- The primary of a backup is not among its peers. -/
  | unlistedPrimary (primary : NodeId)
  /-- A primary follows another node. -/
  | foreignPrimary
  /-- The node is among its own peers. -/
  | ownPeer
  /-- The directory has no room at all. -/
  | noReplicas
  /-- The directory has no room for the node beside its peers. -/
  | tooManyPeers (peers maxReplicas : Nat)
  /-- A duration is zero. -/
  | zeroInterval (name : String)
  /-- A single late heartbeat would count as the death of the primary. -/
  | hastyTimeout
  deriving DecidableEq, Repr

/-- The wording of a defect. -/
def Defect.message : Defect → String
  | ownPrimary => "Backup cannot name itself as primary_id"
  | unlistedPrimary primary => s!"primary_id {primary.toNat} has no entry in peers"
  | foreignPrimary => "Primary must have primary_id equal to node_id"
  | ownPeer => "peers must not contain this node"
  | noReplicas => "max_replicas must be at least 1"
  | tooManyPeers peers maxReplicas =>
    s!"{peers} peers do not fit into max_replicas {maxReplicas}"
  | zeroInterval name => s!"{name} must be greater than zero"
  | hastyTimeout => "primary_timeout must exceed heartbeat_interval"

/-- What is wrong with the role and the primary. -/
def roleDefect? (config : Config) : Option Defect :=
  match config.role, config.primary with
  | .backup, none => none
  | .backup, some primary =>
    if primary = config.id then some .ownPrimary
    else if config.peers.any (·.id == primary) then none
    else some (.unlistedPrimary primary)
  | .primary, none => none
  | .primary, some primary => if primary = config.id then none else some .foreignPrimary

/-- The first defect of a configuration, in a fixed order of the rules. -/
def defect? (config : Config) : Option Defect :=
  config.roleDefect?.or <|
    if config.peers.any (·.id == config.id) then some .ownPeer
    else if config.maxReplicas = 0 then some .noReplicas
    else if config.maxReplicas ≤ config.peers.length then
      some (.tooManyPeers config.peers.length config.maxReplicas)
    else
      match config.intervals.find? (·.2 == 0) with
      | some (name, _) => some (.zeroInterval name)
      | none =>
        if config.primaryTimeout ≤ config.heartbeatInterval then some .hastyTimeout else none

/-- Whether a configuration meets all rules. -/
def IsValid (config : Config) : Prop :=
  config.defect? = none

instance (config : Config) : Decidable config.IsValid :=
  inferInstanceAs (Decidable (config.defect? = none))

end Config

end SumCluster
