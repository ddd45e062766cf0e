import SumCluster.Config.Settings
import SumCluster.Server.PeerText
import SumCluster.Toml.Document

/-!
# Configuration of a server

A server is a node with an endpoint for clients. Its configuration is built in layers: the empty
one, a TOML document, the environment, and flags; each layer replaces what it names. The endpoints
and the configuration of the node are then derived from it.
-/

namespace SumCluster

/-- Configuration of a server. -/
structure ServerConfig where
  /-- Where the server listens for clients. -/
  clientAddress : Option Address
  id : Option NodeId
  /-- Where the node listens for other nodes. -/
  bindAddress : Option Address
  /-- Primary to join; without one the node leads. -/
  primary : Option Peer
  /-- Further nodes known at boot. -/
  peers : List Peer
  /-- Timing and capacity. -/
  replication : Option Config
  deriving Repr, Inhabited

/-- What flags may give. -/
structure Overrides where
  id : Option NodeId
  bindAddress : Option Address
  clientAddress : Option Address
  primary : Option Peer
  peers : List Peer
  deriving Repr, Inhabited

namespace ServerConfig

/-- The configuration that names nothing. -/
def empty : ServerConfig :=
  ⟨none, none, none, none, [], none⟩

/-! ## Layers -/

/-- Reads the configuration from the table of a document. -/
def ofSetting? (setting : Setting) : Option ServerConfig := do
  let fields ← setting.record? .toml ["client_addr", "node"]
  let clientAddress ← Setting.fieldD fields "client_addr" (Setting.optional? Setting.address?) none
  let node ← Setting.fieldD fields "node"
    (Setting.record? .toml ["id", "bind_addr", "primary", "peers", "replication"]) []
  let id ← Setting.fieldD node "id" (Setting.optional? Setting.word32?) none
  let bindAddress ← Setting.fieldD node "bind_addr" (Setting.optional? Setting.address?) none
  let primary ← Setting.fieldD node "primary" (Setting.optional? (Peer.ofSetting? .toml)) none
  let peers ← Setting.fieldD node "peers" (Setting.list? (Peer.ofSetting? .toml)) []
  let replication ←
    Setting.fieldD node "replication" (Setting.optional? (Config.ofSetting? .toml)) none
  return ⟨clientAddress, id.map UInt32.ofNat, bindAddress, primary, peers, replication⟩

/-- Reads the configuration from the text of a document. -/
def ofDocument? (text : String) : Option ServerConfig :=
  (Toml.parse? text).bind ofSetting?

/-- Reads a variable of the environment, if it is set, and puts it into the configuration. -/
def withVariable {α : Type} (lookup : String → Option String) (name : String)
    (read : String → List Char → Except TextFault α) (put : ServerConfig → α → ServerConfig)
    (config : ServerConfig) : Except TextFault ServerConfig :=
  match lookup name with
  | none => .ok config
  | some text => (read name text.toList).map (put config)

/-- Takes over what the environment says. The first variable that cannot be read is reported. -/
def withEnvironment (config : ServerConfig) (lookup : String → Option String) :
    Except TextFault ServerConfig := do
  let config ← withVariable lookup "REPLISUM_NODE_ID" NodeId.parse
    (fun config id => { config with id := some id }) config
  let config ← withVariable lookup "REPLISUM_BIND" Address.parse
    (fun config address => { config with bindAddress := some address }) config
  let config ← withVariable lookup "REPLISUM_CLIENT_BIND" Address.parse
    (fun config address => { config with clientAddress := some address }) config
  let config ← withVariable lookup "REPLISUM_PRIMARY" (fun _ => Peer.parse)
    (fun config peer => { config with primary := some peer }) config
  withVariable lookup "REPLISUM_PEERS" (fun _ => Peer.parseList)
    (fun config peers => { config with peers }) config

/-- Takes over what flags say. -/
def withOverrides (config : ServerConfig) (overrides : Overrides) : ServerConfig where
  clientAddress := overrides.clientAddress.or config.clientAddress
  id := overrides.id.or config.id
  bindAddress := overrides.bindAddress.or config.bindAddress
  primary := overrides.primary.or config.primary
  peers := if overrides.peers.isEmpty then config.peers else overrides.peers
  replication := config.replication

/-! ## Endpoints -/

/-- How far the replication port of a server lies above its client port. -/
def portOffset : Nat := 2

/-- Why a server cannot start with a configuration. -/
inductive Fault
  /-- The client port leaves no room for a replication port. -/
  | noReplicationPort (client : UInt16)
  /-- The replication port leaves no room for a client port. -/
  | noClientPort (replication : UInt16)
  /-- One address is to serve as both endpoints. -/
  | sameEndpoints (address : Address)
  /-- Nothing says which node this is. -/
  | noNodeId
  /-- The node cannot run with its part of the configuration. -/
  | replication (defect : Config.Defect)
  deriving DecidableEq, Repr

/-- The wording of a fault. -/
def Fault.message : Fault → String
  | noReplicationPort port => s!"No replication port above client port {port.toNat}"
  | noClientPort port => s!"No client port below replication port {port.toNat}"
  | sameEndpoints address => "Client and replication endpoints are both " ++ toString address
  | noNodeId => "Node id is required (--id, REPLISUM_NODE_ID or node.id)"
  | .replication defect => "Invalid replication config: " ++ defect.message

/-- Where a server listens. -/
structure Endpoints where
  client : Address
  replication : Address
  deriving DecidableEq, Repr

/-- The endpoints that are given, with a missing one derived from the other. -/
def pairEndpoints (client bind : Option Address) : Except Fault Endpoints :=
  match client, bind with
  | some client, some bind => .ok ⟨client, bind⟩
  | some client, none =>
    if client.port.toNat + portOffset < 65536 then
      .ok ⟨client, client.atPort (UInt16.ofNat (client.port.toNat + portOffset))⟩
    else .error (.noReplicationPort client.port)
  | none, some bind =>
    if portOffset ≤ bind.port.toNat then
      .ok ⟨bind.atPort (UInt16.ofNat (bind.port.toNat - portOffset)), bind⟩
    else .error (.noClientPort bind.port)
  | none, none =>
    let bind := Config.standard.bindAddress
    .ok ⟨bind.atPort (UInt16.ofNat (bind.port.toNat - portOffset)), bind⟩

/-- The endpoints of a server. They have to differ, unless the system picks the port. -/
def endpoints (config : ServerConfig) : Except Fault Endpoints := do
  let endpoints ← pairEndpoints config.clientAddress config.bindAddress
  if endpoints.client = endpoints.replication ∧ endpoints.client.port ≠ 0 then
    throw (.sameEndpoints endpoints.client)
  return endpoints

/-! ## The node -/

/-- The primary that another node leads with, if one is named. -/
def foreignPrimary? (config : ServerConfig) (id : NodeId) : Option Peer :=
  config.primary.filter (·.id != id)

/-- The configuration of the node before it is checked. Identity, role, primary and peers are the
server's; the replication table gives only timing and capacity. -/
def nodeConfig (config : ServerConfig) (id : NodeId) (bindAddress : Address) : Config :=
  let base := config.replication.getD .standard
  let base :=
    match config.foreignPrimary? id with
    | some primary =>
      { base with
        id, bindAddress, role := .backup, primary := some primary.id, peers := [primary] }
    | none => { base with id, bindAddress, role := .primary, primary := some id, peers := [] }
  (config.peers.filter (·.id != id)).foldl Config.withPeer base

/-- The configuration of the node. The endpoints are looked at first, then the identifier. -/
def toConfig (config : ServerConfig) : Except Fault Config := do
  let endpoints ← config.endpoints
  match config.id with
  | none => throw .noNodeId
  | some id =>
    let node := config.nodeConfig id endpoints.replication
    match node.defect? with
    | some defect => throw (.replication defect)
    | none => return node

end ServerConfig

end SumCluster
