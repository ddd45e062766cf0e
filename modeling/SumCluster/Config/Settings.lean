import SumCluster.Address.Printer
import SumCluster.Config.Basic
import SumCluster.Settings.Value

/-!
# Configurations as settings

A configuration is written as a table with one entry for each of its fields, and read back from such
a table. What the table does not name keeps its standard value; what it names and no configuration
has is ignored.
-/

namespace SumCluster

namespace Peer

/-- Reads a peer; both fields have to be there. -/
def ofSetting? (format : SettingFormat) (setting : Setting) : Option Peer := do
  let fields ← setting.record? format ["id", "addr"]
  let id ← Setting.field? fields "id" Setting.word32?
  let address ← Setting.field? fields "addr" Setting.address?
  return ⟨UInt32.ofNat id, address⟩

/-- A peer as a setting. -/
def toSetting (peer : Peer) : Setting :=
  .table [("id", .integer peer.id.toNat), ("addr", .text (toString peer.address))]

end Peer

namespace RetryPolicy

/-- Reads a policy; all fields have to be there. -/
def ofSetting? (format : SettingFormat) (setting : Setting) : Option RetryPolicy := do
  let fields ← setting.record? format ["attempts", "delay", "jitter_factor"]
  let attempts ← Setting.field? fields "attempts" Setting.word32?
  let delay ← Setting.field? fields "delay" Setting.word64?
  let jitterFactor ← Setting.field? fields "jitter_factor" Setting.real?
  return ⟨attempts, delay, jitterFactor⟩

/-- A real number as a setting; one that is not finite is not there. -/
def jitterSetting (x : Float) : Setting :=
  if x.isFinite then .real x else .null

/-- A policy as a setting. -/
def toSetting (policy : RetryPolicy) : Setting :=
  .table [("attempts", .integer policy.attempts), ("delay", .integer policy.delay),
    ("jitter_factor", jitterSetting policy.jitterFactor)]

end RetryPolicy

namespace Role

/-- The name of a role in settings. -/
def name : Role → String
  | primary => "primary"
  | backup => "backup"

/-- Reads a role. -/
def ofSetting? (format : SettingFormat) : Setting → Option Role :=
  Setting.choice? format [(primary.name, primary), (backup.name, backup)]

end Role

namespace Config

/-- The names of the fields, in the order in which a list of values gives them. -/
def fieldNames : List String :=
  ["node_id", "bind_addr", "role", "primary_id", "peers", "heartbeat_interval", "check_interval",
    "primary_timeout", "replica_timeout", "election_timeout", "request_timeout", "join_timeout",
    "ack_poll_interval", "recv_timeout", "election_jitter", "max_replicas", "join_attempts",
    "retry"]

/-- Reads a configuration; what is missing has its standard value. -/
def ofSetting? (format : SettingFormat) (setting : Setting) : Option Config := do
  let fields ← setting.record? format fieldNames
  let word32 (name : String) (default : Nat) :=
    Setting.fieldD fields name Setting.word32? default
  let word64 (name : String) (default : Nat) :=
    Setting.fieldD fields name Setting.word64? default
  let id ← word32 "node_id" standard.id.toNat
  let bindAddress ← Setting.fieldD fields "bind_addr" Setting.address? standard.bindAddress
  let role ← Setting.fieldD fields "role" (Role.ofSetting? format) standard.role
  let primary ← Setting.fieldD fields "primary_id" (Setting.optional? Setting.word32?)
    (standard.primary.map UInt32.toNat)
  let peers ← Setting.fieldD fields "peers" (Setting.list? (Peer.ofSetting? format)) standard.peers
  let heartbeatInterval ← word64 "heartbeat_interval" standard.heartbeatInterval
  let checkInterval ← word64 "check_interval" standard.checkInterval
  let primaryTimeout ← word64 "primary_timeout" standard.primaryTimeout
  let replicaTimeout ← word64 "replica_timeout" standard.replicaTimeout
  let electionTimeout ← word64 "election_timeout" standard.electionTimeout
  let requestTimeout ← word64 "request_timeout" standard.requestTimeout
  let joinTimeout ← word64 "join_timeout" standard.joinTimeout
  let pollInterval ← word64 "ack_poll_interval" standard.pollInterval
  let receiveTimeout ← word64 "recv_timeout" standard.receiveTimeout
  let electionJitter ← word64 "election_jitter" standard.electionJitter
  let maxReplicas ← word64 "max_replicas" standard.maxReplicas
  let joinAttempts ← word32 "join_attempts" standard.joinAttempts
  let retry ← Setting.fieldD fields "retry" (RetryPolicy.ofSetting? format) standard.retry
  return {
    id := UInt32.ofNat id
    bindAddress, role
    primary := primary.map UInt32.ofNat
    peers, heartbeatInterval, checkInterval, primaryTimeout, replicaTimeout, electionTimeout
    requestTimeout, joinTimeout, pollInterval, receiveTimeout, electionJitter, maxReplicas
    joinAttempts, retry }

/-- The fields of a configuration as settings. -/
def toFields (config : Config) : List (String × Setting) :=
  let nat (n : Nat) : Setting := .integer n
  let primary : Setting :=
    match config.primary with
    | none => .null
    | some id => nat id.toNat
  [("node_id", nat config.id.toNat), ("bind_addr", .text (toString config.bindAddress)),
    ("role", .text config.role.name), ("primary_id", primary),
    ("peers", .list (config.peers.map Peer.toSetting)),
    ("heartbeat_interval", nat config.heartbeatInterval),
    ("check_interval", nat config.checkInterval), ("primary_timeout", nat config.primaryTimeout),
    ("replica_timeout", nat config.replicaTimeout),
    ("election_timeout", nat config.electionTimeout),
    ("request_timeout", nat config.requestTimeout), ("join_timeout", nat config.joinTimeout),
    ("ack_poll_interval", nat config.pollInterval), ("recv_timeout", nat config.receiveTimeout),
    ("election_jitter", nat config.electionJitter), ("max_replicas", nat config.maxReplicas),
    ("join_attempts", nat config.joinAttempts), ("retry", config.retry.toSetting)]

/-- The configuration with some of its settings replaced, if the new ones fit. -/
def override? (config : Config) (changes : List (String × Setting)) : Option Config :=
  ofSetting? .json (.table (Setting.override config.toFields changes))

end Config

end SumCluster
