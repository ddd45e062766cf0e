import SumCluster.Wire.Layout

/-!
# Payloads

The payload of a message is the number of its kind in four bytes, followed by its fields in order.
-/

namespace SumCluster

/-- The position of a kind among all kinds. -/
def MessageKind.index : MessageKind → Nat
  | heartbeat => 0
  | joinRequest => 1
  | stateUpdate => 2
  | stateAck => 3
  | replicaList => 4
  | startElection => 5
  | electionResponse => 6
  | victory => 7
  | victoryAck => 8

@[simp] theorem MessageKind.getElem?_index (kind : MessageKind) :
    MessageKind.all[kind.index]? = some kind := by
  cases kind <;> rfl

namespace Wire

namespace Layout

/-- Sender and time. -/
def notice : Layout (NodeId × UInt64) :=
  word32.pair word64

/-- Sender, sum, number and time. -/
def report : Layout (NodeId × Int64 × Seqn × UInt64) :=
  word32.pair (int64.pair (word64.pair word64))

/-- Sender and number. -/
def acknowledgement : Layout (NodeId × Seqn) :=
  word32.pair word64

/-- Sender, sum and number. -/
def offer : Layout (NodeId × Int64 × Seqn) :=
  word32.pair (int64.pair word64)

/-- Sender, primary and table. -/
def table : Layout (NodeId × Option NodeId × List PeerEntry) :=
  word32.pair (word32.option.pair entry.list)

end Layout

/-- Writes the fields of a message. -/
def writeFields : Message → Bytes
  | .heartbeat sender sum seqn timestamp => Layout.report.write (sender, sum, seqn, timestamp)
  | .joinRequest sender timestamp => Layout.notice.write (sender, timestamp)
  | .stateUpdate sender sum seqn timestamp => Layout.report.write (sender, sum, seqn, timestamp)
  | .stateAck sender seqn => Layout.acknowledgement.write (sender, seqn)
  | .replicaList sender primary replicas => Layout.table.write (sender, primary, replicas)
  | .startElection sender timestamp => Layout.notice.write (sender, timestamp)
  | .electionResponse sender timestamp => Layout.notice.write (sender, timestamp)
  | .victory sender sum seqn timestamp => Layout.report.write (sender, sum, seqn, timestamp)
  | .victoryAck sender sum seqn => Layout.offer.write (sender, sum, seqn)

/-- Reads the fields of a message of a given kind. -/
def readFields : MessageKind → Reader Message
  | .heartbeat => Layout.report.read.map fun (sender, sum, seqn, timestamp) =>
      .heartbeat sender sum seqn timestamp
  | .joinRequest => Layout.notice.read.map fun (sender, timestamp) => .joinRequest sender timestamp
  | .stateUpdate => Layout.report.read.map fun (sender, sum, seqn, timestamp) =>
      .stateUpdate sender sum seqn timestamp
  | .stateAck => Layout.acknowledgement.read.map fun (sender, seqn) => .stateAck sender seqn
  | .replicaList => Layout.table.read.map fun (sender, primary, replicas) =>
      .replicaList sender primary replicas
  | .startElection => Layout.notice.read.map fun (sender, timestamp) =>
      .startElection sender timestamp
  | .electionResponse => Layout.notice.read.map fun (sender, timestamp) =>
      .electionResponse sender timestamp
  | .victory => Layout.report.read.map fun (sender, sum, seqn, timestamp) =>
      .victory sender sum seqn timestamp
  | .victoryAck => Layout.offer.read.map fun (sender, sum, seqn) => .victoryAck sender sum seqn

/-- A message as it stands inside a frame. -/
def payload : Layout Message where
  write message := writeWord 4 message.kind.index ++ writeFields message
  read bytes := do
    let (index, bytes) ← readWord 4 bytes
    match MessageKind.all[index]? with
    | none => .error (.variant index MessageKind.all.length)
    | some kind => readFields kind bytes

end Wire

end SumCluster
