import SumCluster.Node.Basic

/-!
# Writes

The primary applies a write, sends the state after it to the live backups and waits for their
acknowledgements. A write that is not acknowledged in time is reported, and stays applied.
-/

namespace SumCluster

/-- A write that was applied: the state after it, and what to send to whom. -/
structure AppliedWrite where
  sum : Int64
  seqn : Seqn
  letters : List Letter
  deriving DecidableEq, Repr, Inhabited

/-- What becomes of a write at once. -/
inductive WriteStart
  /-- Nothing was changed. -/
  | refused (error : ClusterError)
  /-- The number has been used; nothing is left to do. -/
  | repeated
  | applied (node : Node) (write : AppliedWrite)
  deriving Inhabited

namespace Node

/-- The number of the next write, if there is one. -/
def nextSeqn? (node : Node) : Option Seqn :=
  if node.state.seqn.toNat + 1 < UInt64.size then some (node.state.seqn + 1) else none

/-- Applies a write under a number. -/
def applyWrite (node : Node) (now : Int) (delta : Int64) (seqn : Seqn) : Node × AppliedWrite :=
  let node :=
    { node with
      state := node.state.apply delta seqn
      stats.updatesReplicated := node.stats.updatesReplicated + 1 }
  (node,
    { sum := node.state.sum
      seqn
      letters := (node.stateUpdate now).toEach (node.state.directory.alivePeers node.id) })

/-- Starts a write under a given number, or the next one if none is given. -/
def startWrite (node : Node) (now : Int) (delta : Int64) (seqn : Option Seqn) : WriteStart :=
  if !node.state.isPrimary then .refused (.notPrimary node.state.primary)
  else
    match seqn with
    | some seqn =>
      if seqn ≤ node.state.seqn then .repeated
      else
        let (node, write) := node.applyWrite now delta seqn
        .applied node write
    | none =>
      match node.nextSeqn? with
      | none => .refused .seqnExhausted
      | some seqn =>
        let (node, write) := node.applyWrite now delta seqn
        .applied node write

/-- The live backups that have not acknowledged a number. -/
def missingAcks (node : Node) (seqn : Seqn) : List NodeId :=
  node.state.directory.missingAcks node.id seqn

/-- Looks whether a write is acknowledged. The answer is `none` while it is worth waiting. -/
def pollAcks (node : Node) (now : Int) (seqn : Seqn) (deadline : Int) :
    Node × Option (Except ClusterError Unit) :=
  let missing := node.missingAcks seqn
  if missing.isEmpty then (node, some (.ok ()))
  else if deadline ≤ now then
    ({ node with stats.incompleteReplications := node.stats.incompleteReplications + 1 },
      some (.error (.replicationIncomplete seqn missing)))
  else (node, none)

/-- What a client is told when its request is done. Once the numbers are used up it is told
nothing. -/
def respond (node : Node) (request : ClientRequest)
    (result : Except ClusterError (Int64 × Seqn)) : Except ClusterError ClientResponse :=
  let requestId := request.requestId
  match result with
  | .ok (sum, seqn) => .ok ⟨requestId, sum, seqn, .ok, none⟩
  | .error .seqnExhausted => .error .seqnExhausted
  | .error (.replicationIncomplete seqn _) =>
    .ok ⟨requestId, node.state.sum, seqn, .replicationIncomplete, none⟩
  | .error error =>
    let status := error.requestStatus
    .ok ⟨requestId, node.state.sum, node.state.seqn, status,
      if status = .notPrimary then node.primaryAddress? else none⟩

end Node

end SumCluster
