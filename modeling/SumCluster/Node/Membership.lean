import SumCluster.Node.Basic

/-!
# Membership

How a node answers those who want to join, and how it learns of the others from the lists that
travel through the cluster.
-/

namespace SumCluster.Node

/-- How long after an answered request to join further ones count as copies of it: half the time
after which a joining node asks again, rounded up to whole milliseconds. -/
def joinWindow (config : Config) : Nat :=
  (config.joinTimeout + 1) / 2

/-- The node after it noted that a request of another one to join is answered now, unless that is a
copy of an earlier one. -/
def admit? (node : Node) (now : Int) (sender : NodeId) : Option Node :=
  (node.state.directory.recordJoin? sender now (joinWindow node.config)).map fun directory =>
    { node with state.directory := directory }

/-- Marks the node's own record as heard of just now. -/
def refreshSelf (node : Node) (now : Int) : Node :=
  match node.state.directory.markAlive? node.id now with
  | some directory => { node with state.directory := directory }
  | none => node

/-- Handles a request to join. A backup answers with its list, which names the primary. The primary
adds the state, and tells the other live nodes if the sender is new. -/
def hearJoinRequest (node : Node) (now : Int) (sender : NodeId) (isNew : Bool) :
    Node × Effects :=
  match node.addressOf? sender, node.admit? now sender with
  | some address, some node =>
    let node := node.refreshSelf now
    let list := node.replicaList now
    if node.state.isPrimary then
      let others := (node.state.directory.alivePeers node.id).filter (·.id ≠ sender)
      ({ node with stats.joinsHandled := node.stats.joinsHandled + 1 },
        { sends := [⟨address, list⟩, ⟨address, node.stateUpdate now⟩] ++
            if isNew then list.toEach others else [] })
    else (node, .send address list)
  | _, _ => (node, .none)

/-- Takes over the entries of another node's list. -/
def mergeEntries (node : Node) (entries : List PeerEntry) (now : Int) : Node :=
  { node with state.directory := (node.state.directory.merge node.id entries now).1 }

/-- The node that has taken over the primary named in a list, if it is another one and convincing.
A node that leads gives way to a higher one that says so itself. One that follows takes the
primary's own word, and anybody's if its primary is not alive. -/
def learnPrimary? (node : Node) (now : Int) (sender primary : NodeId) : Option Node :=
  if primary = node.id ∨ node.state.primary = some primary then none
  else if node.state.isPrimary then
    if node.id < primary ∧ sender = primary then some (node.follow primary) else none
  else if sender ≠ primary ∧ node.hasLivePrimary now then none
  else some (node.recognise primary)

/-- Asks a primary to join that somebody else has named. -/
def rejoin (node : Node) (now : Int) (sender primary : NodeId) : Effects :=
  if sender = primary then .none
  else
    match node.addressOf? primary with
    | some address => .send address (node.joinRequest now)
    | none => .none

/-- Handles the list of another node. -/
def hearReplicaList (node : Node) (now : Int) (sender : NodeId) (primary : Option NodeId)
    (entries : List PeerEntry) : Node × Effects :=
  let node := node.mergeEntries entries now
  match primary with
  | none => (node, .none)
  | some primary =>
    match node.learnPrimary? now sender primary with
    | none => (node, .none)
    | some node => (node, node.rejoin now sender primary)

end SumCluster.Node
