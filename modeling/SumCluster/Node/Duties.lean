import SumCluster.Node.Basic

/-!
# Duties

What a node does of its own accord, tick by tick: a primary shows that it lives, a backup watches
its primary, and a node without the state asks for it.
-/

namespace SumCluster.Node

/-- Marks dead whom the node has not heard of for too long. -/
def expireSilent (node : Node) (now : Int) : Node :=
  { node with
    state.directory := node.state.directory.expire node.id now node.config.primaryTimeout }

/-- Whom the heartbeat of a tick goes to. Every so often the dead ones are among them, so that two
primaries find each other again after a partition. -/
def heartbeatTargets (node : Node) (tick : Nat) : List Peer :=
  if tick % node.config.sweepPeriod = 0 then node.state.directory.knownPeers node.id
  else node.state.directory.alivePeers node.id

/-- The heartbeats of a tick, counted from one. Only a primary sends any. -/
def beat (node : Node) (now : Int) (tick : Nat) : Node × List Letter :=
  if !node.state.isPrimary then (node, [])
  else
    let node := node.expireSilent now
    let letters := (node.heartbeat now).toEach (node.heartbeatTargets tick)
    ({ node with stats.heartbeatsSent := node.stats.heartbeatsSent + letters.length }, letters)

/-- Whether a backup has lost its primary and runs no election yet. -/
def suspectsPrimary (node : Node) (now : Int) : Bool :=
  !node.state.isPrimary && !node.state.election.isElecting && !node.hasLivePrimary now

/-- Whom to ask for the state, if the node lacks it and knows where its primary listens. -/
def joinTarget? (node : Node) : Option Address :=
  if node.state.hasInitial || node.state.isPrimary then none else node.primaryAddress?

end SumCluster.Node
