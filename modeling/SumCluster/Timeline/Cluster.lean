import SumCluster.Timeline.Call
import SumCluster.Carrier.Network

/-!
# Clusters in memory

Started nodes on one network in memory, found by their identifiers. When a node is started under the
identifier of another one, it takes its place in the roster; the other one goes on unseen.
-/

namespace SumCluster

/-- Started nodes on one network. -/
structure Cluster where
  timeline : Timeline Network
  /-- The number of the latest member for each identifier, in ascending order. -/
  roster : List (NodeId × Nat) := []

namespace Cluster

/-- No nodes at all. -/
def empty (moment : Moment) : Cluster where
  timeline := { carrier := {}, moment }

/-- Puts a member into the roster. -/
def enlist (id : NodeId) (member : Nat) : List (NodeId × Nat) → List (NodeId × Nat)
  | [] => [(id, member)]
  | (other, found) :: rest =>
    if id < other then (id, member) :: (other, found) :: rest
    else if other < id then (other, found) :: enlist id member rest
    else (id, member) :: rest

/-- The number of the member with an identifier. -/
def member? (cluster : Cluster) (id : NodeId) : Option Nat :=
  cluster.roster.lookup id

/-- The members in the roster, in ascending order of their identifiers. -/
def members (cluster : Cluster) : List Member :=
  cluster.roster.filterMap fun (_, member) => cluster.timeline.members[member]?

/-- Changes the network. -/
def withNetwork (cluster : Cluster) (network : Network) : Cluster :=
  { cluster with timeline := { cluster.timeline with carrier := network } }

/-- Starts a node on an endpoint of its own. If the node cannot be made, the endpoint stays bound,
but nobody listens at it. -/
def boot (cluster : Cluster) (config : Config) : Except ClusterError Unit × Cluster :=
  let timeline := cluster.timeline
  match timeline.carrier.bind config.bindAddress with
  | .error error => (.error error, cluster)
  | .ok (endpoint, network) =>
    match Node.create config config.bindAddress timeline.now with
    | .error error => (.error error, cluster.withNetwork (network.abandon endpoint))
    | .ok node =>
      let member := timeline.members.length
      let timeline := ({ timeline with carrier := network }).addMember node endpoint
      match timeline.start member with
      | .error error => (.error error, cluster)
      | .ok timeline => (.ok (), ⟨timeline, enlist config.id member cluster.roster⟩)

end Cluster

end SumCluster
