import SumCluster.Node.Basic

/-!
# Elections

The live node with the highest identifier is to lead. A contender challenges the higher nodes that
seem alive, and takes the lead if none of them answers in time. Whoever hears a lower node claim the
lead pushes back.
-/

namespace SumCluster.Node

/-! ## Running an election -/

/-- Begins an election, unless one is running or the node leads, and tells the higher nodes to
challenge. -/
def openElection? (node : Node) (now : Int) : Option (Node × List Peer) :=
  (node.state.beginElection? now).map fun state =>
    ({ node with state, stats.electionsStarted := node.stats.electionsStarted + 1 },
      state.directory.freshHigher node.id now node.config.replicaTimeout)

/-- How an election ended for a node that runs none any more. -/
def verdict (node : Node) : ElectionOutcome :=
  if node.state.isPrimary then .won else .lost

/-- Takes the lead, if the election is still running, and tells whom to send the claim. -/
def claimVictory? (node : Node) (now : Int) : Option (Node × List Letter) :=
  if node.state.election.isElecting then
    let node :=
      { node with
        state := node.state.becomePrimary
        stats.electionsWon := node.stats.electionsWon + 1 }
    some (node, (node.victory now).toEach (node.state.directory.knownPeers node.id))
  else none

/-- What a contender finds when it looks whether it has been answered. -/
inductive ElectionPoll
  /-- The election is over. -/
  | over (outcome : ElectionOutcome)
  /-- Nobody answered in time. -/
  | unanswered
  /-- Look again at this instant. -/
  | again (next : Int)
  deriving DecidableEq, Repr

/-- Looks whether an election that began at `started` goes on. The last look is at the very end. -/
def pollElection (node : Node) (started now : Int) : ElectionPoll :=
  let deadline := Time.after started node.config.electionTimeout
  if !node.state.election.isElecting then .over node.verdict
  else if deadline ≤ now then .unanswered
  else .again (min (Time.after now node.config.pollInterval) deadline)

/-! ## Messages of an election -/

/-- Answers a challenge. A node that neither leads nor outranks the sender stays silent. -/
def hearChallenge (node : Node) (now : Int) (sender : NodeId) : Effects :=
  if node.id ≤ sender ∧ ¬node.state.isPrimary then .none
  else
    match node.addressOf? sender with
    | none => .none
    | some address =>
      let reply := Effects.reply address (node.electionResponse now)
      if node.state.isPrimary then { reply with sends := [⟨address, node.victory now⟩] }
      else { reply with elects := true }

/-- Handles the answer to a challenge: a higher node is there, so the contender gives up. -/
def hearResponse (node : Node) (sender : NodeId) : Node :=
  if node.id < sender then node.standDown else node

/-- Handles a claim of the lead. A higher node is followed, and its state taken over unless the own
one is newer. A lower one is corrected, by a node that leads with its own claim, by another one with
an election. -/
def hearVictory (node : Node) (now : Int) (sender : NodeId) (sum : Int64) (seqn : Seqn) :
    Node × Effects :=
  match node.addressOf? sender with
  | none => (node, .none)
  | some address =>
    if sender < node.id then
      (node, if node.state.isPrimary then .send address (node.victory now) else .elect)
    else
      let node := node.follow sender
      let node := { node with state := node.state.adopt sum seqn }
      (node, .send address node.victoryAck)

/-- Handles the answer to a claim of the lead. A primary takes over a newer state. The number counts
as acknowledged, but none that the node has not reached. -/
def hearVictoryAck (node : Node) (sender : NodeId) (sum : Int64) (seqn : Seqn) : Node :=
  let node :=
    if node.state.isPrimary ∧ node.state.seqn < seqn then
      { node with state := node.state.adopt sum seqn }
    else node
  if seqn ≤ node.state.seqn then node.recordAck sender seqn else node

end SumCluster.Node
