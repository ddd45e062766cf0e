import SumCluster.Directory.Liveness

/-!
# The state of a node

All that a node believes of the cluster: its role, the primary it follows, the sum with the number
of the last write in it, whether it runs an election, and the directory.
-/

namespace SumCluster

/-- What a node is in the cluster. -/
inductive Role
  /-- Takes writes and puts them in order. -/
  | primary
  /-- Follows the primary and may take its place. -/
  | backup
  deriving DecidableEq, Repr, Inhabited

/-- Whether a node runs an election. -/
inductive Election
  | idle
  /-- Waiting for higher nodes to answer. -/
  | electing (since : Int)
  deriving DecidableEq, Repr, Inhabited

/-- Whether an election is running. -/
def Election.isElecting : Election → Bool
  | idle => false
  | electing _ => true

/-- When the running election began. -/
def Election.since? : Election → Option Int
  | idle => none
  | electing since => some since

/-- How a call for an election ended. -/
inductive ElectionOutcome
  /-- The node leads. -/
  | won
  /-- A higher node answered or claimed the lead. -/
  | lost
  /-- An election was running already, or the node leads. -/
  | skipped
  deriving DecidableEq, Repr, Inhabited

/-- What a node believes of the cluster. -/
structure State where
  selfId : NodeId
  role : Role
  primary : Option NodeId
  sum : Int64
  seqn : Seqn
  election : Election
  /-- Whether the sum stems from a primary; one that boots as primary is its own. -/
  hasInitial : Bool
  directory : Directory
  deriving Inhabited

namespace State

/-- The state of a node that boots. -/
def boot (selfId : NodeId) (role : Role) (primary : Option NodeId) (capacity : Nat) : State where
  selfId := selfId
  role := role
  primary :=
    match role with
    | .primary => some selfId
    | .backup => primary
  sum := 0
  seqn := 0
  election := .idle
  hasInitial := role = .primary
  directory := .empty capacity

/-- Whether the node leads. -/
def isPrimary (state : State) : Bool :=
  state.role = .primary

/-- Takes the lead; a running election ends. -/
def becomePrimary (state : State) : State :=
  { state with
    role := .primary
    primary := some state.selfId
    election := .idle
    hasInitial := true }

/-- Follows a primary; a running election ends. -/
def follow (state : State) (primary : NodeId) : State :=
  { state with role := .backup, primary := some primary, election := .idle }

/-- Begins an election, unless one is running or the node leads. -/
def beginElection? (state : State) (now : Int) : Option State :=
  if state.election.isElecting || state.isPrimary then none
  else some { state with election := .electing now }

/-- Takes over a sum, unless the node holds one with a higher number. -/
def adopt? (state : State) (sum : Int64) (seqn : Seqn) : Option State :=
  if seqn < state.seqn then none
  else some { state with sum := sum, seqn := seqn, hasInitial := true }

/-- Takes over a sum if its number is high enough, and stays as it is otherwise. -/
def adopt (state : State) (sum : Int64) (seqn : Seqn) : State :=
  (state.adopt? sum seqn).getD state

/-- Adds to the sum, which wraps around at 64 bits, under a number. -/
def apply (state : State) (delta : Int64) (seqn : Seqn) : State :=
  { state with sum := state.sum + delta, seqn := seqn }

end State

end SumCluster
