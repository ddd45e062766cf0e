import SumCluster.Node.Handling
import SumCluster.Node.Writing
import SumCluster.Node.Duties

/-!
# Deeds

What a node can do in one go, that is, while nothing else happens to it (`Node.Deed`): it handles a
message, follows its duties, runs a part of an election, applies a write or looks for the
acknowledgements of one.  A deed yields the node after it and the letters that go out.  In a cluster
the deeds of its nodes take turns in any order.
-/

namespace SumCluster

/-- All letters, those that are sent as bursts first. -/
def Effects.letters (effects : Effects) : List Letter :=
  effects.sends ++ effects.replies

/-- What makes a node act. -/
inductive Cause
  /-- A message arrives. -/
  | heard (message : Message)
  /-- A duty, or the wish of a user. -/
  | own
  /-- A write, which leaves this sum under this number. -/
  | wrote (sum : Int64) (seqn : Seqn)

namespace Node

/-- What a node can do in one go at an instant: the cause, the node after it and what it sends. -/
inductive Deed (node : Node) (now : Int) : Cause → Node → List Letter → Prop
  /-- It handles a message that came from an address. -/
  | hear (message : Message) (source : Address) :
    Deed node now (.heard message) (node.handle now message source).1
      (node.handle now message source).2.letters
  /-- It drops a datagram that cannot be read. -/
  | drop : Deed node now .own node.countUnreadable []
  /-- It takes a tick of its heartbeat. -/
  | beat (tick : Nat) : Deed node now .own (node.beat now tick).1 (node.beat now tick).2
  /-- It begins an election. -/
  | contend {next : Node} {higher : List Peer}
      (opens : node.openElection? now = some (next, higher)) :
    Deed node now .own next ((next.challenge now).toEach higher)
  /-- It takes the lead. -/
  | claim {next : Node} {letters : List Letter}
      (claims : node.claimVictory? now = some (next, letters)) :
    Deed node now .own next letters
  /-- It gives up an election because its work is to end. -/
  | giveUp : Deed node now .own node.standDown []
  /-- It asks its primary for the state. -/
  | join {address : Address} (target : node.joinTarget? = some address) :
    Deed node now .own node [⟨address, node.joinRequest now⟩]
  /-- It introduces itself at an address. -/
  | discover (address : Address) : Deed node now .own node [⟨address, node.joinRequest now⟩]
  /-- It applies a write. -/
  | write {delta : Int64} {seqn : Option Seqn} {next : Node} {write : AppliedWrite}
      (starts : node.startWrite now delta seqn = .applied next write) :
    Deed node now (.wrote write.sum write.seqn) next write.letters
  /-- It looks for the acknowledgements of a write. -/
  | look (seqn : Seqn) (deadline : Int) : Deed node now .own (node.pollAcks now seqn deadline).1 []

/-! ## Elections -/

/-- An election begins at a backup that runs none. -/
theorem of_openElection? {node next : Node} {now : Int} {higher : List Peer}
    (opens : node.openElection? now = some (next, higher)) :
    node.state.election.isElecting = false ∧ node.state.isPrimary = false ∧
      next = { node with
        state := { node.state with election := .electing now }
        stats.electionsStarted := node.stats.electionsStarted + 1 } := by
  obtain ⟨state, begins, same⟩ := Option.map_eq_some_iff.1 opens
  obtain ⟨rfl, -⟩ := Prod.mk.inj same
  unfold State.beginElection? at begins
  split at begins
  · simp at begins
  · rename_i free
    obtain rfl := Option.some.inj begins
    obtain ⟨idle, backup⟩ := Bool.or_eq_false_iff.1 (Bool.eq_false_iff.2 free)
    exact ⟨idle, backup, rfl⟩

/-- The lead is taken by a node that runs an election, and claimed to all that it knows. -/
theorem of_claimVictory? {node next : Node} {now : Int} {letters : List Letter}
    (claims : node.claimVictory? now = some (next, letters)) :
    node.state.election.isElecting = true ∧
      next = { node with
        state := node.state.becomePrimary
        stats.electionsWon := node.stats.electionsWon + 1 } ∧
      letters = (next.victory now).toEach (next.state.directory.knownPeers next.id) := by
  unfold claimVictory? at claims
  split at claims
  · rename_i contends
    obtain ⟨rfl, rfl⟩ := Prod.mk.inj (Option.some.inj claims)
    exact ⟨contends, rfl, rfl⟩
  · simp at claims

/-! ## Writes -/

theorem lt_of_nextSeqn? {node : Node} {seqn : Seqn} (next : node.nextSeqn? = some seqn) :
    node.state.seqn < seqn := by
  unfold nextSeqn? at next
  split at next
  · rename_i room
    obtain rfl := Option.some.inj next
    rw [UInt64.lt_iff_toNat_lt, UInt64.toNat_add]
    change node.state.seqn.toNat < (node.state.seqn.toNat + 1) % UInt64.size
    rw [Nat.mod_eq_of_lt room]
    exact Nat.lt_succ_self _
  · simp at next

/-- A write is applied by a node that leads, under a number that it has not reached. -/
theorem applied_of_startWrite {node next : Node} {now : Int} {delta : Int64} {seqn : Option Seqn}
    {write : AppliedWrite} (starts : node.startWrite now delta seqn = .applied next write) :
    node.state.isPrimary = true ∧ node.state.seqn < write.seqn ∧
      (next, write) = node.applyWrite now delta write.seqn := by
  unfold startWrite at starts
  split at starts
  · simp at starts
  · rename_i follows
    have leads : node.state.isPrimary = true := by simpa using follows
    split at starts
    · split at starts
      · simp at starts
      · rename_i notReached
        obtain ⟨rfl, rfl⟩ := WriteStart.applied.inj starts
        exact ⟨leads, UInt64.not_le.1 notReached, rfl⟩
    · split at starts
      · simp at starts
      · rename_i number
        obtain ⟨rfl, rfl⟩ := WriteStart.applied.inj starts
        exact ⟨leads, lt_of_nextSeqn? number, rfl⟩

/-- A write is acknowledged when no acknowledgement is missing. -/
theorem missingAcks_of_pollAcks {node : Node} {now : Int} {seqn : Seqn} {deadline : Int}
    (acknowledged : (node.pollAcks now seqn deadline).2 = some (.ok ())) :
    node.missingAcks seqn = [] := by
  unfold pollAcks at acknowledged
  simp only at acknowledged
  split at acknowledged
  · rename_i none
    exact List.isEmpty_iff.1 none
  · split at acknowledged <;> simp at acknowledged

end Node

end SumCluster
