import SumCluster.Proofs.Node.Place
import SumCluster.Proofs.Node.Standing

/-!
# Bids for the lead

A call for an election touches its node in a few goes, and anything may happen to the node between
two of them (`Bid.advance`).  Only the first go begins an election, and only `claiming` takes the
lead.  Meanwhile an election, like a lead, ends only by what a higher node says: its heartbeat, its
list, its answer or its claim (`Node.stands_handle`).
-/

namespace SumCluster

/-- How far a call for an election has come. -/
inductive Bid
  /-- Nothing has been done. -/
  | opening
  /-- Higher nodes are challenged, in an election that began at an instant. -/
  | contending (started : Int)
  /-- Nobody is higher, or nobody has answered in time. -/
  | claiming
  /-- The claim of the lead goes out. -/
  | announcing
  deriving DecidableEq, Repr

namespace Bid

/-- One go of a call: the node after it, what goes out, and how far the call has come then, unless
it returns. -/
def advance (node : Node) (now : Int) : Bid → Node × List Letter × Option Bid
  | opening =>
    match node.openElection? now with
    | none => (node, [], none)
    | some (next, []) => (next, [], some claiming)
    | some (next, higher) => (next, (next.challenge now).toEach higher, some (contending now))
  | contending started =>
    match node.pollElection started now with
    | .over _ => (node, [], none)
    | .unanswered => (node, [], some claiming)
    | .again _ => (node, [], some (contending started))
  | claiming =>
    match node.claimVictory? now with
    | none => (node, [], none)
    | some (next, letters) => (next, letters, some announcing)
  | announcing => (node, [], none)

/-- Whether the call has begun an election. -/
def hasBegun : Bid → Bool
  | opening => false
  | _ => true

end Bid

namespace Node

/-- The node after an election has begun. -/
def contend (node : Node) (now : Int) : Node :=
  { node with
    state := { node.state with election := .electing now }
    stats.electionsStarted := node.stats.electionsStarted + 1 }

/-- Whom the node challenges. -/
def rivals (node : Node) (now : Int) : List Peer :=
  node.state.directory.freshHigher node.id now node.config.replicaTimeout

/-- The node after it has taken the lead. -/
def lead (node : Node) : Node :=
  { node with
    state := node.state.becomePrimary
    stats.electionsWon := node.stats.electionsWon + 1 }

/-- Whom the node tells that it leads. -/
def others (node : Node) : List Peer :=
  node.state.directory.knownPeers node.id

section Peers

variable {node : Node} {now : Int} {peer : Peer}

theorem record_of_mem_rivals (mem : peer ∈ node.rivals now) :
    ∃ record ∈ node.state.directory.records, record.peer = peer ∧ node.id < record.id := by
  rw [rivals, Directory.freshHigher_eq] at mem
  obtain ⟨record, record_mem, same⟩ := List.mem_map.1 mem
  obtain ⟨record_mem, higher⟩ := List.mem_filter.1 record_mem
  exact ⟨record, record_mem, same, of_decide_eq_true (Bool.and_eq_true_iff.1 higher).1⟩

theorem record_of_mem_others (mem : peer ∈ node.others) :
    ∃ record ∈ node.state.directory.records, record.peer = peer ∧ record.id ≠ node.id := by
  obtain ⟨record, record_mem, same⟩ := List.mem_map.1 mem
  obtain ⟨record_mem, other⟩ := List.mem_filter.1 record_mem
  exact ⟨record, record_mem, same, of_decide_eq_true other⟩

end Peers

end Node

namespace Bid

/-- What one go of a call comes to. -/
inductive Turn (node : Node) (now : Int) : Bid → Node → List Letter → Option Bid → Prop
  /-- An election is running, or the node leads. -/
  | skipped (busy : node.state.election.isElecting = true ∨ node.state.isPrimary = true) :
    Turn node now opening node [] none
  /-- An election begins. -/
  | begun (idle : node.state.election.isElecting = false)
      (backup : node.state.isPrimary = false) :
    Turn node now opening (node.contend now) ((node.challenge now).toEach (node.rivals now))
      (some (if node.rivals now = [] then claiming else contending now))
  /-- The call looks for answers. -/
  | looked {started : Int} {stage : Option Bid} (later : ∀ bid ∈ stage, bid.hasBegun = true) :
    Turn node now (contending started) node [] stage
  /-- The election is over. -/
  | beaten (idle : node.state.election.isElecting = false) : Turn node now claiming node [] none
  /-- The node takes the lead. -/
  | won (contends : node.state.election.isElecting = true) :
    Turn node now claiming node.lead ((node.lead.victory now).toEach node.others)
      (some announcing)
  /-- The claim has gone out. -/
  | announced : Turn node now announcing node [] none

theorem turn_advance (node : Node) (now : Int) (bid : Bid) :
    Turn node now bid (bid.advance node now).1 (bid.advance node now).2.1
      (bid.advance node now).2.2 := by
  cases bid with
  | opening =>
    by_cases busy : (node.state.election.isElecting || node.state.isPrimary) = true
    · have opens : node.openElection? now = none := by
        simp [Node.openElection?, State.beginElection?, busy]
      simp only [advance, opens]
      exact .skipped (Bool.or_eq_true_iff.1 busy)
    · have opens : node.openElection? now = some (node.contend now, node.rivals now) := by
        simp [Node.openElection?, State.beginElection?, busy, Node.contend, Node.rivals]
      obtain ⟨idle, backup⟩ := Bool.or_eq_false_iff.1 (Bool.eq_false_iff.2 busy)
      have turn := @Turn.begun node now idle backup
      cases higher : node.rivals now <;> simp only [advance, opens, higher] at turn ⊢ <;>
        exact turn
  | contending started =>
    cases polls : node.pollElection started now <;> simp only [advance, polls] <;>
      exact .looked (by simp [hasBegun])
  | claiming =>
    by_cases contends : node.state.election.isElecting = true
    · have claims : node.claimVictory? now =
          some (node.lead, (node.lead.victory now).toEach node.others) := if_pos contends
      simp only [advance, claims]
      exact .won contends
    · have claims : node.claimVictory? now = none := if_neg contends
      simp only [advance, claims]
      exact .beaten (Bool.eq_false_iff.2 contends)
  | announcing => exact .announced

/-- A go changes nothing of a node but its election, its lead and its counts. -/
theorem Turn.keeps {node next : Node} {now : Int} {bid : Bid} {letters : List Letter}
    {stage : Option Bid} (turn : Turn node now bid next letters stage) :
    next.id = node.id ∧ next.address = node.address ∧ next.config = node.config ∧
      next.state.directory = node.state.directory := by
  cases turn <;> exact ⟨rfl, rfl, rfl, rfl⟩

end Bid

namespace Node

/-! ## How an election ends -/

/-- The election and the lead of a node that hears a message: they stay, or end because of a higher
node. -/
inductive Stands (node : Node) (message : Message) (next : Node) : Prop
  | kept (election : next.state.election = node.state.election)
      (leads : next.state.isPrimary = node.state.isPrimary)
  | ended (idle : next.state.election.isElecting = false) (higher : node.id < message.sender)
      (kind : message.kind ∈ [.heartbeat, .replicaList, .electionResponse, .victory])

section Stands

variable (node : Node) (now : Int) (sender : NodeId)

theorem election_refreshSelf : (node.refreshSelf now).state.election = node.state.election := by
  unfold refreshSelf
  split <;> rfl

theorem election_hearJoinRequest (isNew : Bool) :
    (node.hearJoinRequest now sender isNew).1.state.election = node.state.election := by
  unfold hearJoinRequest
  split
  · rename_i admitted _ admits
    obtain ⟨directory, -, rfl⟩ := Option.map_eq_some_iff.1 admits
    simp only
    split <;> exact election_refreshSelf _ now
  · rfl

theorem election_hearAck (seqn : Seqn) :
    (node.hearAck sender seqn).state.election = node.state.election := by
  unfold hearAck
  split <;> rfl

theorem election_adopt (state : State) (sum : Int64) (seqn : Seqn) :
    (state.adopt sum seqn).election = state.election := by
  unfold State.adopt State.adopt?
  split <;> rfl

theorem election_catchUp (sum : Int64) (seqn : Seqn) :
    (node.catchUp sum seqn).state.election = node.state.election := by
  unfold catchUp
  split
  · exact election_adopt node.state sum seqn
  · rfl

/-- A node that heeds a sender that it outranks follows nobody else than before. -/
theorem kept_of_heed? {node heeder : Node} (heeds : node.heed? now sender = some heeder)
    (lower : sender < node.id) : heeder.state.election = node.state.election ∧
      heeder.state.isPrimary = node.state.isPrimary := by
  unfold heed? at heeds
  simp only [lower, if_true] at heeds
  split at heeds
  · simp at heeds
  · split at heeds
    · obtain rfl := Option.some.inj heeds
      exact ⟨rfl, rfl⟩
    · split at heeds
      · simp at heeds
      · obtain rfl := Option.some.inj heeds
        exact ⟨rfl, rfl⟩

theorem stands_hearHeartbeat (other : sender ≠ node.id) (sum : Int64) (seqn : Seqn)
    (timestamp : UInt64) :
    node.Stands (.heartbeat sender sum seqn timestamp)
      (node.hearHeartbeat now sender sum seqn).1 := by
  unfold hearHeartbeat
  split
  · exact .kept rfl rfl
  · split
    · rename_i heeder heeds
      have leads := (@keeps_catchUp (heeder.yieldTo sender) sum seqn).leads
      have heeded : Changes .own node heeder := changes_of_heed? heeds
      have id : heeder.id = node.id := congrArg (·.1) heeded.standing_eq
      by_cases higher : node.id < sender
      · refine .ended ?_ higher (by simp [Message.kind])
        rw [election_catchUp]
        simp [yieldTo, id, higher, standDown, Election.isElecting]
      · have lower := UInt32.lt_of_le_of_ne (UInt32.not_lt.1 higher) other
        obtain ⟨election, stays⟩ := kept_of_heed? now sender heeds lower
        refine .kept ?_ ?_
        · rw [election_catchUp]
          simpa [yieldTo, id, higher] using election
        · rw [leads, keeps_yieldTo.leads, stays]
    · exact .kept rfl rfl

theorem stands_hearUpdate (sum : Int64) (seqn : Seqn) (timestamp : UInt64) :
    node.Stands (.stateUpdate sender sum seqn timestamp) (node.hearUpdate sender sum seqn).1 := by
  unfold hearUpdate
  simp only
  generalize follower_eq : (if node.state.primary.isNone && !node.state.isPrimary then
    node.recognise sender else node) = follower
  have same : follower.state.election = node.state.election ∧
      follower.state.isPrimary = node.state.isPrimary := by
    rw [← follower_eq]
    split <;> exact ⟨rfl, rfl⟩
  split
  · exact .kept same.1 same.2
  · split
    · exact .kept same.1 same.2
    · split
      · rename_i adopts
        unfold State.adopt? at adopts
        split at adopts
        · simp at adopts
        · obtain rfl := Option.some.inj adopts
          exact .kept same.1 same.2
      · exact .kept same.1 same.2

theorem stands_hearReplicaList (primary : Option NodeId) (entries : List PeerEntry) :
    node.Stands (.replicaList sender primary entries)
      (node.hearReplicaList now sender primary entries).1 := by
  unfold hearReplicaList
  split
  · exact .kept rfl rfl
  · rename_i primary
    simp only
    split
    · exact .kept rfl rfl
    · rename_i learner learns
      unfold learnPrimary? at learns
      split at learns
      · simp at learns
      · split at learns
        · split at learns
          · rename_i outranked
            obtain rfl := Option.some.inj learns
            exact .ended rfl (outranked.2 ▸ outranked.1) (by simp [Message.kind])
          · simp at learns
        · split at learns
          · simp at learns
          · obtain rfl := Option.some.inj learns
            exact .kept rfl rfl

theorem stands_hearResponse (timestamp : UInt64) :
    node.Stands (.electionResponse sender timestamp) (node.hearResponse sender) := by
  unfold hearResponse
  split
  · rename_i higher
    exact .ended rfl higher (by simp [Message.kind])
  · exact .kept rfl rfl

theorem stands_hearVictory (other : sender ≠ node.id) (sum : Int64) (seqn : Seqn)
    (timestamp : UInt64) :
    node.Stands (.victory sender sum seqn timestamp) (node.hearVictory now sender sum seqn).1 := by
  unfold hearVictory
  split
  · exact .kept rfl rfl
  · split
    · exact .kept rfl rfl
    · rename_i notLower
      refine .ended ?_ (UInt32.lt_of_le_of_ne (UInt32.not_lt.1 notLower) other.symm)
        (by simp [Message.kind])
      exact congrArg Election.isElecting (election_adopt (node.follow sender).state sum seqn)

theorem stands_hearVictoryAck (sum : Int64) (seqn : Seqn) :
    node.Stands (.victoryAck sender sum seqn) (node.hearVictoryAck sender sum seqn) := by
  refine .kept ?_ keeps_hearVictoryAck.1.leads
  unfold hearVictoryAck
  simp only
  generalize hearer_eq : (if node.state.isPrimary ∧ node.state.seqn < seqn then
    { node with state := node.state.adopt sum seqn } else node) = hearer
  have recovers : hearer.state.election = node.state.election := by
    rw [← hearer_eq]
    split
    · exact election_adopt node.state sum seqn
    · rfl
  split <;> exact recovers

theorem stands_hear (isNew : Bool) (message : Message) (other : message.sender ≠ node.id) :
    node.Stands message (node.hear now isNew message).1 := by
  cases message with
  | heartbeat sender sum seqn => exact stands_hearHeartbeat node now sender other sum seqn _
  | joinRequest sender =>
    refine .kept ?_ (keeps_hearJoinRequest node now sender isNew).leads
    exact election_hearJoinRequest node now sender isNew
  | stateUpdate sender sum seqn => exact stands_hearUpdate node sender sum seqn _
  | stateAck => exact .kept (election_hearAck node _ _) keeps_hearAck.leads
  | replicaList sender primary replicas =>
    exact stands_hearReplicaList node now sender primary replicas
  | startElection => exact .kept rfl rfl
  | electionResponse sender => exact stands_hearResponse node sender _
  | victory sender sum seqn => exact stands_hearVictory node now sender other sum seqn _
  | victoryAck sender sum seqn => exact stands_hearVictoryAck node sender sum seqn

/-- Nothing that a node hears begins an election or makes it lead, and only a higher node ends one of
the two. -/
theorem stands_handle (message : Message) (source : Address) :
    node.Stands message (node.handle now message source).1 := by
  unfold handle
  split
  · exact .kept rfl rfl
  · rename_i other
    -- to meet the sender changes neither the election nor who leads
    cases stands_hear (node.meet now message.sender source) now
        (!node.state.directory.contains message.sender) message other with
    | kept election leads => exact .kept election leads
    | ended idle higher kind => exact .ended idle higher kind

end Stands

variable {node : Node} {message : Message}

/-- A node without an election runs none when it has heard a message. -/
theorem idle_handle (idle : node.state.election.isElecting = false) (now : Int)
    (message : Message) (source : Address) :
    (node.handle now message source).1.state.election.isElecting = false := by
  cases stands_handle node now message source with
  | kept election => rw [election, idle]
  | ended idle => exact idle

/-- The answer of a higher node ends an election. -/
theorem idle_of_response (kind : message.kind = .electionResponse)
    (higher : node.id < message.sender) (now : Int) (source : Address) :
    (node.handle now message source).1.state.election.isElecting = false := by
  cases message with
  | electionResponse sender =>
    have other : sender ≠ node.id := (UInt32.ne_of_lt higher).symm
    have higher : (node.meet now sender source).id < sender := higher
    simp only [handle, Message.sender, other, if_false, hear, hearResponse, higher, if_true]
    rfl
  | _ => cases kind

/-- The claim of a higher node ends an election, if the sender is on record then. -/
theorem idle_of_victory {now : Int} {source : Address} (kind : message.kind = .victory)
    (higher : node.id < message.sender)
    (knows : ((node.handle now message source).1.addressOf? message.sender).isSome = true) :
    (node.handle now message source).1.state.election.isElecting = false := by
  cases message with
  | victory sender sum seqn =>
    have other : sender ≠ node.id := (UInt32.ne_of_lt higher).symm
    have notLower : ¬sender < (node.meet now sender source).id :=
      UInt32.not_lt.2 (UInt32.le_of_lt higher)
    simp only [handle, Message.sender, other, if_false, hear, hearVictory, notLower] at knows ⊢
    split
    · rename_i unknown
      simp [unknown] at knows
    · exact congrArg Election.isElecting (election_adopt _ sum seqn)
  | _ => cases kind

/-- A challenge of a lower node is answered; a node that leads says so, another one contends. -/
theorem handle_challenge {node next : Node} {now : Int} {sender : NodeId} {timestamp : UInt64}
    {source : Address} {effects : Effects} (lower : sender < node.id)
    (knows : node.state.directory.contains sender = true)
    (handled : node.handle now (.startElection sender timestamp) source = (next, effects)) :
    effects = if node.state.isPrimary then
        { replies := [⟨source, node.electionResponse now⟩], sends := [⟨source, node.victory now⟩] }
      else { replies := [⟨source, node.electionResponse now⟩], elects := true } := by
  have address := @addressOf?_meet node now sender source knows
  have other : sender ≠ node.id := UInt32.ne_of_lt lower
  have answers : ¬((node.meet now sender source).id ≤ sender ∧
      ¬(node.meet now sender source).state.isPrimary = true) :=
    fun outranked => UInt32.not_le.2 lower outranked.1
  simp only [handle, Message.sender, other, if_false, hear, hearChallenge, answers, address]
    at handled
  obtain ⟨-, rfl⟩ := Prod.mk.inj handled
  rfl

end Node

end SumCluster
