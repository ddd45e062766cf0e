import SumCluster.Proofs.Directory.Records
import SumCluster.Proofs.Node.Change

/-!
# What a message does to the directory of a node

Once it has met the sender, a node notes one thing at most (`Node.Notes`): a number that the sender
acknowledged, that a request to join is answered, or the entries of a list.  So a predicate on all
records that these changes keep is kept by whatever the node hears (`Node.all_handle`).
-/

namespace SumCluster

/-- The table of nodes that a message carries. -/
def Message.entries : Message → List PeerEntry
  | replicaList _ _ entries => entries
  | _ => []

theorem Message.kind_of_mem_entries {message : Message} {entry : PeerEntry}
    (mem : entry ∈ message.entries) : message.kind = .replicaList := by
  cases message with
  | replicaList => rfl
  | _ => exact nomatch mem

theorem Message.entries_bare (message : Message) :
    message.bare.entries = message.entries.map fun entry =>
      { entry with address := entry.address.bare } := by
  cases message <;> rfl

namespace Node

/-- The directory of a node after it has acted on a message. -/
inductive Notes (node : Node) (now : Int) (message : Message) : Directory → Prop
  | nothing : Notes node now message node.state.directory
  | ack (seqn : Seqn) :
    Notes node now message (node.state.directory.recordAck message.sender seqn)
  /-- A request to join is answered, which is a sign of life of the node itself. -/
  | join {directory : Directory} (kind : message.kind = .joinRequest)
    (joins : node.state.directory.recordJoin? message.sender now (joinWindow node.config) =
      some directory) :
    Notes node now message ((directory.markAlive? node.id now).getD directory)
  | entries (kind : message.kind = .replicaList) :
    Notes node now message (node.state.directory.merge node.id message.entries now).1

section Notes

variable (node : Node) (now : Int) (sender : NodeId)

theorem directory_adopt (state : State) (sum : Int64) (seqn : Seqn) :
    (state.adopt sum seqn).directory = state.directory := by
  unfold State.adopt State.adopt?
  split <;> rfl

theorem directory_of_heed? {node next : Node} (heeds : node.heed? now sender = some next) :
    next.state.directory = node.state.directory := by
  rcases cases_of_heed? heeds with rfl | rfl | rfl <;> rfl

theorem directory_catchUp (sum : Int64) (seqn : Seqn) :
    (node.catchUp sum seqn).state.directory = node.state.directory := by
  unfold catchUp
  split
  · exact directory_adopt node.state sum seqn
  · rfl

theorem directory_yieldTo : (node.yieldTo sender).state.directory = node.state.directory := by
  unfold yieldTo
  split <;> rfl

theorem directory_hearHeartbeat (sum : Int64) (seqn : Seqn) :
    (node.hearHeartbeat now sender sum seqn).1.state.directory = node.state.directory := by
  unfold hearHeartbeat
  split
  · rfl
  · split
    · rename_i heeds
      rw [directory_catchUp, directory_yieldTo, directory_of_heed? now sender heeds]
    · rfl

theorem notes_hearJoinRequest (isNew : Bool) (timestamp : UInt64) :
    node.Notes now (.joinRequest sender timestamp)
      (node.hearJoinRequest now sender isNew).1.state.directory := by
  unfold hearJoinRequest
  split
  · rename_i admitted _ admits
    obtain ⟨directory, joins, rfl⟩ := Option.map_eq_some_iff.1 admits
    have refreshed : (Node.refreshSelf { node with state.directory := directory }
        now).state.directory = (directory.markAlive? node.id now).getD directory := by
      unfold refreshSelf
      split
      · rename_i marked
        exact (congrArg (Option.getD · directory) marked).symm
      · rename_i unmarked
        exact (congrArg (Option.getD · directory) unmarked).symm
    simp only
    split
    · exact refreshed ▸ .join rfl joins
    · exact refreshed ▸ .join rfl joins
  · exact .nothing

theorem directory_hearUpdate (sum : Int64) (seqn : Seqn) :
    (node.hearUpdate sender sum seqn).1.state.directory = node.state.directory := by
  unfold hearUpdate
  simp only
  generalize follower_eq : (if node.state.primary.isNone && !node.state.isPrimary then
    node.recognise sender else node) = follower
  have same : follower.state.directory = node.state.directory := by
    rw [← follower_eq]
    split <;> rfl
  split
  · exact same
  · split
    · exact same
    · split
      · rename_i adopts
        unfold State.adopt? at adopts
        split at adopts
        · simp at adopts
        · obtain rfl := Option.some.inj adopts
          exact same
      · exact same

theorem notes_hearReplicaList (primary : Option NodeId) (entries : List PeerEntry) :
    node.Notes now (.replicaList sender primary entries)
      (node.hearReplicaList now sender primary entries).1.state.directory := by
  have merges : node.Notes now (.replicaList sender primary entries)
      (node.mergeEntries entries now).state.directory :=
    .entries rfl
  unfold hearReplicaList
  split
  · exact merges
  · simp only
    split
    · exact merges
    · rename_i learns
      rcases cases_of_learnPrimary? learns with rfl | rfl <;> exact merges

theorem directory_hearVictory (sum : Int64) (seqn : Seqn) :
    (node.hearVictory now sender sum seqn).1.state.directory = node.state.directory := by
  unfold hearVictory
  split
  · rfl
  · split
    · rfl
    · exact directory_adopt (node.follow sender).state sum seqn

theorem notes_hearVictoryAck (sum : Int64) (seqn : Seqn) :
    node.Notes now (.victoryAck sender sum seqn)
      (node.hearVictoryAck sender sum seqn).state.directory := by
  unfold hearVictoryAck
  simp only
  generalize hearer_eq : (if node.state.isPrimary ∧ node.state.seqn < seqn then
    { node with state := node.state.adopt sum seqn } else node) = hearer
  have same : hearer.state.directory = node.state.directory := by
    rw [← hearer_eq]
    split
    · exact directory_adopt node.state sum seqn
    · rfl
  split
  · show node.Notes now _ (hearer.state.directory.recordAck sender seqn)
    rw [same]
    exact .ack seqn
  · rw [same]
    exact .nothing

theorem notes_hear (isNew : Bool) (message : Message) :
    node.Notes now message (node.hear now isNew message).1.state.directory := by
  cases message with
  | heartbeat sender sum seqn => exact directory_hearHeartbeat node now sender sum seqn ▸ .nothing
  | joinRequest sender => exact notes_hearJoinRequest node now sender isNew _
  | stateUpdate sender sum seqn => exact directory_hearUpdate node sender sum seqn ▸ .nothing
  | stateAck sender seqn =>
    unfold hear hearAck
    simp only
    split
    · exact .nothing
    · exact .ack seqn
  | replicaList sender primary entries =>
    exact notes_hearReplicaList node now sender primary entries
  | startElection => exact .nothing
  | electionResponse sender =>
    unfold hear hearResponse
    simp only
    split <;> exact .nothing
  | victory sender sum seqn => exact directory_hearVictory node now sender sum seqn ▸ .nothing
  | victoryAck sender sum seqn => exact notes_hearVictoryAck node now sender sum seqn

end Notes

/-! ## Predicates on records -/

/-- What a message makes of the records of a directory, but for that of its sender, satisfies a
predicate that they satisfy. -/
structure Sustains (directory : Directory) (id : NodeId) (now : Int) (message : Message)
    (P : Record → Prop) : Prop where
  heard : ∀ record, record.id = id → P record →
    P { record with isAlive := true, lastHeard := now }
  acked : ∀ record acked, P record → P { record with acked := acked }
  joined : ∀ record, P record → P { record with lastJoin := some now }
  told : ∀ entry ∈ message.entries, entry.id ≠ id →
    Directory.Tells P now (directory.contains entry.id = false) entry

variable {node : Node} {now : Int} {message : Message} {source : Address} {P : Record → Prop}

theorem all_meet (all : node.state.directory.All P)
    (met : ∀ record, record.id = message.sender → P record →
      P { record with address := source, isAlive := true, lastHeard := now })
    (new : node.state.directory.contains message.sender = false →
      P (Record.fresh message.sender source now)) :
    (node.meet now message.sender source).state.directory.All P := by
  unfold meet
  simp only
  split
  · rename_i registered
    exact Directory.all_register all met new registered
  · exact all

theorem all_hear (all : node.state.directory.All P)
    (sustains : Sustains node.state.directory node.id now message P) (isNew : Bool) :
    (node.hear now isNew message).1.state.directory.All P := by
  have notes := notes_hear node now isNew message
  generalize (node.hear now isNew message).1.state.directory = later at notes ⊢
  cases notes with
  | nothing => exact all
  | ack seqn => exact Directory.all_recordAck all sustains.acked
  | @join directory _ joins =>
    have joined := Directory.all_recordJoin? all sustains.joined joins
    cases marked : directory.markAlive? node.id now with
    | none => exact joined
    | some marks => exact Directory.all_markAlive? joined sustains.heard marked
  | entries => exact Directory.all_merge all sustains.told

/-- The predicate is kept by whatever the node hears, if its record of the sender satisfies it. -/
theorem all_handle (all : node.state.directory.All P)
    (met : ∀ record, record.id = message.sender → P record →
      P { record with address := source, isAlive := true, lastHeard := now })
    (new : node.state.directory.contains message.sender = false →
      P (Record.fresh message.sender source now))
    (sustains : Sustains node.state.directory node.id now message P) :
    (node.handle now message source).1.state.directory.All P := by
  unfold handle
  split
  · exact all
  · refine all_hear (all_meet all met new) ⟨sustains.heard, sustains.acked, sustains.joined,
      fun entry mem other => ?_⟩ _
    obtain ⟨newer, unlisted⟩ := sustains.told entry mem other
    -- to meet the sender removes no record
    have meets : Changes .own node (node.meet now message.sender source) :=
      changes_meet node now message.sender source
    refine ⟨newer, fun unknown => unlisted (Bool.eq_false_iff.2 fun known => ?_)⟩
    exact absurd (meets.extends entry.id known) (Bool.eq_false_iff.1 unknown)

end Node

end SumCluster
