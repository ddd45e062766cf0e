import SumCluster.Proofs.Node.Place
import SumCluster.Proofs.Node.Records
import SumCluster.Proofs.Node.Speech

/-!
# What a node sends when it hears a message

Every letter that a node sends because of a message has one of a few reasons, each with conditions
on the message and on what the node knows (`Node.Replies`), and it asks for an election only if a
lower node contends or claims the lead (`Node.lower_of_elects`).
-/

namespace SumCluster

/-- Whether a message is never answered. -/
def Message.isFinal : Message → Bool
  | stateAck .. | electionResponse .. | victoryAck .. => true
  | _ => false

namespace Node

/-- Why a node that has met the sender of a message sends a letter; `isNew` says whether the sender
was unknown before. -/
inductive Replies (node : Node) (now : Int) (message : Message) (source : Address) (isNew : Bool)
    (next : Node) : Letter → Prop
  /-- An acknowledgement, or an answer to a contender. -/
  | closing {reply : Message} (opened : message.isFinal = false) (final : reply.isFinal = true) :
    Replies node now message source isNew next ⟨source, reply⟩
  /-- A lower node leads as well. -/
  | defy (kind : message.kind = .heartbeat ∨ message.kind = .victory)
    (lower : message.sender < node.id) :
    Replies node now message source isNew next ⟨source, next.victory now⟩
  /-- Somebody contends although the node leads. -/
  | claim (kind : message.kind = .startElection) :
    Replies node now message source isNew next ⟨source, next.victory now⟩
  | list (kind : message.kind = .joinRequest) :
    Replies node now message source isNew next ⟨source, next.replicaList now⟩
  | update (kind : message.kind = .joinRequest) :
    Replies node now message source isNew next ⟨source, next.stateUpdate now⟩
  /-- The others are told of a new node. -/
  | spread (kind : message.kind = .joinRequest) (new : isNew = true)
    (knows : node.state.directory.contains message.sender = true) {peer : Peer}
    (mem : peer ∈ next.state.directory.alivePeers next.id) :
    Replies node now message source isNew next ⟨peer.address, next.replicaList now⟩
  /-- Somebody names another node as the primary, and the one that the node follows is lost. -/
  | rejoin {primary : NodeId} {entries : List PeerEntry} {record : Record}
    (names : message = .replicaList message.sender (some primary) entries)
    (backup : node.state.isPrimary = false)
    (lost : next.state.directory.isPrimaryAlive node.state.primary now
      node.config.primaryTimeout = false)
    (follows : next.state.primary = some primary)
    (found : next.state.directory.find? primary = some record) :
    Replies node now message source isNew next ⟨record.address, next.joinRequest now⟩

section Lists

variable {node next : Node} {now : Int} {message : Message} {source : Address} {isNew : Bool}
  {letter : Letter}

/-- A list that a node sends is its own, and answers a request to join. -/
theorem Replies.listed (replies : node.Replies now message source isNew next letter)
    (list : letter.message.kind = .replicaList) :
    message.kind = .joinRequest ∧ letter.message = next.replicaList now := by
  cases replies with
  | @closing reply _ final =>
    cases reply with
    | stateAck | electionResponse | victoryAck => exact nomatch list
    | _ => exact nomatch final
  | list kind | spread kind => exact ⟨kind, rfl⟩
  | defy | claim | update | rejoin => exact nomatch list

theorem exists_record_of_mem_replicaList {entry : PeerEntry}
    (mem : entry ∈ (next.replicaList now).entries) :
    ∃ record ∈ next.state.directory.records, entry = record.entry now := by
  obtain ⟨record, record_mem, rfl⟩ := List.mem_map.1 mem
  exact ⟨record, List.mem_of_mem_take record_mem, rfl⟩

/-- The entries that a node sends are those of its directory. -/
theorem Replies.entries (replies : node.Replies now message source isNew next letter) :
    ∀ entry ∈ letter.message.entries, ∃ record ∈ next.state.directory.records,
      entry = record.entry now := by
  intro entry mem
  rw [(replies.listed (Message.kind_of_mem_entries mem)).2] at mem
  exact exists_record_of_mem_replicaList mem

end Lists

section Replies

variable {node : Node} {now : Int} {sender : NodeId} {source : Address} {isNew : Bool}
  (listens : ∀ address, node.addressOf? sender = some address → address = source)

include listens

theorem replies_hearHeartbeat (sum : Int64) (seqn : Seqn) (timestamp : UInt64) :
    ∀ letter ∈ (node.hearHeartbeat now sender sum seqn).2.letters,
      node.Replies now (.heartbeat sender sum seqn timestamp) source isNew
        (node.hearHeartbeat now sender sum seqn).1 letter := by
  unfold hearHeartbeat
  split
  · simp [Effects.letters, Effects.none]
  · rename_i address known
    obtain rfl := listens address known
    split
    · intro letter mem
      simp only at mem
      unfold acknowledge at mem
      split at mem <;> obtain rfl := List.mem_singleton.1 mem <;> exact .closing rfl rfl
    · rename_i ignores
      intro letter mem
      simp only at mem
      split at mem
      · rename_i leads
        obtain rfl := List.mem_singleton.1 mem
        rcases of_heed?_eq_none ignores with ⟨-, lower⟩ | ⟨backup, -⟩
        · exact .defy (.inl rfl) lower
        · simp [backup] at leads
      · simp [Effects.letters, Effects.none] at mem

theorem replies_hearJoinRequest (timestamp : UInt64) :
    ∀ letter ∈ (node.hearJoinRequest now sender isNew).2.letters,
      node.Replies now (.joinRequest sender timestamp) source isNew
        (node.hearJoinRequest now sender isNew).1 letter := by
  unfold hearJoinRequest
  split
  · rename_i address admitted known _
    obtain rfl := listens address known
    simp only
    generalize admitted.refreshSelf now = fresh
    split
    · intro letter mem
      simp only [Effects.letters, List.append_nil, List.mem_append, List.mem_cons,
        List.not_mem_nil, or_false] at mem
      rcases mem with (rfl | rfl) | mem
      · exact .list rfl
      · exact .update rfl
      · split at mem
        · rename_i new
          obtain ⟨peer, peer_mem, rfl⟩ := List.mem_map.1 mem
          exact .spread rfl new (contains_of_addressOf? known) (List.mem_filter.1 peer_mem).1
        · simp at mem
    · intro letter mem
      obtain rfl := List.mem_singleton.1 mem
      exact .list rfl
  · simp [Effects.letters, Effects.none]

theorem replies_hearUpdate (sum : Int64) (seqn : Seqn) (timestamp : UInt64) :
    ∀ letter ∈ (node.hearUpdate sender sum seqn).2.letters,
      node.Replies now (.stateUpdate sender sum seqn timestamp) source isNew
        (node.hearUpdate sender sum seqn).1 letter := by
  unfold hearUpdate
  simp only
  generalize follower_eq : (if node.state.primary.isNone && !node.state.isPrimary then
    node.recognise sender else node) = follower
  have address_eq : follower.addressOf? sender = node.addressOf? sender := by
    rw [← follower_eq]
    split <;> rfl
  split
  · simp [Effects.letters, Effects.none]
  · split
    · simp [Effects.letters, Effects.none]
    · rename_i address known
      obtain rfl := listens address (address_eq.symm.trans known)
      split
      · intro letter mem
        obtain rfl := List.mem_singleton.1 mem
        exact .closing rfl rfl
      · intro letter mem
        simp only [Effects.letters, List.nil_append, List.mem_cons, List.not_mem_nil,
          or_false] at mem
        rcases mem with rfl | rfl <;> exact .closing rfl rfl

omit listens in
theorem replies_hearReplicaList (primary : Option NodeId) (entries : List PeerEntry) :
    ∀ letter ∈ (node.hearReplicaList now sender primary entries).2.letters,
      node.Replies now (.replicaList sender primary entries) source isNew
        (node.hearReplicaList now sender primary entries).1 letter := by
  unfold hearReplicaList
  split
  · simp [Effects.letters, Effects.none]
  · rename_i primary
    simp only
    split
    · simp [Effects.letters, Effects.none]
    · rename_i learner learns
      intro letter mem
      unfold rejoin at mem
      split at mem
      · simp [Effects.letters, Effects.none] at mem
      · rename_i other
        split at mem
        · rename_i address known
          obtain rfl := List.mem_singleton.1 mem
          obtain ⟨record, found, rfl⟩ := Option.map_eq_some_iff.1 known
          unfold learnPrimary? at learns
          split at learns
          · simp at learns
          · split at learns
            · split at learns
              · rename_i outranked
                exact absurd outranked.2 other
              · simp at learns
            · rename_i follows
              split at learns
              · simp at learns
              · rename_i convinced
                obtain rfl := Option.some.inj learns
                refine .rejoin rfl (Bool.eq_false_iff.2 follows) ?_ rfl found
                exact Bool.eq_false_iff.2 fun lives => convinced ⟨other, lives⟩
        · simp [Effects.letters, Effects.none] at mem

theorem replies_hearChallenge (timestamp : UInt64) :
    ∀ letter ∈ (node.hearChallenge now sender).letters,
      node.Replies now (.startElection sender timestamp) source isNew node letter := by
  unfold hearChallenge
  split
  · simp [Effects.letters, Effects.none]
  · split
    · simp [Effects.letters, Effects.none]
    · rename_i address known
      obtain rfl := listens address known
      intro letter mem
      simp only at mem
      split at mem
      · simp only [Effects.letters, Effects.reply, List.cons_append, List.nil_append,
          List.mem_cons, List.not_mem_nil, or_false] at mem
        rcases mem with rfl | rfl
        · exact .claim rfl
        · exact .closing rfl rfl
      · obtain rfl := List.mem_singleton.1 mem
        exact .closing rfl rfl

theorem replies_hearVictory (sum : Int64) (seqn : Seqn) (timestamp : UInt64) :
    ∀ letter ∈ (node.hearVictory now sender sum seqn).2.letters,
      node.Replies now (.victory sender sum seqn timestamp) source isNew
        (node.hearVictory now sender sum seqn).1 letter := by
  unfold hearVictory
  split
  · simp [Effects.letters, Effects.none]
  · rename_i address known
    obtain rfl := listens address known
    split
    · rename_i lower
      intro letter mem
      simp only at mem
      split at mem
      · obtain rfl := List.mem_singleton.1 mem
        exact .defy (.inr rfl) lower
      · simp [Effects.letters, Effects.elect] at mem
    · intro letter mem
      obtain rfl := List.mem_singleton.1 mem
      exact .closing rfl rfl

end Replies

variable {node : Node} {now : Int} {message : Message} {source : Address}

theorem replies_hear (listens : ∀ address, node.addressOf? message.sender = some address →
      address = source) (isNew : Bool) :
    ∀ letter ∈ (node.hear now isNew message).2.letters,
      node.Replies now message source isNew (node.hear now isNew message).1 letter := by
  cases message with
  | heartbeat sender sum seqn => exact replies_hearHeartbeat listens sum seqn _
  | joinRequest sender => exact replies_hearJoinRequest listens _
  | stateUpdate sender sum seqn => exact replies_hearUpdate listens sum seqn _
  | replicaList sender primary entries => exact replies_hearReplicaList primary entries
  | startElection sender => exact replies_hearChallenge listens _
  | victory sender sum seqn => exact replies_hearVictory listens sum seqn _
  | _ => simp [hear, Effects.letters, Effects.none]

/-! ## Elections -/

section Elects

variable (node : Node) (now : Int) (sender : NodeId)

theorem elects_hearHeartbeat (sum : Int64) (seqn : Seqn) :
    (node.hearHeartbeat now sender sum seqn).2.elects = false := by
  unfold hearHeartbeat acknowledge
  split
  · rfl
  · split
    · simp only
      split <;> rfl
    · simp only
      split <;> rfl

theorem elects_hearJoinRequest (isNew : Bool) :
    (node.hearJoinRequest now sender isNew).2.elects = false := by
  unfold hearJoinRequest
  split
  · simp only
    split <;> rfl
  · rfl

theorem elects_hearUpdate (sum : Int64) (seqn : Seqn) :
    (node.hearUpdate sender sum seqn).2.elects = false := by
  unfold hearUpdate
  simp only
  generalize (if node.state.primary.isNone && !node.state.isPrimary then node.recognise sender
    else node) = follower
  split
  · rfl
  · split
    · rfl
    · split <;> rfl

theorem elects_hearReplicaList (primary : Option NodeId) (entries : List PeerEntry) :
    (node.hearReplicaList now sender primary entries).2.elects = false := by
  unfold hearReplicaList rejoin
  split
  · rfl
  · simp only
    split
    · rfl
    · split
      · rfl
      · split <;> rfl

theorem lower_of_elects_hearChallenge (elects : (node.hearChallenge now sender).elects = true) :
    sender < node.id := by
  unfold hearChallenge at elects
  split at elects
  · exact nomatch elects
  · rename_i answers
    split at elects
    · exact nomatch elects
    · simp only at elects
      split at elects
      · exact nomatch elects
      · rename_i follows
        exact UInt32.not_le.1 fun outranked => answers ⟨outranked, follows⟩

theorem lower_of_elects_hearVictory {sum : Int64} {seqn : Seqn}
    (elects : (node.hearVictory now sender sum seqn).2.elects = true) : sender < node.id := by
  unfold hearVictory at elects
  split at elects
  · exact nomatch elects
  · split at elects
    · assumption
    · exact nomatch elects

end Elects

theorem lower_of_elects_hear {isNew : Bool}
    (elects : (node.hear now isNew message).2.elects = true) :
    message.sender < node.id ∧ (message.kind = .startElection ∨ message.kind = .victory) := by
  cases message with
  | heartbeat sender sum seqn =>
    exact nomatch (elects_hearHeartbeat node now sender sum seqn).symm.trans elects
  | joinRequest sender =>
    exact nomatch (elects_hearJoinRequest node now sender isNew).symm.trans elects
  | stateUpdate sender sum seqn =>
    exact nomatch (elects_hearUpdate node sender sum seqn).symm.trans elects
  | replicaList sender primary entries =>
    exact nomatch (elects_hearReplicaList node now sender primary entries).symm.trans elects
  | startElection sender => exact ⟨lower_of_elects_hearChallenge node now sender elects, .inl rfl⟩
  | victory sender => exact ⟨lower_of_elects_hearVictory node now sender elects, .inr rfl⟩
  | stateAck | electionResponse | victoryAck => exact nomatch elects

/-- The only address that a node knows of the sender of a message is where it came from. -/
theorem eq_source_of_addressOf?_meet {sender : NodeId} {address : Address}
    (known : (node.meet now sender source).addressOf? sender = some address) :
    address = source := by
  obtain ⟨record, found, rfl⟩ := Option.map_eq_some_iff.1 known
  unfold meet at found
  cases registered : node.state.directory.register sender source now with
  | ok directory =>
    obtain ⟨same, same_found, address, -⟩ := Directory.find?_register registered
    simp only [registered] at found
    obtain rfl := Option.some.inj (same_found.symm.trans found)
    exact address
  | error error =>
    have unknown := Directory.contains_of_register_error registered
    simp only [registered] at found
    simp [Directory.contains, found] at unknown

/-! ## Handling -/

section Handle

variable {next : Node} {effects : Effects}
  (handled : node.handle now message source = (next, effects))

include handled

/-- What a node hears of itself is ignored. -/
theorem handle_of_own (own : message.sender = node.id) : next = node ∧ effects = .none := by
  unfold handle at handled
  rw [if_pos own] at handled
  obtain ⟨rfl, rfl⟩ := Prod.mk.inj handled
  exact ⟨rfl, rfl⟩

/-- Every letter that a node sends when it handles a message has one of the reasons, once the node
has met the sender. -/
theorem replies_handle (other : message.sender ≠ node.id) :
    ∀ letter ∈ effects.letters, (node.meet now message.sender source).Replies now message source
      (!node.state.directory.contains message.sender) next letter := by
  have replies := @replies_hear (node.meet now message.sender source) now message source
    (fun _ => eq_source_of_addressOf?_meet) (!node.state.directory.contains message.sender)
  unfold handle at handled
  rw [if_neg other] at handled
  rwa [handled] at replies

/-- Only a lower node that contends or claims the lead makes a node contend. -/
theorem lower_of_elects (elects : effects.elects = true) :
    message.sender < node.id ∧ (message.kind = .startElection ∨ message.kind = .victory) := by
  unfold handle at handled
  split at handled
  · obtain rfl := (Prod.mk.inj handled).2
    exact nomatch elects
  · obtain rfl := (Prod.mk.inj handled).2
    exact @lower_of_elects_hear (node.meet now message.sender source) now message _ elects

end Handle

end Node

end SumCluster
