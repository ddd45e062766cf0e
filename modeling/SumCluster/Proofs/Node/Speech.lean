import SumCluster.Proofs.Message
import SumCluster.Proofs.Node.Deed

/-!
# What a node tells

Whatever a node sends, it is what the node may say of itself right after the deed (`Node.Tells`):
the sender is the node, a state is the one that it holds, only a primary speaks as one, and an
acknowledged number has been reached.  So a message in flight tells of a state that its sender once
had (`Node.Deed.tells`).
-/

namespace SumCluster

namespace Node

/-- Whether a message is what a node may tell as long as it is as it is. -/
def Tells (node : Node) : Message → Prop
  | .heartbeat sender sum seqn _ | .stateUpdate sender sum seqn _ | .victory sender sum seqn _ =>
    sender = node.id ∧ node.state.isPrimary ∧ sum = node.state.sum ∧ seqn = node.state.seqn
  | .victoryAck sender sum seqn =>
    sender = node.id ∧ sum = node.state.sum ∧ seqn = node.state.seqn
  | .stateAck sender seqn => sender = node.id ∧ seqn ≤ node.state.seqn
  | .replicaList sender primary _ => sender = node.id ∧ primary = node.state.primary
  | .joinRequest sender _ | .startElection sender _ | .electionResponse sender _ =>
    sender = node.id

theorem Tells.sender_eq {node : Node} {message : Message} (tells : node.Tells message) :
    message.sender = node.id := by
  cases message <;> first | exact tells | exact tells.1

theorem Tells.state?_eq {node : Node} {message : Message} {state : Int64 × Seqn}
    (tells : node.Tells message) (carries : message.state? = some state) :
    state = (node.state.sum, node.state.seqn) := by
  cases message with
  | heartbeat | stateUpdate | victory =>
    obtain rfl := Option.some.inj carries
    obtain ⟨-, -, rfl, rfl⟩ := tells
    rfl
  | victoryAck =>
    obtain rfl := Option.some.inj carries
    obtain ⟨-, rfl, rfl⟩ := tells
    rfl
  | _ => exact nomatch carries

theorem Tells.acknowledged?_le {node : Node} {message : Message} {seqn : Seqn}
    (tells : node.Tells message) (acknowledges : message.acknowledged? = some seqn) :
    seqn ≤ node.state.seqn := by
  cases message with
  | stateAck =>
    obtain rfl := Option.some.inj acknowledges
    exact tells.2
  | victoryAck =>
    obtain rfl := Option.some.inj acknowledges
    obtain ⟨-, -, rfl⟩ := tells
    exact UInt64.le_refl _
  | _ => exact nomatch acknowledges

/-- Whether all that is to be sent may be said by a node. -/
def TellsAll (node : Node) (effects : Effects) : Prop :=
  ∀ letter ∈ effects.letters, node.Tells letter.message

variable {node : Node}

theorem tellsAll_none : node.TellsAll .none := by
  simp [TellsAll, Effects.letters, Effects.none]

theorem tellsAll_elect : node.TellsAll .elect := by
  simp [TellsAll, Effects.letters, Effects.elect]

theorem tellsAll_send {address : Address} {message : Message} (tells : node.Tells message) :
    node.TellsAll (.send address message) := by
  simpa [TellsAll, Effects.letters, Effects.send] using tells

theorem tellsAll_reply {address : Address} {message : Message} (tells : node.Tells message) :
    node.TellsAll (.reply address message) := by
  simpa [TellsAll, Effects.letters, Effects.reply] using tells

theorem tells_of_mem_toEach {message : Message} {peers : List Peer} (tells : node.Tells message) :
    ∀ letter ∈ message.toEach peers, node.Tells letter.message := by
  intro letter mem
  obtain ⟨peer, -, rfl⟩ := List.mem_map.1 mem
  exact tells

/-! ## Answers to messages -/

section Answers

variable (node : Node) (now : Int) (sender : NodeId)

theorem tells_victoryAck : node.Tells node.victoryAck := ⟨rfl, rfl, rfl⟩

theorem tells_victory (leads : node.state.isPrimary) : node.Tells (node.victory now) :=
  ⟨rfl, leads, rfl, rfl⟩

theorem tells_stateUpdate (leads : node.state.isPrimary) : node.Tells (node.stateUpdate now) :=
  ⟨rfl, leads, rfl, rfl⟩

theorem tells_replicaList : node.Tells (node.replicaList now) := ⟨rfl, rfl⟩

theorem tellsAll_acknowledge (address : Address) (seqn : Seqn) :
    node.TellsAll (node.acknowledge address seqn) := by
  unfold acknowledge
  split
  · exact tellsAll_send (tells_victoryAck node)
  · exact tellsAll_reply ⟨rfl, UInt64.le_refl _⟩

theorem tellsAll_hearHeartbeat (sum : Int64) (seqn : Seqn) :
    (node.hearHeartbeat now sender sum seqn).1.TellsAll
      (node.hearHeartbeat now sender sum seqn).2 := by
  unfold hearHeartbeat
  split
  · exact tellsAll_none
  · split
    · exact tellsAll_acknowledge _ _ _
    · simp only
      split
      · rename_i leads
        exact tellsAll_send (tells_victory node now leads)
      · exact tellsAll_none

theorem tellsAll_hearJoinRequest (isNew : Bool) :
    (node.hearJoinRequest now sender isNew).1.TellsAll
      (node.hearJoinRequest now sender isNew).2 := by
  unfold hearJoinRequest
  split
  · rename_i admitted _ _
    simp only
    generalize admitted.refreshSelf now = fresh
    split
    · rename_i leads
      intro letter mem
      simp only [Effects.letters, List.append_nil, List.mem_append, List.mem_cons,
        List.not_mem_nil, or_false] at mem
      rcases mem with (rfl | rfl) | mem
      · exact tells_replicaList fresh now
      · exact tells_stateUpdate fresh now leads
      · split at mem
        · exact tells_of_mem_toEach (tells_replicaList fresh now) letter mem
        · simp at mem
    · exact tellsAll_send (tells_replicaList fresh now)
  · exact tellsAll_none

theorem tellsAll_hearUpdate (sum : Int64) (seqn : Seqn) :
    (node.hearUpdate sender sum seqn).1.TellsAll (node.hearUpdate sender sum seqn).2 := by
  unfold hearUpdate
  simp only
  generalize (if node.state.primary.isNone && !node.state.isPrimary then node.recognise sender
    else node) = follower
  split
  · exact tellsAll_none
  · split
    · exact tellsAll_none
    · split
      · rename_i adopts
        unfold State.adopt? at adopts
        split at adopts
        · simp at adopts
        · obtain rfl := Option.some.inj adopts
          exact tellsAll_reply ⟨rfl, UInt64.le_refl _⟩
      · rename_i refuses
        have stale : seqn < follower.state.seqn := by
          simpa [State.adopt?] using refuses
        intro letter mem
        simp only [Effects.letters, List.nil_append, List.mem_cons, List.not_mem_nil,
          or_false] at mem
        rcases mem with rfl | rfl
        · exact tells_victoryAck follower
        · exact ⟨rfl, UInt64.le_of_lt stale⟩

theorem tellsAll_rejoin (primary : NodeId) : node.TellsAll (node.rejoin now sender primary) := by
  unfold rejoin
  split
  · exact tellsAll_none
  · split
    · exact tellsAll_send rfl
    · exact tellsAll_none

theorem tellsAll_hearReplicaList (primary : Option NodeId) (entries : List PeerEntry) :
    (node.hearReplicaList now sender primary entries).1.TellsAll
      (node.hearReplicaList now sender primary entries).2 := by
  unfold hearReplicaList
  split
  · exact tellsAll_none
  · simp only
    split
    · exact tellsAll_none
    · exact tellsAll_rejoin _ now sender _

theorem tellsAll_hearChallenge : node.TellsAll (node.hearChallenge now sender) := by
  unfold hearChallenge
  split
  · exact tellsAll_none
  · split
    · exact tellsAll_none
    · split
      · rename_i leads
        intro letter mem
        simp only [Effects.letters, Effects.reply, List.cons_append, List.nil_append,
          List.mem_cons, List.not_mem_nil, or_false] at mem
        rcases mem with rfl | rfl
        · exact tells_victory node now leads
        · rfl
      · exact tellsAll_reply (show node.Tells (node.electionResponse now) from rfl)

theorem tellsAll_hearVictory (sum : Int64) (seqn : Seqn) :
    (node.hearVictory now sender sum seqn).1.TellsAll
      (node.hearVictory now sender sum seqn).2 := by
  unfold hearVictory
  split
  · exact tellsAll_none
  · split
    · simp only
      split
      · rename_i leads
        exact tellsAll_send (tells_victory node now leads)
      · exact tellsAll_elect
    · exact tellsAll_send (tells_victoryAck _)

theorem tellsAll_hear (isNew : Bool) (message : Message) :
    (node.hear now isNew message).1.TellsAll (node.hear now isNew message).2 := by
  cases message with
  | heartbeat sender sum seqn => exact tellsAll_hearHeartbeat node now sender sum seqn
  | joinRequest sender => exact tellsAll_hearJoinRequest node now sender isNew
  | stateUpdate sender sum seqn => exact tellsAll_hearUpdate node sender sum seqn
  | stateAck | electionResponse | victoryAck => exact tellsAll_none
  | replicaList sender primary replicas =>
    exact tellsAll_hearReplicaList node now sender primary replicas
  | startElection sender => exact tellsAll_hearChallenge node now sender
  | victory sender sum seqn => exact tellsAll_hearVictory node now sender sum seqn

theorem tellsAll_handle (message : Message) (source : Address) :
    (node.handle now message source).1.TellsAll (node.handle now message source).2 := by
  unfold handle
  split
  · exact tellsAll_none
  · exact tellsAll_hear _ now _ message

end Answers

/-! ## Deeds -/

theorem tells_of_startWrite {next : Node} {now : Int} {delta : Int64} {seqn : Option Seqn}
    {write : AppliedWrite} (starts : node.startWrite now delta seqn = .applied next write) :
    ∀ letter ∈ write.letters, next.Tells letter.message := by
  obtain ⟨leads, -, applied⟩ := applied_of_startWrite starts
  obtain ⟨rfl, letters⟩ := Prod.mk.inj applied
  rw [letters]
  exact tells_of_mem_toEach (tells_stateUpdate _ now leads)

/-- A node tells only what is so. -/
theorem Deed.tells {next : Node} {now : Int} {cause : Cause} {letters : List Letter}
    (deed : node.Deed now cause next letters) : ∀ letter ∈ letters, next.Tells letter.message := by
  cases deed with
  | hear message source => exact tellsAll_handle node now message source
  | drop | giveUp | look => simp
  | beat tick =>
    unfold Node.beat
    split
    · simp
    · rename_i leads
      have leads : node.state.isPrimary = true := by simpa using leads
      exact tells_of_mem_toEach ⟨rfl, leads, rfl, rfl⟩
  | contend opens => exact tells_of_mem_toEach rfl
  | claim claims =>
    obtain ⟨-, rfl, rfl⟩ := of_claimVictory? claims
    exact tells_of_mem_toEach (tells_victory _ now rfl)
  | join | discover =>
    intro letter mem
    obtain rfl := List.mem_singleton.1 mem
    rfl
  | write starts => exact tells_of_startWrite starts

end Node

end SumCluster
