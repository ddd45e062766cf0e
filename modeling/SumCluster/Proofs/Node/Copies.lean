import SumCluster.Proofs.Directory.Copies
import SumCluster.Proofs.Node.Bid
import SumCluster.Proofs.Node.Records

/-!
# Copies of a message

A message goes out as a burst of copies.  Once a node has handled one copy, its state is such that
the handler of the message leaves it as it is (`Node.Settled`), and its directory has nothing to
note of the sender (`Directory.Greeted`).  So further copies at the same instant change the counts
of the node only (`Node.copies_harmless`).
-/

namespace SumCluster

namespace State

variable {state next : State} {sum : Int64} {seqn : Seqn}

theorem of_adopt? (adopts : state.adopt? sum seqn = some next) :
    next = { state with sum := sum, seqn := seqn, hasInitial := true } := by
  unfold adopt? at adopts
  split at adopts
  · exact nomatch adopts
  · exact (Option.some.inj adopts).symm

theorem adopt?_of_adopt? (adopts : state.adopt? sum seqn = some next) :
    next.adopt? sum seqn = some next := by
  obtain rfl := of_adopt? adopts
  exact if_neg (UInt64.lt_irrefl seqn)

theorem adopt_adopt (state : State) (sum : Int64) (seqn : Seqn) :
    (state.adopt sum seqn).adopt sum seqn = state.adopt sum seqn := by
  unfold adopt
  cases adopts : state.adopt? sum seqn with
  | none => exact congrArg (Option.getD · state) adopts
  | some next => exact congrArg (Option.getD · next) (adopt?_of_adopt? adopts)

theorem follow_adopt (state : State) (sum : Int64) (seqn : Seqn) (primary : NodeId) :
    (state.adopt sum seqn).follow primary = (state.follow primary).adopt sum seqn := by
  unfold adopt adopt? follow
  split <;> rfl

end State

namespace Node

/-- The node with other counts. -/
def recount (node : Node) (stats : Stats) : Node :=
  { node with stats }

@[simp] theorem state_recount (node : Node) (stats : Stats) :
    (node.recount stats).state = node.state := rfl

/-- A message leaves the state of the node as it is, whatever the node has counted, and whether or
not the sender counts as new. -/
def Settled (node : Node) (now : Int) (message : Message) : Prop :=
  ∀ stats isNew, ((node.recount stats).hear now isNew message).1.state = node.state

/-! ## Heartbeats -/

section Heartbeat

variable {node : Node} {now : Int} {sender : NodeId} {sum : Int64} {seqn : Seqn}
  {timestamp : UInt64}

/-- Who has no address gets no answer. -/
theorem settled_heartbeat_of_unknown (unknown : node.addressOf? sender = none) :
    node.Settled now (.heartbeat sender sum seqn timestamp) := by
  intro stats isNew
  have unknown : (node.recount stats).addressOf? sender = none := unknown
  simp only [hear, hearHeartbeat, unknown, state_recount]

theorem settled_heartbeat_of_ignored (ignores : node.heed? now sender = none) :
    node.Settled now (.heartbeat sender sum seqn timestamp) := by
  intro stats isNew
  have reason := heed?_eq_none_iff.1 ignores
  have ignores : (node.recount stats).heed? now sender = none := heed?_eq_none_iff.2 reason
  simp only [hear, hearHeartbeat, ignores]
  split <;> rfl

/-- The sender is followed, and the node has caught up with it. -/
theorem settled_heartbeat_of_followed (backup : node.state.isPrimary = false)
    (follows : node.state.primary = some sender)
    (stoodDown : node.id < sender → node.state.election = .idle)
    (reached : seqn ≤ node.state.seqn) :
    node.Settled now (.heartbeat sender sum seqn timestamp) := by
  intro stats isNew
  have heeds : (node.recount stats).heed? now sender = some (node.recount stats) := by
    simp [heed?, backup, follows]
  have yielded : ((node.recount stats).yieldTo sender).state = node.state := by
    unfold yieldTo
    split
    · rename_i higher
      show { node.state with election := .idle } = node.state
      rw [← stoodDown higher]
    · rfl
  have caughtUp : (((node.recount stats).yieldTo sender).catchUp sum seqn).state =
      node.state := by
    unfold catchUp
    rw [if_neg (by rw [yielded]; exact UInt64.not_lt.2 reached)]
    exact yielded
  simp only [hear, hearHeartbeat, heeds]
  split
  · rfl
  · exact caughtUp

theorem settled_hearHeartbeat (node : Node) :
    (node.hearHeartbeat now sender sum seqn).1.Settled now
      (.heartbeat sender sum seqn timestamp) := by
  unfold hearHeartbeat
  split
  · rename_i unknown
    exact settled_heartbeat_of_unknown unknown
  · split
    · rename_i heeder heeds
      have yields : node.Yields ((heeder.yieldTo sender).catchUp sum seqn) sender :=
        ((yields_of_heed? heeds).1.trans_keeps keeps_yieldTo).trans_keeps (keeps_catchUp sum seqn)
      refine settled_heartbeat_of_followed yields.follows yields.primary (fun higher => ?_)
        (le_seqn_catchUp sum seqn)
      have changes : Changes (.heard (.heartbeat sender sum seqn 0)) heeder
          ((heeder.yieldTo sender).catchUp sum seqn) :=
        (changes_yieldTo heeder sender).trans (changes_catchUp _ rfl)
      have id : ((heeder.yieldTo sender).catchUp sum seqn).id = heeder.id :=
        congrArg (·.1) changes.standing_eq
      rw [election_catchUp]
      unfold yieldTo
      rw [if_pos (id ▸ higher)]
      rfl
    · rename_i ignores
      exact settled_heartbeat_of_ignored ignores

end Heartbeat

/-! ## Requests to join -/

section Join

variable {now : Int} {sender : NodeId} {timestamp : UInt64}

theorem state_refreshSelf (node : Node) (now : Int) :
    (node.refreshSelf now).state =
      { node.state with
        directory := (node.state.directory.markAlive? node.id now).getD node.state.directory } := by
  unfold refreshSelf
  cases node.state.directory.markAlive? node.id now <;> rfl

/-- A request to join changes the directory only. -/
theorem state_hearJoinRequest (node : Node) (isNew : Bool) :
    (node.hearJoinRequest now sender isNew).1.state =
      { node.state with
        directory :=
          node.state.directory.answerJoin node.id sender now (joinWindow node.config) } := by
  unfold hearJoinRequest admit? Directory.answerJoin
  cases joins : node.state.directory.recordJoin? sender now (joinWindow node.config) with
  | none => cases node.addressOf? sender <;> rfl
  | some joined =>
    -- the match on the address decides nothing, as a record has one
    obtain ⟨address, known⟩ : ∃ address, node.addressOf? sender = some address := by
      unfold Directory.recordJoin? at joins
      split at joins
      · exact nomatch joins
      · rename_i record found
        exact ⟨record.address, Option.map_eq_some_iff.2 ⟨record, found, rfl⟩⟩
    rw [known]
    simp only [Option.map_some]
    have refreshed := state_refreshSelf { node with state.directory := joined } now
    split
    · exact refreshed
    · exact refreshed

theorem settled_hearJoinRequest (node : Node) (isNew : Bool) :
    (node.hearJoinRequest now sender isNew).1.Settled now (.joinRequest sender timestamp) := by
  have settled : ∀ next : Node,
      next.state.directory.answerJoin next.id sender now (joinWindow next.config) =
        next.state.directory →
      next.Settled now (.joinRequest sender timestamp) := by
    intro next fixed stats isNew
    refine (state_hearJoinRequest (next.recount stats) isNew).trans ?_
    show { next.state with
      directory :=
        next.state.directory.answerJoin next.id sender now (joinWindow next.config) } = _
    rw [fixed]
  have standing := (@changes_hearJoinRequest node now sender .own isNew).standing_eq
  have id : (node.hearJoinRequest now sender isNew).1.id = node.id := congrArg (·.1) standing
  have config : (node.hearJoinRequest now sender isNew).1.config = node.config :=
    congrArg (·.2.2.1) standing
  refine settled _ ?_
  rw [id, config, state_hearJoinRequest]
  exact Directory.answerJoin_answerJoin node.state.directory node.id sender now _

end Join

/-! ## Updates and claims -/

section Updates

variable {node : Node} {now : Int} {sender : NodeId} {sum : Int64} {seqn : Seqn}
  {timestamp : UInt64}

/-- The sender is followed, and the node knows it only if it has caught up with the update. -/
theorem settled_update_of_followed (follows : node.state.primary = some sender)
    (holds : ∀ address, node.addressOf? sender = some address →
      ∀ state, node.state.adopt? sum seqn = some state → state = node.state) :
    node.Settled now (.stateUpdate sender sum seqn timestamp) := by
  intro stats isNew
  have follows : (node.recount stats).state.primary = some sender := follows
  simp only [hear, hearUpdate_of_followed follows]
  split
  · rfl
  · rename_i address known
    split
    · rename_i state adopts
      exact holds address known state adopts
    · rfl

/-- Another node is followed, or none because the node leads. -/
theorem settled_update_of_rejected (other : node.state.primary ≠ some sender)
    (placed : ¬(node.state.primary.isNone && !node.state.isPrimary)) :
    node.Settled now (.stateUpdate sender sum seqn timestamp) := by
  intro stats isNew
  have stays : (if (node.recount stats).state.primary.isNone &&
      !(node.recount stats).state.isPrimary then (node.recount stats).recognise sender
      else node.recount stats) = node.recount stats :=
    if_neg placed
  have rejects : (node.recount stats).state.primary ≠ some sender := other
  simp only [hear, hearUpdate, stays, if_pos rejects]
  rfl

theorem settled_hearUpdate (node : Node) :
    (node.hearUpdate sender sum seqn).1.Settled now (.stateUpdate sender sum seqn timestamp) := by
  unfold hearUpdate
  simp only
  generalize follower_eq : (if node.state.primary.isNone && !node.state.isPrimary then
    node.recognise sender else node) = follower
  split
  · rename_i other
    split at follower_eq
    · -- who follows nobody takes the sender for the primary, and rejects nothing
      exact absurd (follower_eq ▸ rfl) other
    · rename_i placed
      subst follower_eq
      exact settled_update_of_rejected other placed
  · rename_i follows
    have follows : follower.state.primary = some sender := Decidable.not_not.1 follows
    split
    · rename_i unknown
      exact settled_update_of_followed follows fun address known =>
        nomatch unknown.symm.trans known
    · split
      · rename_i adopted adopts
        have again := State.adopt?_of_adopt? adopts
        obtain rfl := State.of_adopt? adopts
        exact settled_update_of_followed follows fun _ _ state adopts =>
          Option.some.inj (adopts.symm.trans again)
      · rename_i stale
        exact settled_update_of_followed follows fun _ _ state adopts =>
          nomatch stale.symm.trans adopts

theorem settled_hearVictory (node : Node) :
    (node.hearVictory now sender sum seqn).1.Settled now (.victory sender sum seqn timestamp) := by
  have settled : ∀ next : Node, (next.state.follow sender).adopt sum seqn = next.state →
      next.Settled now (.victory sender sum seqn timestamp) := by
    intro next follows stats isNew
    simp only [hear, hearVictory]
    split
    · rfl
    · split
      · rfl
      · exact follows
  unfold hearVictory
  split
  · rename_i unknown
    intro stats isNew
    have unknown : (node.recount stats).addressOf? sender = none := unknown
    simp only [hear, hearVictory, unknown, state_recount]
  · split
    · rename_i lower
      intro stats isNew
      have lower : sender < (node.recount stats).id := lower
      simp only [hear, hearVictory, if_pos lower]
      split <;> rfl
    · refine settled _ ?_
      show (((node.state.follow sender).adopt sum seqn).follow sender).adopt sum seqn = _
      rw [State.follow_adopt]
      exact State.adopt_adopt (node.state.follow sender) sum seqn

end Updates

/-! ## Acknowledgements -/

section Acks

variable {node : Node} {now : Int} {sender : NodeId} {sum : Int64} {seqn : Seqn}

/-- The number is on record, or the node has not reached it. -/
def HasNoted (node : Node) (id : NodeId) (seqn : Seqn) : Prop :=
  seqn ≤ node.state.seqn → (node.recordAck id seqn).state = node.state

theorem hasNoted_recordAck (node : Node) (id : NodeId) (seqn : Seqn) :
    (node.recordAck id seqn).HasNoted id seqn := by
  intro _
  have again := Directory.recordAck_recordAck node.state.directory id seqn
  show { node.state with
    directory := (node.state.directory.recordAck id seqn).recordAck id seqn } = _
  rw [again]
  rfl

theorem settled_hearAck (node : Node) :
    (node.hearAck sender seqn).Settled now (.stateAck sender seqn) := by
  have settled : ∀ next : Node, next.HasNoted sender seqn →
      next.Settled now (.stateAck sender seqn) := by
    intro next noted stats isNew
    simp only [hear, hearAck]
    split
    · rfl
    · rename_i reached
      exact noted (UInt64.not_lt.1 reached)
  unfold hearAck
  split
  · rename_i unreached
    exact settled _ fun reached => absurd unreached (UInt64.not_lt.2 reached)
  · exact settled _ (hasNoted_recordAck node sender seqn)

theorem settled_hearVictoryAck (node : Node) :
    (node.hearVictoryAck sender sum seqn).Settled now (.victoryAck sender sum seqn) := by
  have settled : ∀ next : Node, (next.state.isPrimary = true → seqn ≤ next.state.seqn) →
      next.HasNoted sender seqn → next.Settled now (.victoryAck sender sum seqn) := by
    intro next reached noted stats isNew
    have notNewer : ¬((next.recount stats).state.isPrimary = true ∧
        (next.recount stats).state.seqn < seqn) :=
      fun newer => UInt64.not_lt.2 (reached newer.1) newer.2
    simp only [hear, hearVictoryAck, if_neg notNewer]
    split
    · rename_i reached
      exact noted reached
    · rfl
  have reached : (node.hearVictoryAck sender sum seqn).state.isPrimary = true →
      seqn ≤ (node.hearVictoryAck sender sum seqn).state.seqn :=
    fun leads => keeps_hearVictoryAck.2 (keeps_hearVictoryAck.1.leads.symm.trans leads)
  refine settled _ reached ?_
  unfold hearVictoryAck
  simp only
  generalize (if node.state.isPrimary ∧ node.state.seqn < seqn then
    { node with state := node.state.adopt sum seqn } else node) = hearer
  split
  · exact hasNoted_recordAck hearer sender seqn
  · rename_i unreached
    exact fun reached => absurd reached unreached

end Acks

/-! ## Lists -/

section Lists

variable {node : Node} {now : Int} {sender : NodeId} {primary : Option NodeId}
  {entries : List PeerEntry}

/-- The entries are merged, and the primary is the node's or does not convince it. -/
theorem settled_list
    (merged : (node.state.directory.merge node.id entries now).1 = node.state.directory)
    (unconvinced : ∀ named, primary = some named →
      node.learnPrimary? now sender named = none) :
    node.Settled now (.replicaList sender primary entries) := by
  intro stats isNew
  have merges : (node.recount stats).mergeEntries entries now = node.recount stats := by
    show { node with
      state.directory := (node.state.directory.merge node.id entries now).1, stats } = _
    rw [merged]
    rfl
  simp only [hear, hearReplicaList, merges]
  split
  · rfl
  · rename_i named
    have reason := learnPrimary?_eq_none_iff.1 (unconvinced named rfl)
    have unconvinced : (node.recount stats).learnPrimary? now sender named = none :=
      learnPrimary?_eq_none_iff.2 reason
    simp only [unconvinced, state_recount]

theorem settled_hearReplicaList (node : Node) (primary : Option NodeId) :
    (node.hearReplicaList now sender primary entries).1.Settled now
      (.replicaList sender primary entries) := by
  have merged := Directory.merge_merge node.state.directory node.id entries now
  unfold hearReplicaList
  split
  · exact settled_list merged nofun
  · rename_i named
    simp only
    split
    · rename_i unconvinced
      refine settled_list merged fun _ same => ?_
      obtain rfl := Option.some.inj same
      exact unconvinced
    · rename_i learner learns
      -- the named node is the primary now, and so it does not convince a second time
      rcases of_learnPrimary? learns with rfl | rfl <;>
        exact settled_list merged fun _ same => learnPrimary?_eq_none_iff.2 (.inr (.inl same))

end Lists

theorem settled_hearResponse (node : Node) (now : Int) (sender : NodeId) (timestamp : UInt64) :
    (node.hearResponse sender).Settled now (.electionResponse sender timestamp) := by
  intro stats isNew
  unfold hear hearResponse
  by_cases higher : node.id < sender
  · have again : ((node.standDown).recount stats).id < sender := higher
    simp only [if_pos higher, if_pos again]
    rfl
  · have again : ¬(node.recount stats).id < sender := higher
    simp only [if_neg higher, if_neg again, state_recount]

/-- A message that was handled leaves the state as it is. -/
theorem settled_hear (node : Node) (now : Int) (isNew : Bool) (message : Message) :
    (node.hear now isNew message).1.Settled now message := by
  cases message with
  | heartbeat => exact settled_hearHeartbeat node
  | joinRequest => exact settled_hearJoinRequest node isNew
  | stateUpdate => exact settled_hearUpdate node
  | stateAck => exact settled_hearAck node
  | replicaList => exact settled_hearReplicaList node _
  | startElection => exact fun _ _ => rfl
  | electionResponse sender => exact settled_hearResponse node now sender _
  | victory => exact settled_hearVictory node
  | victoryAck => exact settled_hearVictoryAck node

/-! ## The sender -/

section Greeted

variable {node : Node} {now : Int} {sender : NodeId} {source : Address}

theorem greeted_meet (node : Node) (now : Int) (sender : NodeId) (source : Address) :
    (node.meet now sender source).state.directory.Greeted sender source now := by
  unfold meet
  cases registered : node.state.directory.register sender source now with
  | ok directory => exact Directory.greeted_register registered
  | error error => exact Directory.greeted_of_register_error registered

/-- To meet somebody again changes the counts only. -/
theorem state_meet_of_greeted (greeted : node.state.directory.Greeted sender source now) :
    (node.meet now sender source).state = node.state := by
  unfold meet
  rcases greeted.register with registered | ⟨error, fails⟩
  · rw [registered]
  · rw [fails]

theorem grows_hear (node : Node) (now : Int) (isNew : Bool) (message : Message) :
    node.state.directory.Grows (node.hear now isNew message).1.state.directory := by
  have notes := notes_hear node now isNew message
  generalize (node.hear now isNew message).1.state.directory = later at notes ⊢
  cases notes with
  | nothing => exact .refl _
  | ack seqn => exact Directory.grows_mapRecords _ _
  | @join directory _ joins =>
    have joined := (Directory.learns_recordJoin? joins).grows
    cases marked : directory.markAlive? node.id now with
    | none => exact joined
    | some later => exact joined.trans (Directory.learns_markAlive? marked).grows
  | entries => exact (Directory.learns_merge _ _ _ _).grows

/-- What a node hears right after it has met somebody is no older. -/
theorem greeted_hear (greeted : node.state.directory.Greeted sender source now) (isNew : Bool)
    (message : Message) :
    (node.hear now isNew message).1.state.directory.Greeted sender source now := by
  refine Directory.Settles.of_grows greeted (grows_hear node now isNew message) fun knows => ?_
  refine all_hear greeted.record ⟨?_, ?_, ?_, fun entry _ _ => ⟨?_, fun unknown same => ?_⟩⟩ isNew
  · exact fun record _ known same => ⟨(known same).1, rfl, rfl⟩
  · exact fun record _ known => known
  · exact fun record known => known
  · intro record _ known newer same
    have heard : record.lastHeard = now := (known same).2.2
    unfold Directory.heardAt at newer
    omega
  · have same : entry.id = sender := same
    rw [same, knows] at unknown
    exact nomatch unknown

end Greeted

/-! ## Bursts -/

/-- The second copy of a message leaves the state as the first one made it. -/
theorem state_handle_handle (node : Node) (now : Int) (message : Message) (source : Address) :
    ((node.handle now message source).1.handle now message source).1.state =
      (node.handle now message source).1.state := by
  by_cases own : message.sender = node.id
  · have ignored : node.handle now message source = (node, .none) := if_pos own
    simp only [ignored]
  · have heard : node.handle now message source = (node.meet now message.sender source).hear now
        (!node.state.directory.contains message.sender) message :=
      if_neg own
    have greeted := greeted_meet node now message.sender source
    have greeted := greeted_hear greeted (!node.state.directory.contains message.sender) message
    have settled := settled_hear (node.meet now message.sender source) now
      (!node.state.directory.contains message.sender) message
    have standing := (changes_handle node now message source).standing_eq
    rw [← heard] at greeted settled
    -- from here on only what the first copy has brought about counts, not how it did
    generalize (node.handle now message source).1 = next at greeted settled standing
    have id : next.id = node.id := congrArg (·.1) standing
    have again : next.handle now message source = (next.meet now message.sender source).hear now
        (!next.state.directory.contains message.sender) message :=
      if_neg (id ▸ own)
    have met : next.meet now message.sender source =
        next.recount (next.meet now message.sender source).stats := by
      show { next with
        state := (next.meet now message.sender source).state
        stats := (next.meet now message.sender source).stats } = _
      rw [state_meet_of_greeted greeted]
      rfl
    rw [again, met]
    exact settled _ _

/-- The node after it has handled a number of copies of a message at the same instant. -/
def handleCopies (node : Node) (now : Int) (message : Message) (source : Address) : Nat → Node
  | 0 => node
  | copies + 1 => ((node.handleCopies now message source copies).handle now message source).1

/-- However many copies of a message a node handles at the same instant, its state is as after the
first one. -/
theorem copies_harmless (node : Node) (now : Int) (message : Message) (source : Address)
    (copies : Nat) :
    (node.handleCopies now message source (copies + 1)).state =
      (node.handle now message source).1.state := by
  induction copies with
  | zero => rfl
  | succ copies ih =>
    exact (state_handle_handle (node.handleCopies now message source copies) now message
      source).trans ih

end Node

end SumCluster
