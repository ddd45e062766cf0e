import SumCluster.Proofs.Directory.Learning
import SumCluster.Proofs.Message
import SumCluster.Proofs.Node.Deed

/-!
# What deeds are made of

A node reacts to a message by a few small changes, one after the other (`Node.Change`), and so it
does most of what it does of its own accord.  The other two deeds are to take the lead and to apply
a write (`Node.Outcome`).  This is shown here once for all handlers (`Node.Deed.outcome`); what
deeds keep is then a matter of the small changes.
-/

namespace SumCluster

namespace Node

/-- A small change of a node that has a cause to act. -/
inductive Change (cause : Cause) (node : Node) : Node → Prop
  /-- It falls in behind a leader. -/
  | follow (leader : NodeId) : Change cause node (node.follow leader)
  /-- It takes another node for the primary. -/
  | recognise (primary : NodeId) : Change cause node (node.recognise primary)
  /-- Its election begins or ends. -/
  | elect (election : Election) : Change cause node { node with state.election := election }
  /-- Its directory learns something. -/
  | learn {directory : Directory} (learns : node.state.directory.Learns directory) :
    Change cause node { node with state.directory := directory }
  /-- It counts something other than a won election and a lead that ends. -/
  | count {stats : Stats} (won : stats.electionsWon = node.stats.electionsWon)
      (begun : node.stats.electionsStarted ≤ stats.electionsStarted)
      (ended : stats.stepDowns = node.stats.stepDowns) :
    Change cause node { node with stats }
  /-- It takes over the state in a message, whose number is not lower. -/
  | adopt {message : Message} {sum : Int64} {seqn : Seqn} (heard : cause = .heard message)
      (offered : message.state? = some (sum, seqn)) (notLower : node.state.seqn ≤ seqn) :
    Change cause node
      { node with state := { node.state with sum := sum, seqn := seqn, hasInitial := true } }
  /-- It notes the number that a message acknowledges, having reached it itself. -/
  | note {message : Message} {seqn : Seqn} (heard : cause = .heard message)
      (acknowledged : message.acknowledged? = some seqn) (reached : seqn ≤ node.state.seqn) :
    Change cause node (node.recordAck message.sender seqn)

/-- Several small changes with one cause. -/
def Changes (cause : Cause) : Node → Node → Prop :=
  Relation.ReflTransGen (Change cause)

theorem Changes.refl (cause : Cause) (node : Node) : Changes cause node node :=
  Relation.ReflTransGen.refl

theorem Changes.trans {cause : Cause} {node middle next : Node}
    (first : Changes cause node middle) (second : Changes cause middle next) :
    Changes cause node next :=
  Relation.ReflTransGen.trans first second

theorem Changes.single {cause : Cause} {node next : Node} (change : Change cause node next) :
    Changes cause node next :=
  Relation.ReflTransGen.single change

/-! ## Steps of handlers -/

section Steps

variable {cause : Cause} {node next : Node} {now : Int} {sender : NodeId}

theorem changes_adopt (node : Node) {message : Message} {sum : Int64} {seqn : Seqn}
    (offered : message.state? = some (sum, seqn)) :
    Changes (.heard message) node { node with state := node.state.adopt sum seqn } := by
  unfold State.adopt State.adopt?
  split
  · exact .refl _ node
  · rename_i notLower
    exact .single (.adopt rfl offered (UInt64.not_lt.1 notLower))

/-- Who heeds a sender falls in behind it, follows it already, or takes it for the primary. -/
theorem cases_of_heed? (heeds : node.heed? now sender = some next) :
    next = node.follow sender ∨ next = node ∨ next = node.recognise sender := by
  unfold heed? at heeds
  split at heeds
  · split at heeds
    · simp at heeds
    · exact .inl (Option.some.inj heeds).symm
  · split at heeds
    · exact .inr (.inl (Option.some.inj heeds).symm)
    · split at heeds
      · simp at heeds
      · exact .inr (.inr (Option.some.inj heeds).symm)

theorem changes_of_heed? (heeds : node.heed? now sender = some next) :
    Changes cause node next := by
  rcases cases_of_heed? heeds with rfl | rfl | rfl
  · exact .single (.follow sender)
  · exact .refl _ next
  · exact .single (.recognise sender)

theorem changes_yieldTo (node : Node) (sender : NodeId) :
    Changes cause node (node.yieldTo sender) := by
  unfold yieldTo
  split
  · exact .single (.elect .idle)
  · exact .refl _ node

theorem changes_catchUp (node : Node) {message : Message} {sum : Int64} {seqn : Seqn}
    (offered : message.state? = some (sum, seqn)) :
    Changes (.heard message) node (node.catchUp sum seqn) := by
  unfold catchUp
  split
  · exact changes_adopt node offered
  · exact .refl _ node

theorem changes_of_admit? (admits : node.admit? now sender = some next) :
    Changes cause node next := by
  obtain ⟨directory, joins, rfl⟩ := Option.map_eq_some_iff.1 admits
  exact .single (.learn (Directory.learns_recordJoin? joins))

theorem changes_refreshSelf (node : Node) (now : Int) :
    Changes cause node (node.refreshSelf now) := by
  unfold refreshSelf
  split
  · rename_i marked
    exact .single (.learn (Directory.learns_markAlive? marked))
  · exact .refl _ node

theorem changes_mergeEntries (node : Node) (entries : List PeerEntry) (now : Int) :
    Changes cause node (node.mergeEntries entries now) :=
  .single (.learn (Directory.learns_merge _ node.id entries now))

/-- Who learns of a primary falls in behind it, or takes it for the primary. -/
theorem cases_of_learnPrimary? {primary : NodeId}
    (learns : node.learnPrimary? now sender primary = some next) :
    next = node.follow primary ∨ next = node.recognise primary := by
  unfold learnPrimary? at learns
  split at learns
  · simp at learns
  · split at learns
    · split at learns
      · exact .inl (Option.some.inj learns).symm
      · simp at learns
    · split at learns
      · simp at learns
      · exact .inr (Option.some.inj learns).symm

theorem changes_of_learnPrimary? {primary : NodeId}
    (learns : node.learnPrimary? now sender primary = some next) : Changes cause node next := by
  rcases cases_of_learnPrimary? learns with rfl | rfl
  · exact .single (.follow primary)
  · exact .single (.recognise primary)

theorem changes_meet (node : Node) (now : Int) (sender : NodeId) (source : Address) :
    Changes cause node (node.meet now sender source) := by
  unfold meet
  simp only
  split
  · rename_i registered
    exact (Changes.single (.learn (Directory.learns_register registered))).trans
      (.single (.count rfl (Nat.le_refl _) rfl))
  · exact .single (.count rfl (Nat.le_refl _) rfl)

end Steps

/-! ## Handlers -/

section Handlers

variable (node : Node) (now : Int) (sender : NodeId)

theorem changes_hearHeartbeat {message : Message} {sum : Int64} {seqn : Seqn}
    (offered : message.state? = some (sum, seqn)) :
    Changes (.heard message) node (node.hearHeartbeat now sender sum seqn).1 := by
  unfold hearHeartbeat
  split
  · exact .refl _ node
  · split
    · rename_i heeder heeds
      have yields : Changes (.heard message) node (heeder.yieldTo sender) :=
        (changes_of_heed? heeds).trans (changes_yieldTo heeder sender)
      exact yields.trans (changes_catchUp _ offered)
    · exact .refl _ node

theorem changes_hearJoinRequest {cause : Cause} (isNew : Bool) :
    Changes cause node (node.hearJoinRequest now sender isNew).1 := by
  unfold hearJoinRequest
  split
  · rename_i admitted _ admits
    have fresh : Changes cause node (Node.refreshSelf admitted now) :=
      (changes_of_admit? admits).trans (changes_refreshSelf admitted now)
    simp only
    split
    · exact fresh.trans (.single (.count rfl (Nat.le_refl _) rfl))
    · exact fresh
  · exact .refl _ node

theorem changes_hearUpdate {message : Message} {sum : Int64} {seqn : Seqn}
    (offered : message.state? = some (sum, seqn)) :
    Changes (.heard message) node (node.hearUpdate sender sum seqn).1 := by
  unfold hearUpdate
  simp only
  generalize follower_eq : (if node.state.primary.isNone && !node.state.isPrimary then
    node.recognise sender else node) = follower
  have recognises : Changes (.heard message) node follower := by
    rw [← follower_eq]
    split
    · exact .single (.recognise sender)
    · exact .refl _ node
  split
  · exact recognises.trans (.single (.count rfl (Nat.le_refl _) rfl))
  · split
    · exact recognises
    · split
      · rename_i adopts
        unfold State.adopt? at adopts
        split at adopts
        · simp at adopts
        · rename_i notLower
          obtain rfl := Option.some.inj adopts
          exact recognises.trans (.single (.adopt rfl offered (UInt64.not_lt.1 notLower)))
      · exact recognises.trans (.single (.count rfl (Nat.le_refl _) rfl))

theorem changes_hearAck {message : Message} {seqn : Seqn}
    (acknowledged : message.acknowledged? = some seqn) :
    Changes (.heard message) node (node.hearAck message.sender seqn) := by
  unfold hearAck
  split
  · exact .refl _ node
  · rename_i reached
    exact .single (.note rfl acknowledged (UInt64.not_lt.1 reached))

theorem changes_hearReplicaList {cause : Cause} (primary : Option NodeId)
    (entries : List PeerEntry) :
    Changes cause node (node.hearReplicaList now sender primary entries).1 := by
  have merges : Changes cause node (node.mergeEntries entries now) :=
    changes_mergeEntries node entries now
  unfold hearReplicaList
  split
  · exact merges
  · simp only
    split
    · exact merges
    · rename_i learns
      exact merges.trans (changes_of_learnPrimary? learns)

theorem changes_hearResponse {cause : Cause} :
    Changes cause node (node.hearResponse sender) := by
  unfold hearResponse
  split
  · exact .single (.elect .idle)
  · exact .refl _ node

theorem changes_hearVictory {message : Message} {sum : Int64} {seqn : Seqn}
    (offered : message.state? = some (sum, seqn)) :
    Changes (.heard message) node (node.hearVictory now sender sum seqn).1 := by
  unfold hearVictory
  split
  · exact .refl _ node
  · split
    · exact .refl _ node
    · exact (Changes.single (.follow sender)).trans (changes_adopt (node.follow sender) offered)

theorem changes_hearVictoryAck {message : Message} {sum : Int64} {seqn : Seqn}
    (offered : message.state? = some (sum, seqn))
    (acknowledged : message.acknowledged? = some seqn) :
    Changes (.heard message) node (node.hearVictoryAck message.sender sum seqn) := by
  unfold hearVictoryAck
  simp only
  generalize hearer_eq : (if node.state.isPrimary ∧ node.state.seqn < seqn then
    { node with state := node.state.adopt sum seqn } else node) = hearer
  have adopts : Changes (.heard message) node hearer := by
    rw [← hearer_eq]
    split
    · exact changes_adopt node offered
    · exact .refl _ node
  split
  · rename_i reached
    exact adopts.trans (.single (.note rfl acknowledged reached))
  · exact adopts

theorem changes_hear (isNew : Bool) (message : Message) :
    Changes (.heard message) node (node.hear now isNew message).1 := by
  cases message with
  | heartbeat sender => exact changes_hearHeartbeat node now sender rfl
  | joinRequest sender => exact changes_hearJoinRequest node now sender isNew
  | stateUpdate sender => exact changes_hearUpdate node sender rfl
  | stateAck => exact changes_hearAck node rfl
  | replicaList sender primary replicas =>
    exact changes_hearReplicaList node now sender primary replicas
  | startElection => exact .refl _ node
  | electionResponse sender => exact changes_hearResponse node sender
  | victory sender => exact changes_hearVictory node now sender rfl
  | victoryAck => exact changes_hearVictoryAck node rfl rfl

/-- Whatever a node hears, it reacts by small changes. -/
theorem changes_handle (message : Message) (source : Address) :
    Changes (.heard message) node (node.handle now message source).1 := by
  unfold handle
  split
  · exact .refl _ node
  · exact (changes_meet node now message.sender source).trans (changes_hear _ now _ message)

theorem changes_of_handled {node next : Node} {now : Int} {message : Message} {source : Address}
    {effects : Effects} (handled : node.handle now message source = (next, effects)) :
    Changes (.heard message) node next := by
  have changes := changes_handle node now message source
  rwa [handled] at changes

end Handlers

/-! ## Deeds -/

/-- What a deed comes to. -/
inductive Outcome (node : Node) : Cause → Node → Prop
  | heard {message : Message} {next : Node} (changes : Changes (.heard message) node next) :
    Outcome node (.heard message) next
  | own {next : Node} (changes : Changes .own node next) : Outcome node .own next
  /-- A contender takes the lead. -/
  | claimed (contends : node.state.election.isElecting = true) :
    Outcome node .own
      { node with
        state := node.state.becomePrimary
        stats.electionsWon := node.stats.electionsWon + 1 }
  /-- A primary applies a write, under a number that it has not reached. -/
  | wrote (delta : Int64) {seqn : Seqn} (leads : node.state.isPrimary = true)
      (higher : node.state.seqn < seqn) :
    Outcome node (.wrote (node.state.sum + delta) seqn)
      { node with
        state := node.state.apply delta seqn
        stats.updatesReplicated := node.stats.updatesReplicated + 1 }

theorem Deed.outcome {node next : Node} {now : Int} {cause : Cause} {letters : List Letter}
    (deed : node.Deed now cause next letters) : node.Outcome cause next := by
  cases deed with
  | hear message source => exact .heard (changes_handle node now message source)
  | drop => exact .own (.single (.count rfl (Nat.le_refl _) rfl))
  | giveUp => exact .own (.single (.elect .idle))
  | join | discover => exact .own (.refl _ node)
  | beat tick =>
    unfold Node.beat
    split
    · exact .own (.refl _ node)
    · have expires : Changes .own node (node.expireSilent now) :=
        .single (.learn (Directory.learns_expire _ node.id now node.config.primaryTimeout))
      exact .own (expires.trans (.single (.count rfl (Nat.le_refl _) rfl)))
  | contend opens =>
    obtain ⟨-, -, rfl⟩ := of_openElection? opens
    exact .own ((Changes.single (.elect (.electing now))).trans
      (.single (.count rfl (Nat.le_succ _) rfl)))
  | claim claims =>
    obtain ⟨contends, rfl, -⟩ := of_claimVictory? claims
    exact .claimed contends
  | @write delta _ _ write starts =>
    obtain ⟨leads, higher, applied⟩ := applied_of_startWrite starts
    obtain ⟨rfl, same⟩ := Prod.mk.inj applied
    have sum_eq : write.sum = node.state.sum + delta := congrArg AppliedWrite.sum same
    rw [sum_eq]
    exact .wrote delta leads higher
  | look seqn deadline =>
    unfold pollAcks
    simp only
    split
    · exact .own (.refl _ node)
    · split
      · exact .own (.single (.count rfl (Nat.le_refl _) rfl))
      · exact .own (.refl _ node)

/-! ## Records are never removed -/

theorem Change.extends {cause : Cause} {node next : Node} (change : Change cause node next) :
    node.state.directory.Extends next.state.directory := by
  cases change with
  | follow | recognise | elect | count | adopt => exact fun _ knows => knows
  | learn learns => exact learns.extends
  | note => exact fun id knows => (Directory.contains_adjust _ _ id _).trans knows

theorem Changes.extends {cause : Cause} {node next : Node} (changes : Changes cause node next) :
    node.state.directory.Extends next.state.directory := by
  induction changes with
  | refl => exact fun _ knows => knows
  | tail _ change ih => exact ih.trans change.extends

end Node

end SumCluster
