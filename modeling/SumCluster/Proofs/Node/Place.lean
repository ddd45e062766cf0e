import SumCluster.Proofs.Node.Change
import SumCluster.Proofs.Node.Yielding

/-!
# The place of a node

Whatever a node hears, it keeps its place in the cluster or falls in behind a leader, and for the
latter there are four reasons (`Node.Place`):

* a heartbeat or a claim of a node that it knows;
* an update, if it has followed nobody so far;
* a list in which its sender names itself;
* a list in which another node is named, if the primary that it follows is not alive.

So a node that still leads afterwards has kept the primary that it takes itself for
(`Node.Place.primary_eq`).
-/

namespace SumCluster

namespace Node

theorem Keeps.refl (node : Node) : node.Keeps node :=
  ⟨rfl, rfl, rfl⟩

theorem Keeps.trans {node middle next : Node} (first : node.Keeps middle)
    (second : middle.Keeps next) : node.Keeps next :=
  ⟨second.leads.trans first.leads, second.primary.trans first.primary,
    second.stepDowns.trans first.stepDowns⟩

/-- The place of a node after it has heard a message, and the reason if it is another one. -/
inductive Place (node : Node) (now : Int) (message : Message) (next : Node) : Prop
  | kept (keeps : node.Keeps next)
  /-- The sender leads, and the node knows it. -/
  | behindSender (yields : node.Yields next message.sender)
      (knows : next.state.directory.contains message.sender = true)
  /-- The node has followed nobody before. -/
  | behindFirst (backup : node.state.isPrimary = false) (unled : node.state.primary = none)
      (yields : node.Yields next message.sender)
  /-- The sender names itself in its list. -/
  | behindAnnounced {entries : List PeerEntry}
      (list : message = .replicaList message.sender (some message.sender) entries)
      (yields : node.Yields next message.sender)
  /-- The sender names another node in its list, and the primary of the node is not alive. -/
  | behindNamed {primary : NodeId} {entries : List PeerEntry}
      (list : message = .replicaList message.sender (some primary) entries)
      (other : message.sender ≠ primary) (backup : node.state.isPrimary = false)
      (lost : (node.mergeEntries entries now).hasLivePrimary now = false)
      (yields : node.Yields next primary)

/-- A node that leads after it has heard a message has kept its primary. -/
theorem Place.primary_eq {node next : Node} {now : Int} {message : Message}
    (place : node.Place now message next) (leads : next.state.isPrimary = true) :
    next.state.primary = node.state.primary := by
  cases place with
  | kept keeps => exact keeps.primary
  | behindSender yields | behindFirst _ _ yields | behindAnnounced _ yields
  | behindNamed _ _ _ _ yields => simp [yields.follows] at leads

/-! ## Messages that change no place -/

section Keeping

variable (node : Node) (now : Int) (sender : NodeId)

theorem keeps_refreshSelf : node.Keeps (node.refreshSelf now) := by
  unfold refreshSelf
  split <;> exact ⟨rfl, rfl, rfl⟩

theorem keeps_of_admit? {next : Node} (admits : node.admit? now sender = some next) :
    node.Keeps next := by
  obtain ⟨directory, -, rfl⟩ := Option.map_eq_some_iff.1 admits
  exact ⟨rfl, rfl, rfl⟩

theorem keeps_hearJoinRequest (isNew : Bool) :
    node.Keeps (node.hearJoinRequest now sender isNew).1 := by
  unfold hearJoinRequest
  split
  · rename_i admitted _ admits
    have keeps : node.Keeps (Node.refreshSelf admitted now) :=
      (keeps_of_admit? node now sender admits).trans (keeps_refreshSelf admitted now)
    simp only
    split
    · exact ⟨keeps.leads, keeps.primary, keeps.stepDowns⟩
    · exact keeps
  · exact .refl node

theorem keeps_hearResponse : node.Keeps (node.hearResponse sender) := by
  unfold hearResponse
  split <;> exact ⟨rfl, rfl, rfl⟩

/-- An answer to a challenge changes nobody's place and is not answered itself. -/
theorem handle_response {node next : Node} {now : Int} {sender : NodeId} {timestamp : UInt64}
    {source : Address} {effects : Effects}
    (handled : node.handle now (.electionResponse sender timestamp) source = (next, effects)) :
    node.Keeps next ∧ effects = .none := by
  unfold handle at handled
  split at handled
  · obtain ⟨rfl, rfl⟩ := Prod.mk.inj handled
    exact ⟨.refl node, rfl⟩
  · obtain ⟨rfl, rfl⟩ := Prod.mk.inj handled
    exact ⟨(keeps_hearResponse (node.meet now sender source) sender).of_meet, rfl⟩

end Keeping

/-! ## Whom a list convinces -/

section Convinced

variable {node : Node} {now : Int} {sender : NodeId}

/-- A list does not convince a node if it names the node itself or the primary that the node has, if
the node leads and the list is not a higher node's own, or if the node has a live primary and the
list is not that of the named node. -/
theorem learnPrimary?_eq_none_iff {primary : NodeId} :
    node.learnPrimary? now sender primary = none ↔
      primary = node.id ∨ node.state.primary = some primary ∨
        node.state.isPrimary = true ∧ ¬(node.id < primary ∧ sender = primary) ∨
        node.state.isPrimary = false ∧ sender ≠ primary ∧ node.hasLivePrimary now = true := by
  unfold learnPrimary?
  by_cases known : primary = node.id ∨ node.state.primary = some primary
  · rw [if_pos known]
    rcases known with itself | follows
    · simp [itself]
    · simp [follows]
  · rw [if_neg known]
    rw [not_or] at known
    cases node.state.isPrimary with
    | true => by_cases wins : node.id < primary ∧ sender = primary <;> simp [known, wins]
    | false => simp [known]

theorem of_learnPrimary? {next : Node} {primary : NodeId}
    (learns : node.learnPrimary? now sender primary = some next) :
    next = node.follow primary ∨ next = node.recognise primary := by
  unfold learnPrimary? at learns
  split at learns
  · exact nomatch learns
  · split at learns
    · split at learns
      · exact .inl (Option.some.inj learns).symm
      · exact nomatch learns
    · split at learns
      · exact nomatch learns
      · exact .inr (Option.some.inj learns).symm

end Convinced

/-! ## Each message -/

section Places

variable (node : Node) (now : Int) (sender : NodeId)

theorem contains_of_addressOf? {node : Node} {id : NodeId} {address : Address}
    (known : node.addressOf? id = some address) : node.state.directory.contains id = true := by
  obtain ⟨record, found, -⟩ := Option.map_eq_some_iff.1 known
  exact Option.isSome_iff_exists.2 ⟨record, found⟩

theorem yields_recognise {node : Node} (backup : node.state.isPrimary = false)
    (primary : NodeId) : node.Yields (node.recognise primary) primary :=
  ⟨backup, rfl, by simp [recognise, backup]⟩

theorem place_hearHeartbeat (sum : Int64) (seqn : Seqn) (timestamp : UInt64) :
    node.Place now (.heartbeat sender sum seqn timestamp)
      (node.hearHeartbeat now sender sum seqn).1 := by
  have reacts : Changes (.heard (.heartbeat sender sum seqn timestamp)) node
      (node.hearHeartbeat now sender sum seqn).1 :=
    changes_hearHeartbeat node now sender rfl
  revert reacts
  unfold hearHeartbeat
  split
  · exact fun _ => .kept (.refl node)
  · rename_i known
    split
    · rename_i heeds
      obtain ⟨yields, -⟩ := yields_of_heed? heeds
      refine fun reacts => .behindSender ?_ (reacts.extends sender (contains_of_addressOf? known))
      exact (Yields.trans_keeps yields keeps_yieldTo).trans_keeps (keeps_catchUp sum seqn)
    · exact fun _ => .kept (.refl node)

/-- An update of the primary is taken over if it is not older than the own state. -/
theorem hearUpdate_of_followed {node : Node} {sender : NodeId}
    (follows : node.state.primary = some sender) (sum : Int64) (seqn : Seqn) :
    node.hearUpdate sender sum seqn =
      match node.addressOf? sender with
      | none => (node, .none)
      | some address =>
        match node.state.adopt? sum seqn with
        | some state => ({ node with state }, .reply address (node.stateAck seqn))
        | none =>
          ({ node with stats.staleUpdatesIgnored := node.stats.staleUpdatesIgnored + 1 },
            { replies := [⟨address, node.victoryAck⟩, ⟨address, node.stateAck seqn⟩] }) := by
  have stays : (if node.state.primary.isNone && !node.state.isPrimary then node.recognise sender
      else node) = node :=
    if_neg (by simp [follows])
  unfold hearUpdate
  simp only [stays]
  exact if_neg fun other => other follows

theorem place_hearUpdate (sum : Int64) (seqn : Seqn) (timestamp : UInt64) :
    node.Place now (.stateUpdate sender sum seqn timestamp)
      (node.hearUpdate sender sum seqn).1 := by
  unfold hearUpdate
  simp only
  generalize follower_eq : (if node.state.primary.isNone && !node.state.isPrimary then
    node.recognise sender else node) = follower
  -- whatever comes of the update, the place is that of the follower
  have place : ∀ next, follower.Keeps next →
      node.Place now (.stateUpdate sender sum seqn timestamp) next := by
    intro next keeps
    split at follower_eq
    · rename_i first
      subst follower_eq
      simp only [Bool.and_eq_true, Option.isNone_iff_eq_none, Bool.not_eq_true'] at first
      exact .behindFirst first.2 first.1 ((yields_recognise first.2 sender).trans_keeps keeps)
    · subst follower_eq
      exact .kept keeps
  split
  · exact place _ ⟨rfl, rfl, rfl⟩
  · split
    · exact place _ (.refl follower)
    · split
      · rename_i adopts
        unfold State.adopt? at adopts
        split at adopts
        · simp at adopts
        · obtain rfl := Option.some.inj adopts
          exact place _ ⟨rfl, rfl, rfl⟩
      · exact place _ ⟨rfl, rfl, rfl⟩

theorem place_hearReplicaList (primary : Option NodeId) (entries : List PeerEntry) :
    node.Place now (.replicaList sender primary entries)
      (node.hearReplicaList now sender primary entries).1 := by
  have merges : node.Keeps (node.mergeEntries entries now) := ⟨rfl, rfl, rfl⟩
  unfold hearReplicaList
  split
  · exact .kept merges
  · rename_i primary
    simp only
    split
    · exact .kept merges
    · rename_i learner learns
      unfold learnPrimary? at learns
      split at learns
      · simp at learns
      · split at learns
        · split at learns
          · rename_i outranked
            obtain ⟨-, rfl⟩ := outranked
            obtain rfl := Option.some.inj learns
            exact .behindAnnounced rfl ⟨rfl, rfl, rfl⟩
          · simp at learns
        · rename_i follows
          have backup : node.state.isPrimary = false := Bool.eq_false_iff.2 follows
          split at learns
          · simp at learns
          · rename_i convinced
            obtain rfl := Option.some.inj learns
            have yields : node.Yields ((node.mergeEntries entries now).recognise primary) primary :=
              ⟨backup, rfl, (yields_recognise backup primary).stepDowns⟩
            by_cases same : sender = primary
            · subst same
              exact .behindAnnounced rfl yields
            · refine .behindNamed rfl same backup ?_ yields
              simpa [same] using convinced

theorem place_hearVictory (sum : Int64) (seqn : Seqn) (timestamp : UInt64) :
    node.Place now (.victory sender sum seqn timestamp)
      (node.hearVictory now sender sum seqn).1 := by
  have reacts : Changes (.heard (.victory sender sum seqn timestamp)) node
      (node.hearVictory now sender sum seqn).1 :=
    changes_hearVictory node now sender rfl
  revert reacts
  unfold hearVictory
  split
  · exact fun _ => .kept (.refl node)
  · rename_i known
    split
    · exact fun _ => .kept (.refl node)
    · have stays : node.Yields
          { node.follow sender with state := (node.follow sender).state.adopt sum seqn } sender :=
        Yields.trans_keeps ⟨rfl, rfl, rfl⟩ (keeps_adopt sum seqn)
      exact fun reacts => .behindSender stays
        (reacts.extends sender (contains_of_addressOf? known))

theorem place_hear (isNew : Bool) (message : Message) :
    node.Place now message (node.hear now isNew message).1 := by
  cases message with
  | heartbeat sender sum seqn => exact place_hearHeartbeat node now sender sum seqn _
  | joinRequest sender => exact .kept (keeps_hearJoinRequest node now sender isNew)
  | stateUpdate sender sum seqn => exact place_hearUpdate node now sender sum seqn _
  | stateAck => exact .kept keeps_hearAck
  | replicaList sender primary replicas =>
    exact place_hearReplicaList node now sender primary replicas
  | startElection => exact .kept (.refl node)
  | electionResponse sender => exact .kept (keeps_hearResponse node sender)
  | victory sender sum seqn => exact place_hearVictory node now sender sum seqn _
  | victoryAck => exact .kept keeps_hearVictoryAck.1

end Places

end Node

end SumCluster
