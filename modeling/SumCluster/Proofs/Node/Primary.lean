import SumCluster.Proofs.Config
import SumCluster.Proofs.Node.Integrity
import SumCluster.Proofs.Node.Records

/-!
# The record of the primary

A node boots with a record of itself and of the primary that it follows, and records are never
removed.  It comes to follow a node that it holds no record of in two ways only (`Node.Misleads`): it
follows nobody and hears an update of a node that its directory has no room for, or it hears a list
that names a node without a record.  Heartbeats and claims of such nodes are ignored.

* `Node.primary_known_or_misled`: the primary of a node is on record, or the node has been misled in
  one of these ways and its primary has had no record since.
* `Node.primary_without_record`: such an update makes a node follow a primary without a record.
-/

namespace SumCluster

namespace Node

/-- The primary that the node follows, if any, is on record. -/
def KnowsPrimary (node : Node) : Prop :=
  ∀ primary, node.state.primary = some primary → node.state.directory.contains primary = true

theorem knowsPrimary_of_create {config : Config} {address : Address} {now : Int} {node : Node}
    (created : create config address now = .ok node) : node.KnowsPrimary := by
  intro primary follows
  have knowsItself := contains_id_of_create created
  have knowsPeers := @contains_peer_of_create config address now node created
  have valid := isValid_of_create created
  obtain ⟨directory, rfl, -⟩ := of_create created
  cases role : config.role with
  | primary =>
    obtain rfl : config.id = primary := by simpa [State.boot, role] using follows
    exact knowsItself
  | backup =>
    have listed : config.primary = some primary := by simpa [State.boot, role] using follows
    obtain ⟨-, peer, mem, rfl⟩ := valid.exists_peer role listed
    exact knowsPeers mem

/-- The messages that can make a node follow somebody that it holds no record of. -/
inductive Misleads (node : Node) : Message → NodeId → Prop
  /-- A backup that follows nobody takes the sender of an update for the primary. -/
  | update {primary : NodeId} (sum : Int64) (seqn : Seqn) (timestamp : UInt64)
      (backup : node.state.isPrimary = false) (unled : node.state.primary = none) :
    Misleads node (.stateUpdate primary sum seqn timestamp) primary
  /-- A list names somebody. -/
  | list {primary : NodeId} (sender : NodeId) (entries : List PeerEntry) :
    Misleads node (.replicaList sender (some primary) entries) primary

/-! ## Messages of unknown nodes -/

section Unknown

variable (node : Node) (now : Int) {sender : NodeId}

theorem addressOf?_of_unknown {node : Node}
    (unknown : node.state.directory.contains sender = false) : node.addressOf? sender = none :=
  Option.map_eq_none_iff.2 (Option.isNone_iff_eq_none.1 (Option.isSome_eq_false_iff.1 unknown))

theorem keeps_hearHeartbeat_of_unknown (unknown : node.state.directory.contains sender = false)
    (sum : Int64) (seqn : Seqn) : node.Keeps (node.hearHeartbeat now sender sum seqn).1 := by
  unfold hearHeartbeat
  rw [addressOf?_of_unknown unknown]
  exact .refl node

theorem keeps_hearVictory_of_unknown (unknown : node.state.directory.contains sender = false)
    (sum : Int64) (seqn : Seqn) : node.Keeps (node.hearVictory now sender sum seqn).1 := by
  unfold hearVictory
  rw [addressOf?_of_unknown unknown]
  exact .refl node

/-- A list makes a node follow nobody but whom it names. -/
theorem primary_of_hearReplicaList {primary : Option NodeId} {entries : List PeerEntry}
    (changes : (node.hearReplicaList now sender primary entries).1.state.primary ≠
      node.state.primary) :
    primary = (node.hearReplicaList now sender primary entries).1.state.primary := by
  unfold hearReplicaList at changes ⊢
  split at changes
  · exact absurd rfl changes
  · rename_i primary
    simp only at changes ⊢
    split at changes
    · exact absurd rfl changes
    · rename_i learns
      rcases of_learnPrimary? learns with rfl | rfl <;> rfl

/-- A message of an unknown node that is neither an update nor a list is of no consequence. -/
theorem keeps_hear_of_unknown {message : Message}
    (unknown : node.state.directory.contains message.sender = false)
    (notUpdate : message.kind ≠ .stateUpdate) (notList : message.kind ≠ .replicaList)
    (isNew : Bool) : node.Keeps (node.hear now isNew message).1 := by
  cases message with
  | heartbeat sender sum seqn => exact keeps_hearHeartbeat_of_unknown node now unknown sum seqn
  | joinRequest sender => exact keeps_hearJoinRequest node now sender isNew
  | stateUpdate => exact absurd rfl notUpdate
  | stateAck => exact keeps_hearAck
  | replicaList => exact absurd rfl notList
  | startElection => exact .refl node
  | electionResponse sender => exact keeps_hearResponse node sender
  | victory sender sum seqn => exact keeps_hearVictory_of_unknown node now unknown sum seqn
  | victoryAck => exact keeps_hearVictoryAck.1

end Unknown

/-! ## Who is followed without a record -/

section Misled

variable {node : Node} {now : Int} {message : Message} {source : Address} {primary : NodeId}

theorem misleads_hear {isNew : Bool}
    (follows : (node.hear now isNew message).1.state.primary = some primary)
    (unknown : (node.hear now isNew message).1.state.directory.contains primary = false)
    (new : node.state.primary ≠ some primary) : node.Misleads message primary := by
  cases place_hear node now isNew message with
  | kept keeps => exact absurd (keeps.primary.symm.trans follows) new
  | behindSender yields knows =>
    obtain rfl := Option.some.inj (yields.primary.symm.trans follows)
    simp [unknown] at knows
  | behindFirst backup unled yields =>
    obtain rfl := Option.some.inj (yields.primary.symm.trans follows)
    have unmet : node.state.directory.contains message.sender = false :=
      Bool.eq_false_iff.2 fun knows => Bool.eq_false_iff.1 unknown
        ((changes_hear node now isNew message).extends _ knows)
    by_cases update : message.kind = .stateUpdate
    · cases message with
      | stateUpdate sender sum seqn timestamp => exact .update sum seqn timestamp backup unled
      | _ => exact nomatch update
    · by_cases list : message.kind = .replicaList
      · cases message with
        | replicaList sender named entries =>
          have changes : (node.hear now isNew (.replicaList sender named entries)).1.state.primary ≠
              node.state.primary := fun same => new (same ▸ follows)
          obtain rfl : named = some sender :=
            (primary_of_hearReplicaList node now changes).trans follows
          exact .list sender entries
        | _ => exact nomatch list
      · have keeps := keeps_hear_of_unknown node now unmet update list isNew
        exact absurd (keeps.primary.symm.trans follows) new
  | behindAnnounced list yields =>
    obtain rfl := Option.some.inj (yields.primary.symm.trans follows)
    rw [list]
    exact .list _ _
  | behindNamed list _ _ _ yields =>
    obtain rfl := Option.some.inj (yields.primary.symm.trans follows)
    rw [list]
    exact .list _ _

/-- A node is misled into following somebody that it holds no record of. -/
theorem misleads_handle
    (follows : (node.handle now message source).1.state.primary = some primary)
    (unknown : (node.handle now message source).1.state.directory.contains primary = false)
    (new : node.state.primary ≠ some primary) : node.Misleads message primary := by
  unfold handle at follows unknown
  split at follows
  · exact absurd follows new
  · rename_i other
    simp only [other, if_false] at unknown
    cases @misleads_hear (node.meet now message.sender source) now message primary _
        follows unknown new with
    | update sum seqn timestamp backup unled => exact .update sum seqn timestamp backup unled
    | list sender entries => exact .list sender entries

/-- A node that stays unknown although it was heard found no room in the directory. -/
theorem isFull_of_unmet {sender : NodeId}
    (unknown : (node.meet now sender source).state.directory.contains sender = false) :
    node.state.directory.isFull = true := by
  unfold meet at unknown
  cases registered : node.state.directory.register sender source now with
  | ok directory =>
    obtain ⟨record, found, -⟩ := Directory.find?_register registered
    simp [registered, Directory.contains, found] at unknown
  | error => exact Directory.isFull_of_register_error registered

theorem isFull_of_update {sum : Int64} {seqn : Seqn} {timestamp : UInt64}
    (other : primary ≠ node.id)
    (unknown : (node.handle now (.stateUpdate primary sum seqn timestamp)
      source).1.state.directory.contains primary = false) :
    node.state.directory.isFull = true := by
  simp only [handle, Message.sender, other, if_false, hear, directory_hearUpdate] at unknown
  exact isFull_of_unmet unknown

end Misled

/-! ## Every run -/

/-- A deed that makes a node follow somebody without a record is the handling of a message that
misleads it. -/
theorem Deed.misled {node next : Node} {now : Int} {cause : Cause} {letters : List Letter}
    (deed : node.Deed now cause next letters)
    (knowsItself : node.state.directory.contains node.id = true) {primary : NodeId}
    (follows : next.state.primary = some primary)
    (unknown : next.state.directory.contains primary = false)
    (new : node.state.primary ≠ some primary) :
    ∃ message source, next = (node.handle now message source).1 ∧
      node.Misleads message primary := by
  cases deed.move with
  | hears message source => exact ⟨message, source, rfl, misleads_handle follows unknown new⟩
  | stays keeps => exact absurd (keeps.primary.symm.trans follows) new
  | contends | rests => exact absurd follows new
  | leads =>
    obtain rfl : node.id = primary := Option.some.inj follows
    exact absurd knowsItself (Bool.eq_false_iff.1 unknown)

theorem Deed.extends {node next : Node} {now : Int} {cause : Cause} {letters : List Letter}
    (deed : node.Deed now cause next letters) :
    node.state.directory.Extends next.state.directory := by
  cases deed.outcome with
  | heard changes => exact changes.extends
  | own changes => exact changes.extends
  | claimed | wrote => exact fun _ knows => knows

theorem Deeds.extends {node next : Node} (deeds : node.Deeds next) :
    node.state.directory.Extends next.state.directory :=
  deeds.invariant (P := fun later => node.state.directory.Extends later.state.directory)
    (fun known deed => known.trans deed.extends) fun _ knows => knows

/-- Whoever follows somebody without a record has been misled. -/
theorem Deeds.misled {first node : Node} (deeds : first.Deeds node)
    (knows : first.KnowsPrimary) (knowsItself : first.state.directory.contains first.id = true)
    {primary : NodeId} (follows : node.state.primary = some primary)
    (unknown : node.state.directory.contains primary = false) :
    ∃ before now message source, first.Deeds before ∧ before.Misleads message primary ∧
      (before.handle now message source).1.state.primary = some primary ∧
      (before.handle now message source).1.Deeds node := by
  induction deeds with
  | refl => exact absurd (knows primary follows) (Bool.eq_false_iff.1 unknown)
  | @tail middle node deeds step ih =>
    obtain ⟨now, cause, letters, deed⟩ := step
    by_cases already : middle.state.primary = some primary
    · have unknown : middle.state.directory.contains primary = false :=
        Bool.eq_false_iff.2 fun knows => Bool.eq_false_iff.1 unknown (deed.extends _ knows)
      obtain ⟨before, now, message, source, earlier, misleads, switches, later⟩ :=
        ih already unknown
      exact ⟨before, now, message, source, earlier, misleads, switches, later.trans (.single deed)⟩
    · have knowsItself : middle.state.directory.contains middle.id = true := by
        rw [Deeds.id_eq deeds]
        exact Deeds.extends deeds _ knowsItself
      obtain ⟨message, source, rfl, misleads⟩ := deed.misled knowsItself follows unknown already
      exact ⟨middle, now, message, source, deeds, misleads, follows, .refl _⟩

/-- Whatever has happened to a node since it booted: the primary that it follows is on record, or
the node came to follow it, without a record, when it followed nobody and its full directory had no
room for the sender of an update, or when a list named it. -/
theorem primary_known_or_misled {config : Config} {address : Address} {since : Int}
    {first node : Node} (created : create config address since = .ok first)
    (deeds : first.Deeds node) {primary : NodeId}
    (follows : node.state.primary = some primary) :
    node.state.directory.contains primary = true ∨
      ∃ before now message source next, first.Deeds before ∧
        (before.handle now message source).1 = next ∧ next.Deeds node ∧
        next.state.primary = some primary ∧ next.state.directory.contains primary = false ∧
        (message.kind = .stateUpdate ∧ message.sender = primary ∧
            before.state.role = .backup ∧ before.state.primary = none ∧
            before.state.directory.isFull = true ∨
          ∃ entries, message = .replicaList message.sender (some primary) entries) := by
  cases known : node.state.directory.contains primary with
  | true => exact .inl rfl
  | false =>
    obtain ⟨before, now, message, source, earlier, misleads, switches, later⟩ :=
      deeds.misled (knowsPrimary_of_create created) (contains_id_of_create created) follows known
    have unknown : (before.handle now message source).1.state.directory.contains primary = false :=
      Bool.eq_false_iff.2 fun knows => Bool.eq_false_iff.1 known (later.extends _ knows)
    refine .inr ⟨before, now, message, source, _, earlier, rfl, later, switches, unknown, ?_⟩
    cases misleads with
    | update sum seqn timestamp backup unled =>
      have other : primary ≠ before.id := fun same => by
        -- what a node hears of itself is ignored
        simp [handle, Message.sender, same, unled] at switches
      exact .inl ⟨rfl, rfl, role_of_not_isPrimary backup, unled, isFull_of_update other unknown⟩
    | list sender entries => exact .inr ⟨entries, rfl⟩

/-- A backup that has lost its primary, and then hears a list that names an unlisted node. -/
theorem primary_known_or_misled_list :
    ∃ first node, create followerConfig followerConfig.bindAddress 0 = .ok first ∧
      first.Deeds node ∧ node.state.primary = some 4 ∧
      ∃ before now message source next, first.Deeds before ∧
        (before.handle now message source).1 = next ∧ next.Deeds node ∧
        next.state.directory.contains 4 = false := by
  let first := ((create followerConfig followerConfig.bindAddress 0).toOption).getD default
  have created : create followerConfig followerConfig.bindAddress 0 = .ok first := rfl
  have hears : first.Deed 6000 _ _ _ :=
    .hear (.replicaList 3 (some 4) []) (.v4 ⟨10, 0, 0, 3⟩ 1)
  have deeds : first.Deeds _ := .single hears
  have follows : (first.handle 6000 (.replicaList 3 (some 4) [])
      (.v4 ⟨10, 0, 0, 3⟩ 1)).1.state.primary = some 4 := by decide
  refine ⟨_, _, created, deeds, follows, ?_⟩
  obtain known | ⟨before, now, message, source, next, earlier, handled, later, -, unknown, -⟩ :=
    primary_known_or_misled created deeds follows
  · exact absurd known (by decide)
  · exact ⟨before, now, message, source, next, earlier, handled, later, unknown⟩

/-- A backup that follows nobody, with a directory that is full. -/
def crowdedConfig : Config :=
  { followerConfig with primary := none, maxReplicas := 2 }

/-- The backup comes to follow the sender of an update that its directory has no room for. -/
theorem primary_without_record :
    ∃ first node, create crowdedConfig crowdedConfig.bindAddress 0 = .ok first ∧
      first.Deeds node ∧ node.state.primary = some 3 ∧
      node.state.directory.contains 3 = false := by
  let first := ((create crowdedConfig crowdedConfig.bindAddress 0).toOption).getD default
  have created : create crowdedConfig crowdedConfig.bindAddress 0 = .ok first := rfl
  have hears : first.Deed 0 _ _ _ := .hear (.stateUpdate 3 7 4 0) (.v4 ⟨10, 0, 0, 3⟩ 1)
  exact ⟨_, _, created, .single hears, by decide, by decide⟩

end Node

end SumCluster
