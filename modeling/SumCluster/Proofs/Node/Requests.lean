import SumCluster.Proofs.Node.Copies
import SumCluster.Proofs.Node.Upkeep

/-!
# Requests to join

A request to join of another node is answered, or passed over in silence because it is a copy of one
that was answered, or because there is no room for the joiner (`Node.Attends`).
-/

namespace SumCluster

open Directory (Operation)

/-- What is told of a node that was heard of just now. -/
theorem Record.entry_of_now {record : Record} {now : Int} (heard : record.lastHeard = now) :
    record.entry now = ⟨record.id, record.address, record.isAlive, 0⟩ := by
  unfold Record.entry Time.elapsed
  rw [heard, Int.sub_self]
  rfl

namespace Directory

variable {directory joined : Directory} {id : NodeId} {now : Int} {window : Nat}

/-- A request is passed over if its sender has no record, or if one was answered within the
window. -/
theorem recordJoin?_eq_none_iff : directory.recordJoin? id now window = none ↔
    directory.contains id = false ∨
      ∃ answered, directory.lastJoin? id = some answered ∧ Time.elapsed answered now < window := by
  unfold recordJoin? contains lastJoin?
  cases directory.find? id with
  | none => simp
  | some record =>
    cases answered : record.lastJoin <;> simp [joinedWithin, answered]

/-- One that is answered is not within the window, and from now on further ones are. -/
theorem of_recordJoin? (joins : directory.recordJoin? id now window = some joined) :
    directory.contains id = true ∧
      (∀ answered, directory.lastJoin? id = some answered →
        window ≤ Time.elapsed answered now) ∧
      joined.lastJoin? id = some now := by
  unfold recordJoin? at joins
  split at joins
  · exact nomatch joins
  · rename_i record found
    split at joins
    · exact nomatch joins
    · rename_i late
      obtain rfl := Option.some.inj joins
      refine ⟨Option.isSome_iff_exists.2 ⟨record, found⟩, fun answered last => ?_, ?_⟩
      · have last : record.lastJoin = some answered := by simpa [lastJoin?, found] using last
        simpa [joinedWithin, last] using late
      · unfold lastJoin?
        rw [find?_adjust_self, found]
        rfl

end Directory

namespace Node

/-- What a node sends that answers a request to join. -/
def welcome (node : Node) (now : Int) (joiner : NodeId) (source : Address) (isNew : Bool) :
    List Letter :=
  ⟨source, node.replicaList now⟩ ::
    if node.state.isPrimary then
      ⟨source, node.stateUpdate now⟩ ::
        if isNew then
          (node.replicaList now).toEach
            ((node.state.directory.alivePeers node.id).filter (·.id ≠ joiner))
        else []
    else []

section Welcome

variable {node : Node} {now : Int} {joiner : NodeId} {source : Address} {isNew : Bool}

theorem welcome_of_primary (leads : node.state.isPrimary = true) :
    node.welcome now joiner source isNew =
      [⟨source, node.replicaList now⟩, ⟨source, node.stateUpdate now⟩] ++
        if isNew then
          (node.replicaList now).toEach
            ((node.state.directory.alivePeers node.id).filter (·.id ≠ joiner))
        else [] := by
  unfold welcome
  rw [if_pos leads]
  rfl

theorem welcome_of_backup (backup : node.state.isPrimary = false) :
    node.welcome now joiner source isNew = [⟨source, node.replicaList now⟩] := by
  unfold welcome
  rw [if_neg (Bool.eq_false_iff.1 backup)]

theorem stats_refreshSelf (node : Node) (now : Int) :
    (node.refreshSelf now).stats = node.stats := by
  unfold refreshSelf
  split <;> rfl

/-- A request that is noted is answered with the welcome. -/
theorem hearJoinRequest_of_joins {joined : Directory}
    (joins : node.state.directory.recordJoin? joiner now (joinWindow node.config) = some joined)
    (address : node.addressOf? joiner = some source) (isNew : Bool) :
    ∃ next, node.hearJoinRequest now joiner isNew =
        (next, { sends := next.welcome now joiner source isNew }) ∧
      next.state =
        { node.state with directory := (Operation.markAlive node.id).perform joined now } ∧
      next.stats.joinsHandled =
        node.stats.joinsHandled + if node.state.isPrimary then 1 else 0 := by
  have admits : node.admit? now joiner = some { node with state.directory := joined } :=
    congrArg (Option.map _) joins
  have state := state_refreshSelf { node with state.directory := joined } now
  have stats := stats_refreshSelf { node with state.directory := joined } now
  simp only [hearJoinRequest, address, admits]
  generalize refreshSelf _ now = fresh at state stats ⊢
  have leads : fresh.state.isPrimary = node.state.isPrimary := by
    rw [state]
    rfl
  have count : fresh.stats.joinsHandled = node.stats.joinsHandled := by rw [stats]
  rw [← leads, ← count]
  by_cases primary : fresh.state.isPrimary = true
  · let counted := { fresh with stats.joinsHandled := fresh.stats.joinsHandled + 1 }
    rw [if_pos primary, if_pos primary]
    refine ⟨counted, ?_, state, rfl⟩
    rw [@welcome_of_primary counted _ _ _ _ primary]
    rfl
  · rw [if_neg primary, if_neg primary]
    refine ⟨fresh, ?_, state, rfl⟩
    rw [welcome_of_backup (Bool.eq_false_iff.2 primary)]
    rfl

end Welcome

/-- What becomes of a request to join. -/
inductive Attends (node : Node) (now : Int) (joiner : NodeId) (source : Address) :
    Node → Effects → Prop
  /-- It is forged with the identifier of the node itself. -/
  | own (own : joiner = node.id) : Attends node now joiner source node .none
  /-- It is a copy, or its sender has no record. -/
  | silent (other : joiner ≠ node.id)
    (refuses : (node.meet now joiner source).state.directory.recordJoin? joiner now
      (joinWindow node.config) = none) :
    Attends node now joiner source (node.meet now joiner source) .none
  | answered {joined : Directory} {next : Node} (other : joiner ≠ node.id)
    (joins : (node.meet now joiner source).state.directory.recordJoin? joiner now
      (joinWindow node.config) = some joined)
    (state : next.state =
      { node.state with directory := (Operation.markAlive node.id).perform joined now })
    (count : next.stats.joinsHandled =
      node.stats.joinsHandled + if node.state.isPrimary then 1 else 0) :
    Attends node now joiner source next
      { sends := next.welcome now joiner source (!node.state.directory.contains joiner) }

theorem attends_handle (node : Node) (now : Int) (joiner : NodeId) (timestamp : UInt64)
    (source : Address) :
    node.Attends now joiner source (node.handle now (.joinRequest joiner timestamp) source).1
      (node.handle now (.joinRequest joiner timestamp) source).2 := by
  unfold handle
  split
  · rename_i own
    exact .own own
  · rename_i other
    simp only [Message.sender, hear] at other ⊢
    cases joins : (node.meet now joiner source).state.directory.recordJoin? joiner now
        (joinWindow node.config) with
    | none =>
      have refuses : (node.meet now joiner source).admit? now joiner = none :=
        congrArg (Option.map _) joins
      simp only [hearJoinRequest, refuses]
      cases (node.meet now joiner source).addressOf? joiner <;> exact .silent other joins
    | some joined =>
      obtain ⟨known, -⟩ := Directory.of_recordJoin? joins
      obtain ⟨record, found⟩ := Option.isSome_iff_exists.1 known
      have address : (node.meet now joiner source).addressOf? joiner = some record.address :=
        congrArg (Option.map _) found
      -- the answer goes to the address on record, which is where the request came from
      obtain rfl := eq_source_of_addressOf?_meet address
      obtain ⟨next, hears, state, count⟩ := hearJoinRequest_of_joins joins address
        (!node.state.directory.contains joiner)
      rw [hears]
      exact .answered other joins state count

theorem lastJoin?_meet (node : Node) (now : Int) (sender id : NodeId) (source : Address) :
    (node.meet now sender source).state.directory.lastJoin? id =
      node.state.directory.lastJoin? id := by
  rw [perform_meet]
  exact (Directory.effect_register _ sender source now).lastJoin?_eq nofun

/-! ## Silence -/

/-- A node that is on record, or fits into the table, has a record once it was met. -/
theorem contains_meet_of_room {node : Node} {now : Int} {sender : NodeId} {source : Address}
    (room : node.state.directory.contains sender = true ∨
      node.state.directory.isFull = false) :
    (node.meet now sender source).state.directory.contains sender = true := by
  refine Bool.ne_false_iff.1 fun unmet => ?_
  rcases room with known | room
  · exact absurd known (Bool.eq_false_iff.1 (unknown_of_unmet unmet))
  · exact nomatch room.symm.trans (isFull_of_unmet unmet)

/-- A request of another node that has room is passed over only if one was answered within the
window. -/
theorem Attends.of_silent {node next : Node} {now : Int} {joiner : NodeId} {source : Address}
    {effects : Effects} (attends : node.Attends now joiner source next effects)
    (silent : effects.letters = []) (other : joiner ≠ node.id)
    (room : node.state.directory.contains joiner = true ∨
      node.state.directory.isFull = false) :
    ∃ answered, node.state.directory.lastJoin? joiner = some answered ∧
      Time.elapsed answered now < joinWindow node.config := by
  cases attends with
  | own own => exact absurd own other
  | answered => exact nomatch silent
  | silent _ refuses =>
    rcases Directory.recordJoin?_eq_none_iff.1 refuses with unmet | recent
    · exact absurd (contains_meet_of_room room) (Bool.eq_false_iff.1 unmet)
    · rwa [lastJoin?_meet] at recent

end Node

end SumCluster
