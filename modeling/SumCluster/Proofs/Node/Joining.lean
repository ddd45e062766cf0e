import SumCluster.Proofs.Node.Delivery
import SumCluster.Proofs.Node.Integrity
import SumCluster.Proofs.Node.Room

/-!
# Joining

A node that wants to join asks another one.  A primary answers with its list and its state, and
either of them makes the joiner a backup of it if the joiner follows nobody yet: so whichever comes
first, and however often they come, the joiner ends up with the state (`Node.BringsIn`).  A backup
answers with its list only, which refers the joiner to the primary; that one brings it in when it is
asked in turn (`Node.join_bootstraps`).
-/

namespace SumCluster

/-- A message arrives as it was sent, or without the parts of addresses that are lost on the way. -/
def Message.ArrivesAs (sent arrived : Message) : Prop :=
  arrived = sent ∨ arrived = sent.bare

namespace Directory

variable {directory : Directory} {id : NodeId} {now : Int} {window : Nat}

/-- Every record travels in the list. -/
theorem mem_entries {entry : PeerEntry} :
    entry ∈ directory.entries now ↔ ∃ record ∈ directory.records, record.entry now = entry := by
  unfold entries
  rw [List.take_of_length_le directory.fits, List.mem_map]

theorem mem_ids_entries (known : directory.contains id = true) (now : Int) :
    id ∈ (directory.entries now).map (·.id) := by
  obtain ⟨record, found⟩ := Option.isSome_iff_exists.1 known
  exact List.mem_map.2
    ⟨record.entry now, mem_entries.2 ⟨record, mem_of_find? found, rfl⟩, id_of_find? found⟩

/-- No request of a node to join was answered within the window. -/
def Unserved (directory : Directory) (id : NodeId) (now : Int) (window : Nat) : Prop :=
  directory.All fun record => record.id = id → joinedWithin record now window = false

instance (directory : Directory) (id : NodeId) (now : Int) (window : Nat) :
    Decidable (directory.Unserved id now window) :=
  inferInstanceAs (Decidable (∀ record ∈ directory.records,
    record.id = id → joinedWithin record now window = false))

theorem Unserved.recordJoin? (unserved : directory.Unserved id now window)
    (known : directory.contains id = true) :
    ∃ joined, directory.recordJoin? id now window = some joined := by
  obtain ⟨record, found⟩ := Option.isSome_iff_exists.1 known
  have new : joinedWithin record now window = false :=
    All.of_find? unserved found (id_of_find? found)
  unfold Directory.recordJoin?
  rw [found]
  simp [new]

end Directory

namespace Node

/-! ## Answers to a request -/

/-- The node has answered no request of another one to join so shortly before an instant that a
further one would count as a copy. -/
def Unserved (node : Node) (id : NodeId) (now : Int) : Prop :=
  node.state.directory.Unserved id now (joinWindow node.config)

instance (node : Node) (id : NodeId) (now : Int) : Decidable (node.Unserved id now) :=
  inferInstanceAs (Decidable (node.state.directory.Unserved id now (joinWindow node.config)))

section Request

variable {node next : Node} {id : NodeId} {now : Int} {timestamp : UInt64} {source : Address}
  {effects : Effects} (other : id ≠ node.id) (room : node.state.directory.HasRoom [id])
  (handled : node.handle now (.joinRequest id timestamp) source = (next, effects))

include handled

/-- A request to join changes nothing but what is known of nodes, and adds to that. -/
theorem keeps_of_request : node.Keeps next ∧ next.id = node.id ∧ next.held = node.held ∧
    node.state.directory.Extends next.state.directory := by
  have changes := changes_of_handled handled
  have keeps : node.Keeps next := by
    unfold handle at handled
    split at handled
    · obtain rfl := (Prod.mk.inj handled).1
      exact .refl node
    · obtain rfl := (Prod.mk.inj handled).1
      exact (keeps_hearJoinRequest (node.meet now id source) now id _).of_meet
  refine ⟨keeps, id_of_handled handled, ?_, changes.extends⟩
  cases changes.follows with
  | kept same => exact same
  | taken offered => exact nomatch offered

include other room

/-- Afterwards the joiner is on record as alive, where it sent the request from. -/
theorem listed_of_request : ∃ record, next.state.directory.find? id = some record ∧
    record.address = source ∧ record.isAlive = true := by
  have address := @addressOf?_meet_of_hasRoom node [id] now id source room
    (List.mem_singleton_self id)
  have greeted := greeted_hear (greeted_meet node now id source)
    (!node.state.directory.contains id) (.joinRequest id timestamp)
  have changes := changes_hear (node.meet now id source) now
    (!node.state.directory.contains id) (.joinRequest id timestamp)
  simp only [handle, Message.sender, other, if_false] at handled
  rw [handled] at greeted changes
  obtain ⟨record, found⟩ :=
    Option.isSome_iff_exists.1 (changes.extends id (contains_of_addressOf? address))
  obtain ⟨address, alive, -⟩ :=
    Directory.All.of_find? greeted.record found (Directory.id_of_find? found)
  exact ⟨record, found, address, alive⟩

/-- A request that is no copy is answered with the list, and by a primary with its state as well. -/
theorem sends_of_request (unserved : node.Unserved id now) :
    (node.state.isPrimary = true → ∃ others, effects.sends =
      ⟨source, next.replicaList now⟩ :: ⟨source, next.stateUpdate now⟩ :: others) ∧
    (node.state.isPrimary = false → effects = .send source (next.replicaList now)) := by
  have address := @addressOf?_meet_of_hasRoom node [id] now id source room
    (List.mem_singleton_self id)
  -- to meet the joiner is not to answer it
  have unserved' : (node.meet now id source).Unserved id now :=
    @all_meet node now (.joinRequest id timestamp) source _ unserved
      (fun _ _ new => new) (fun _ _ => rfl)
  obtain ⟨joined, joins⟩ :=
    Directory.Unserved.recordJoin? unserved' (contains_of_addressOf? address)
  simp only [handle, Message.sender, other, if_false, hear, hearJoinRequest, address, admit?, joins,
    Option.map_some] at handled
  generalize admitted : ({ node.meet now id source with state.directory := joined } : Node) =
    joiner at handled
  have leads : (joiner.refreshSelf now).state.isPrimary = node.state.isPrimary := by
    rw [(keeps_refreshSelf joiner now).leads, ← admitted]
    rfl
  constructor
  · intro primary
    rw [if_pos (leads.trans primary)] at handled
    obtain ⟨rfl, rfl⟩ := Prod.mk.inj handled
    exact ⟨_, rfl⟩
  · intro backup
    rw [if_neg (by simp [leads, backup])] at handled
    obtain ⟨rfl, rfl⟩ := Prod.mk.inj handled
    rfl

end Request

/-! ## The joiner -/

/-- A backup that can join a host: it follows nobody else, holds nothing newer, and has room for the
host. -/
structure CanJoin (joiner host : Node) : Prop where
  backup : joiner.state.isPrimary = false
  other : host.id ≠ joiner.id
  primary : joiner.state.primary = none ∨ joiner.state.primary = some host.id
  seqn_le : joiner.state.seqn ≤ host.state.seqn
  room : joiner.state.directory.HasRoom [host.id]

/-- A backup has taken over the state of the host that it follows. -/
structure HasJoined (joiner host : Node) : Prop where
  backup : joiner.state.isPrimary = false
  primary : joiner.state.primary = some host.id
  initial : joiner.state.hasInitial = true
  held : joiner.held = host.held

section Joiner

variable {joiner next host : Node} {now : Int} {source : Address} {effects : Effects}

/-- The first update makes a backup follow the sender. -/
theorem hearUpdate_of_unled {node : Node} (backup : node.state.isPrimary = false)
    (unled : node.state.primary = none) (sender : NodeId) (sum : Int64) (seqn : Seqn) :
    node.hearUpdate sender sum seqn = (node.recognise sender).hearUpdate sender sum seqn := by
  unfold hearUpdate
  simp [backup, unled, recognise]

/-- An update of the host makes a backup join that can. -/
theorem CanJoin.hearUpdate (joins : joiner.CanJoin host)
    (address : joiner.addressOf? host.id = some source) :
    (joiner.hearUpdate host.id host.state.sum host.state.seqn).1.HasJoined host := by
  have joined : ∀ follower : Node, follower.state.isPrimary = false →
      follower.state.primary = some host.id → follower.addressOf? host.id = some source →
      follower.state.seqn ≤ host.state.seqn →
      (follower.hearUpdate host.id host.state.sum host.state.seqn).1.HasJoined host := by
    intro follower backup follows address reached
    have adopts : follower.state.adopt? host.state.sum host.state.seqn =
        some { follower.state with
          sum := host.state.sum, seqn := host.state.seqn, hasInitial := true } :=
      if_neg (UInt64.not_lt.2 reached)
    rw [hearUpdate_of_followed follows, address]
    simp only [adopts]
    exact ⟨backup, follows, rfl, rfl⟩
  rcases joins.primary with unled | follows
  · rw [hearUpdate_of_unled joins.backup unled]
    exact joined (joiner.recognise host.id) joins.backup rfl address joins.seqn_le
  · exact joined joiner joins.backup follows address joins.seqn_le

/-- The host's own list makes a backup follow the host, and leaves its state alone. -/
theorem CanJoin.hearReplicaList (joins : joiner.CanJoin host) (now : Int)
    (entries : List PeerEntry) :
    let next := (joiner.hearReplicaList now host.id (some host.id) entries).1
    next.state.isPrimary = false ∧ next.state.primary = some host.id ∧ next.held = joiner.held ∧
      next.state.hasInitial = joiner.state.hasInitial := by
  have learns : ∀ merged : Node, merged.state.isPrimary = false → merged.id = joiner.id →
      merged.state.primary = joiner.state.primary →
      merged.learnPrimary? now host.id host.id =
        if joiner.state.primary = some host.id then none
        else some (merged.recognise host.id) := by
    intro merged backup id primary
    unfold learnPrimary?
    simp [backup, id, primary, joins.other]
  simp only [Node.hearReplicaList]
  rw [learns (joiner.mergeEntries entries now) joins.backup rfl rfl]
  rcases joins.primary with unled | follows
  · rw [if_neg (by simp [unled])]
    exact ⟨joins.backup, rfl, rfl, rfl⟩
  · rw [if_pos follows]
    exact ⟨joins.backup, follows, rfl, rfl⟩

/-- What a host sends to a joiner: its state, or a list in which it names itself. -/
inductive Answers (host : Node) : Message → Prop
  | list (entries : List PeerEntry) : Answers host (.replicaList host.id (some host.id) entries)
  | update (timestamp : UInt64) :
    Answers host (.stateUpdate host.id host.state.sum host.state.seqn timestamp)

/-- An answer of the host leaves a backup able to join, and it has joined afterwards if it had done
so before or if the answer is the state. -/
theorem CanJoin.handle {message : Message} (joins : joiner.CanJoin host)
    (answers : host.Answers message)
    (handled : joiner.handle now message source = (next, effects)) :
    next.CanJoin host ∧
      (joiner.HasJoined host ∨ message.kind = .stateUpdate → next.HasJoined host) := by
  have sender : message.sender = host.id := by cases answers <;> rfl
  have id : next.id = joiner.id := id_of_handled handled
  have address := @addressOf?_meet_of_hasRoom joiner [host.id] now host.id source joins.room
    (List.mem_singleton_self host.id)
  have meets : (joiner.meet now host.id source).CanJoin host :=
    ⟨joins.backup, joins.other, joins.primary, joins.seqn_le,
      hasRoom_meet joins.room (List.mem_singleton_self host.id)⟩
  have known : next.state.directory.contains host.id = true := by
    have hears := changes_hear (joiner.meet now host.id source) now
      (!joiner.state.directory.contains host.id) message
    simp only [Node.handle, sender, joins.other, if_false] at handled
    rw [handled] at hears
    exact hears.extends host.id (contains_of_addressOf? address)
  have room : next.state.directory.HasRoom [host.id] :=
    Directory.hasRoom_of_contains (List.forall_mem_singleton.2 known)
  cases answers with
  | list entries =>
    obtain ⟨backup, primary, held, initial⟩ := meets.hearReplicaList now entries
    simp only [Node.handle, Message.sender, joins.other, if_false, hear] at handled
    rw [handled] at backup primary held initial
    have seqn : next.state.seqn = joiner.state.seqn := congrArg (·.2) held
    refine ⟨⟨backup, id ▸ joins.other, .inr primary, seqn ▸ joins.seqn_le, room⟩, ?_⟩
    rintro (joined | update)
    · exact ⟨backup, primary, initial.trans joined.initial, held.trans joined.held⟩
    · cases update
  | update timestamp =>
    have joined := meets.hearUpdate address
    simp only [Node.handle, Message.sender, joins.other, if_false, hear] at handled
    rw [handled] at joined
    have seqn : next.state.seqn = host.state.seqn := congrArg (·.2) joined.held
    exact ⟨⟨joined.backup, id ▸ joins.other, .inr joined.primary, UInt64.le_of_eq seqn, room⟩,
      fun _ => joined⟩

/-- However the answers of the host arrive, the joiner has joined when the state is among them. -/
theorem CanJoin.receive {deliveries : List Delivery} (joins : joiner.CanJoin host)
    (answers : ∀ delivery ∈ deliveries, host.Answers delivery.message)
    (update : joiner.HasJoined host ∨
      ∃ delivery ∈ deliveries, delivery.message.kind = .stateUpdate) :
    (joiner.receive deliveries).HasJoined host := by
  induction deliveries generalizing joiner with
  | nil => exact update.resolve_right (by simp)
  | cons delivery rest ih =>
    obtain ⟨joins', joined⟩ :=
      joins.handle (answers delivery (List.mem_cons_self ..)) (Prod.eta _).symm
    refine ih joins' (fun other mem => answers other (List.mem_cons_of_mem _ mem)) ?_
    rcases update with already | ⟨other, mem, kind⟩
    · exact .inl (joined (.inl already))
    · rcases List.mem_cons.1 mem with rfl | mem
      · exact .inl (joined (.inr kind))
      · exact .inr ⟨other, mem, kind⟩

end Joiner

/-! ## The host -/

/-- A host brings a backup in.  A request that is no copy gets two answers, a list and an update,
and puts the backup on record as alive, where it asked from.  Whichever of the two arrive, in
whatever order and however often, the backup has joined if the update is among them. -/
def BringsIn (host joiner : Node) : Prop :=
  ∀ now timestamp source, host.Unserved joiner.id now →
    ∃ next effects list update others,
      host.handle now (.joinRequest joiner.id timestamp) source = (next, effects) ∧
      effects.sends = ⟨source, list⟩ :: ⟨source, update⟩ :: others ∧ next.held = host.held ∧
      (∃ record, next.state.directory.find? joiner.id = some record ∧ record.address = source ∧
        record.isAlive = true) ∧
      ∀ deliveries : List Delivery,
        (∀ delivery ∈ deliveries,
          list.ArrivesAs delivery.message ∨ update.ArrivesAs delivery.message) →
        (∃ delivery ∈ deliveries, update.ArrivesAs delivery.message) →
        (joiner.receive deliveries).HasJoined host

section Host

variable {joiner host : Node}

theorem CanJoin.bringsIn (joins : joiner.CanJoin host) (leads : host.state.isPrimary = true)
    (itself : host.LeadsItself) (room : host.state.directory.HasRoom [joiner.id]) :
    host.BringsIn joiner := by
  intro now timestamp source unserved
  obtain ⟨⟨next, effects⟩, handled⟩ :
    ∃ result, host.handle now (.joinRequest joiner.id timestamp) source = result := ⟨_, rfl⟩
  obtain ⟨keeps, id, held, -⟩ := keeps_of_request handled
  obtain ⟨others, sends⟩ := (sends_of_request joins.other.symm room handled unserved).1 leads
  have primary : next.state.primary = some host.id := keeps.primary.trans (itself leads)
  have list_eq : next.replicaList now =
      .replicaList host.id (some host.id) (next.state.directory.entries now) := by
    rw [replicaList, id, primary]
  have update_eq : next.stateUpdate now =
      .stateUpdate host.id host.state.sum host.state.seqn (Time.stamp now) := by
    rw [stateUpdate, id, show next.state.sum = host.state.sum from congrArg (·.1) held,
      show next.state.seqn = host.state.seqn from congrArg (·.2) held]
  have updates : ∀ {message}, (next.stateUpdate now).ArrivesAs message →
      message = .stateUpdate host.id host.state.sum host.state.seqn (Time.stamp now) := by
    rintro _ (rfl | rfl)
    · exact update_eq
    · rw [update_eq]
      rfl
  refine ⟨next, effects, _, _, others, handled, sends, held,
    listed_of_request joins.other.symm room handled, fun deliveries arrive update => ?_⟩
  refine joins.receive (fun delivery mem => ?_) ?_
  · rcases arrive delivery mem with (list | list) | update
    · rw [list, list_eq]
      exact .list _
    · rw [list, list_eq]
      exact .list _
    · rw [updates update]
      exact .update _
  · obtain ⟨delivery, mem, update⟩ := update
    exact .inr ⟨delivery, mem, by rw [updates update]; rfl⟩

end Host

/-! ## The guide -/

/-- What a joiner hears makes it ask a host at an address to join, and the host brings it in. -/
def Asks (joiner host : Node) (arrival : Delivery) (address : Address) : Prop :=
  ∃ next, joiner.handle arrival.instant arrival.message arrival.source =
      (next, .send address (joiner.joinRequest arrival.instant)) ∧ host.BringsIn next

/-- A backup refers a joiner to a host at an address.  A request that is no copy gets a list, and
when the joiner has room for everybody in it, that makes it ask the host, which brings it in.  It
asks at the address if the list arrives as it was sent, or if it knew the host before, and else at
what is left of the address in the list. -/
def Refers (guide joiner host : Node) (address : Address) : Prop :=
  ∀ now timestamp source, guide.Unserved joiner.id now →
    ∃ list, (guide.handle now (.joinRequest joiner.id timestamp) source).2 = .send source list ∧
      ∀ instant origin, joiner.state.directory.HasRoom (list.entries.map (·.id)) →
        joiner.Asks host ⟨instant, list, origin⟩ address ∧
        joiner.Asks host ⟨instant, list.bare, origin⟩
          (if joiner.state.directory.contains host.id then address else address.bare)

/-- A node is on record at one address only, if at all. -/
def LocatesAt (node : Node) (id : NodeId) (address : Address) : Prop :=
  node.state.directory.All fun record => record.id = id → record.address = address

section Guide

variable {node next : Node} {id : NodeId} {now : Int} {source address : Address}
  {effects : Effects}

theorem locatesAt_of_addressOf?
    (known : ∀ found, node.addressOf? id = some found → found = address) :
    node.LocatesAt id address := by
  intro record mem same
  refine known record.address ?_
  have found := Directory.find?_of_mem mem
  rw [same] at found
  exact congrArg (Option.map _) found

theorem LocatesAt.addressOf?_eq (locates : node.LocatesAt id address)
    (known : node.state.directory.contains id = true) : node.addressOf? id = some address := by
  obtain ⟨record, found⟩ := Option.isSome_iff_exists.1 known
  have place := Directory.All.of_find? locates found (Directory.id_of_find? found)
  exact place ▸ congrArg (Option.map _) found

/-- A message of somebody else tells where a node is only if it is not on record, and then it tells
no other address of it than the list in it. -/
theorem LocatesAt.handle {message : Message} (locates : node.LocatesAt id address)
    (other : message.sender ≠ id)
    (listed : node.state.directory.contains id = false →
      ∀ entry ∈ message.entries, entry.id = id → entry.address = address) :
    (node.handle now message source).1.LocatesAt id address := by
  refine all_handle locates (fun record sender _ same => ?_) (fun _ same => ?_) ⟨?_, ?_, ?_, ?_⟩
  · exact absurd (sender.symm.trans same) other
  · exact absurd same other
  · exact fun _ _ located => located
  · exact fun _ _ located => located
  · exact fun _ located => located
  · exact fun entry mem _ => ⟨fun _ _ located _ => located,
      fun unknown same => listed (same ▸ unknown) entry mem same⟩

/-- A list that names a primary makes a backup without one ask the primary to join, where it knows
it. -/
theorem handle_list_of_unled {guide primary : NodeId} {entries : List PeerEntry}
    (other : guide ≠ node.id) (another : primary ≠ node.id)
    (backup : node.state.isPrimary = false) (unled : node.state.primary = none)
    (handled : node.handle now (.replicaList guide (some primary) entries) source =
      (next, effects)) :
    next.state.isPrimary = false ∧ next.state.primary = some primary ∧ next.held = node.held ∧
      next.state.directory =
        ((node.meet now guide source).mergeEntries entries now).state.directory ∧
      effects = next.rejoin now guide primary := by
  have learns : ((node.meet now guide source).mergeEntries entries now).learnPrimary? now guide
      primary =
        some (((node.meet now guide source).mergeEntries entries now).recognise primary) := by
    generalize merged_eq : (node.meet now guide source).mergeEntries entries now = merged
    have follows : merged.state.primary = none := by rw [← merged_eq]; exact unled
    have stays : merged.state.isPrimary = false := by rw [← merged_eq]; exact backup
    have id : merged.id = node.id := by rw [← merged_eq]; rfl
    simp [learnPrimary?, hasLivePrimary, Directory.isPrimaryAlive, follows, stays, id, another]
  simp only [Node.handle, Message.sender, other, if_false, hear, hearReplicaList, learns] at handled
  obtain ⟨rfl, rfl⟩ := Prod.mk.inj handled
  exact ⟨backup, rfl, rfl, rfl, rfl⟩

/-- The list that a backup answers with names its primary, has everybody on record in it, and the
primary at the address that the backup knows. -/
theorem list_of_request {guide : Node} {leader joiner : NodeId} {timestamp : UInt64}
    (trails : guide.Trails leader) (another : joiner ≠ leader)
    (known : guide.addressOf? leader = some address)
    (handled : guide.handle now (.joinRequest joiner timestamp) source = (next, effects)) :
    let entries := next.state.directory.entries now
    next.replicaList now = .replicaList guide.id (some leader) entries ∧
      (∀ id, guide.state.directory.contains id = true → id ∈ entries.map (·.id)) ∧
      ∀ entry ∈ entries, entry.id = leader → entry.address = address := by
  obtain ⟨keeps, id, -, extended⟩ := keeps_of_request handled
  have locates : guide.LocatesAt leader address := locatesAt_of_addressOf? fun found same =>
    Option.some.inj (same.symm.trans known)
  have located := @LocatesAt.handle guide leader now source address
    (.joinRequest joiner timestamp) locates another (fun _ _ mem => nomatch mem)
  rw [handled] at located
  refine ⟨?_, fun id known => Directory.mem_ids_entries (extended id known) now,
    fun entry mem same => ?_⟩
  · rw [replicaList, id, keeps.primary, trails.primary]
  · obtain ⟨record, record_mem, rfl⟩ := Directory.mem_entries.1 mem
    exact located record record_mem same

/-- A joiner that has no primary, and room for everybody in a list that names a host, asks the host
to join, and can join it. -/
theorem CanJoin.handle_list {joiner host : Node} {guide : NodeId} {entries : List PeerEntry}
    (joins : joiner.CanJoin host) (unled : joiner.state.primary = none)
    (other : guide ≠ joiner.id) (another : guide ≠ host.id)
    (fits : joiner.state.directory.HasRoom (entries.map (·.id)))
    (guides : guide ∈ entries.map (·.id)) (hosts : host.id ∈ entries.map (·.id))
    (locates : joiner.LocatesAt host.id address)
    (listed : joiner.state.directory.contains host.id = false →
      ∀ entry ∈ entries, entry.id = host.id → entry.address = address)
    (handled : joiner.handle now (.replicaList guide (some host.id) entries) source =
      (next, effects)) :
    next.CanJoin host ∧ effects = .send address (joiner.joinRequest now) := by
  obtain ⟨backup, follows, held, directory, rejoins⟩ :=
    handle_list_of_unled other joins.other joins.backup unled handled
  have id : next.id = joiner.id := id_of_handled handled
  have knows : next.state.directory.contains host.id = true := by
    have room := @hasRoom_meet joiner _ now guide source fits guides
    obtain ⟨entry, mem, same⟩ := List.mem_map.1 hosts
    rw [directory, ← same]
    exact Directory.contains_merge room (fun entry mem => List.mem_map_of_mem mem) mem
      (same ▸ joins.other) now
  have located := @LocatesAt.handle joiner host.id now source address
    (.replicaList guide (some host.id) entries) locates another listed
  rw [handled] at located
  refine ⟨⟨backup, id ▸ joins.other, .inr follows, ?_, ?_⟩, ?_⟩
  · rw [show next.state.seqn = joiner.state.seqn from congrArg (·.2) held]
    exact joins.seqn_le
  · exact Directory.hasRoom_of_contains (List.forall_mem_singleton.2 knows)
  · rw [rejoins, rejoin, if_neg another, located.addressOf?_eq knows, joinRequest, joinRequest, id]

end Guide

section Referral

variable {joiner host guide : Node} {now : Int} {source address : Address}

theorem CanJoin.asks {guide : NodeId} {entries : List PeerEntry} (joins : joiner.CanJoin host)
    (leads : host.state.isPrimary = true) (itself : host.LeadsItself)
    (room : host.state.directory.HasRoom [joiner.id]) (unled : joiner.state.primary = none)
    (other : guide ≠ joiner.id) (another : guide ≠ host.id)
    (fits : joiner.state.directory.HasRoom (entries.map (·.id)))
    (guides : guide ∈ entries.map (·.id)) (hosts : host.id ∈ entries.map (·.id))
    (locates : joiner.LocatesAt host.id address)
    (listed : joiner.state.directory.contains host.id = false →
      ∀ entry ∈ entries, entry.id = host.id → entry.address = address) :
    joiner.Asks host ⟨now, .replicaList guide (some host.id) entries, source⟩ address := by
  obtain ⟨⟨next, answer⟩, handled⟩ : ∃ result, joiner.handle now
    (.replicaList guide (some host.id) entries) source = result := ⟨_, rfl⟩
  obtain ⟨joins', rfl⟩ :=
    joins.handle_list unled other another fits guides hosts locates listed handled
  have id : next.id = joiner.id := id_of_handled handled
  exact ⟨next, handled, joins'.bringsIn leads itself (id ▸ room)⟩

/-- A backup refers a joiner without a primary to its own primary. -/
theorem CanJoin.refers (joins : joiner.CanJoin host) (unled : joiner.state.primary = none)
    (leads : host.state.isPrimary = true) (itself : host.LeadsItself)
    (room : host.state.directory.HasRoom [joiner.id]) (trails : guide.Trails host.id)
    (other : joiner.id ≠ guide.id) (listed : guide.state.directory.contains guide.id = true)
    (known : guide.addressOf? host.id = some address)
    (room' : guide.state.directory.HasRoom [joiner.id])
    (nowhere : ∀ found, joiner.addressOf? host.id = some found → found = address) :
    guide.Refers joiner host address := by
  intro now timestamp source unserved
  obtain ⟨⟨answered, effects⟩, asked⟩ :
    ∃ result, guide.handle now (.joinRequest joiner.id timestamp) source = result := ⟨_, rfl⟩
  have sends := (sends_of_request other room' asked unserved).2 trails.backup
  obtain ⟨list_eq, lists, places⟩ := list_of_request trails joins.other.symm known asked
  refine ⟨answered.replicaList now, (congrArg Prod.snd asked).trans sends,
    fun instant origin fits => ?_⟩
  rw [list_eq] at fits ⊢
  have guides := lists _ listed
  have hosts := lists _ trails.known
  constructor
  · exact joins.asks leads itself room unled other.symm trails.other.symm fits guides hosts
      (locatesAt_of_addressOf? nowhere) fun _ => places
  · -- what is lost on the way is no identifier
    have same : ((answered.state.directory.entries now).map fun entry =>
        { entry with address := entry.address.bare }).map (·.id) =
        (answered.state.directory.entries now).map (·.id) := by
      rw [List.map_map]
      rfl
    rw [← same] at guides hosts
    refine joins.asks leads itself room unled other.symm trails.other.symm (same ▸ fits) guides
      hosts (locatesAt_of_addressOf? fun found place => ?_) fun unknown entry mem host => ?_
    · rw [if_pos (contains_of_addressOf? place)]
      exact nowhere found place
    · obtain ⟨told, told_mem, rfl⟩ := List.mem_map.1 mem
      rw [if_neg (Bool.eq_false_iff.1 unknown)]
      exact congrArg Address.bare (places told told_mem host)

end Referral

/-- A primary brings in every backup that follows nobody else, holds nothing newer and fits into its
directory.  A backup of the primary refers a joiner without a primary to it. -/
theorem join_bootstraps {host joiner : Node} (leads : host.state.isPrimary = true)
    (itself : host.LeadsItself) (backup : joiner.state.isPrimary = false)
    (other : host.id ≠ joiner.id)
    (primary : joiner.state.primary = none ∨ joiner.state.primary = some host.id)
    (reached : joiner.state.seqn ≤ host.state.seqn)
    (room : host.state.directory.HasRoom [joiner.id])
    (room' : joiner.state.directory.HasRoom [host.id]) :
    host.BringsIn joiner ∧
    (joiner.state.primary = none → ∀ (guide : Node) (address : Address), guide.Trails host.id →
      joiner.id ≠ guide.id → guide.state.directory.contains guide.id = true →
      guide.addressOf? host.id = some address → guide.state.directory.HasRoom [joiner.id] →
      (∀ found, joiner.addressOf? host.id = some found → found = address) →
      guide.Refers joiner host address) := by
  have joins : joiner.CanJoin host := ⟨backup, other, primary, reached, room'⟩
  refine ⟨joins.bringsIn leads itself room, fun unled guide address trails another listed known
    fits nowhere => ?_⟩
  exact joins.refers unled leads itself room trails another listed known fits nowhere

/-- A backup that knows nobody. -/
def newcomerConfig : Config :=
  { Config.ofBackup 3 (.v4 ⟨10, 0, 0, 3⟩ 1) ⟨1, .v4 ⟨10, 0, 0, 1⟩ 1⟩ with
    primary := none
    peers := [] }

/-- A backup that knows nobody yet, with a primary and a backup of it that it can ask. -/
theorem join_bootstraps_newcomer :
    ∃ host guide joiner : Node,
      create (.ofPrimary 1 (.v4 ⟨10, 0, 0, 1⟩ 1)) (.v4 ⟨10, 0, 0, 1⟩ 1) 0 = .ok host ∧
      create followerConfig followerConfig.bindAddress 0 = .ok guide ∧
      create newcomerConfig newcomerConfig.bindAddress 0 = .ok joiner ∧
      host.Unserved joiner.id 1 ∧ guide.Unserved joiner.id 1 ∧ host.BringsIn joiner ∧
      guide.Refers joiner host (.v4 ⟨10, 0, 0, 1⟩ 1) := by
  let host := ((create (.ofPrimary 1 (.v4 ⟨10, 0, 0, 1⟩ 1)) (.v4 ⟨10, 0, 0, 1⟩ 1) 0).toOption).getD
    default
  let guide := ((create followerConfig followerConfig.bindAddress 0).toOption).getD default
  let joiner := ((create newcomerConfig newcomerConfig.bindAddress 0).toOption).getD default
  have created : create (.ofPrimary 1 (.v4 ⟨10, 0, 0, 1⟩ 1)) (.v4 ⟨10, 0, 0, 1⟩ 1) 0 = .ok host :=
    rfl
  have created' : create followerConfig followerConfig.bindAddress 0 = .ok guide := rfl
  have trails : guide.Trails host.id :=
    trails_of_deeds created' (.refl guide) (by decide) (by decide) (by decide)
  obtain ⟨brings, refers⟩ := @join_bootstraps host joiner (by decide)
    (leadsItself_of_create created) (by decide) (by decide) (.inl (by decide)) (by decide)
    (by decide) (by decide)
  refine ⟨host, guide, joiner, created, created', rfl, by decide, by decide, brings, ?_⟩
  have unknown : joiner.addressOf? host.id = none := by decide
  refine refers (by decide) guide _ trails (by decide) (by decide) (by decide) (by decide) ?_
  exact fun found known => nomatch unknown.symm.trans known

end Node

end SumCluster
