import Mathlib.Data.Finset.Card
import SumCluster.Proofs.Node.Copies

/-!
# Room for others

A directory has room for some nodes if those of them that it does not know yet fit into it, all
together (`Directory.HasRoom`).  It stays so when they get their records, one after the other, and
each gets one when it is heard of (`Node.contains_handle`) or listed (`Directory.contains_merge`).
-/

namespace SumCluster

namespace Directory

variable {directory directory' : Directory} {id : NodeId} {ids : List NodeId}

/-! ## The nodes on record -/

/-- The nodes on record. -/
def members (directory : Directory) : Finset NodeId :=
  (directory.records.map (·.id)).toFinset

theorem mem_members : id ∈ directory.members ↔ directory.contains id = true := by
  simp only [members, List.mem_toFinset, List.mem_map]
  constructor
  · rintro ⟨record, mem, rfl⟩
    exact contains_of_mem mem
  · intro known
    obtain ⟨record, found⟩ := Option.isSome_iff_exists.1 known
    exact ⟨record, mem_of_find? found, id_of_find? found⟩

/-- There is one record for each node. -/
theorem card_members (directory : Directory) : directory.members.card = directory.size := by
  have distinct : (directory.records.map (·.id)).Nodup :=
    List.pairwise_map.2 (directory.ascending.imp UInt32.ne_of_lt)
  exact (List.toFinset_card_of_nodup distinct).trans (List.length_map _)

/-! ## Room -/

/-- The nodes on record and some more fit into the table, all together. -/
def HasRoom (directory : Directory) (ids : List NodeId) : Prop :=
  (directory.members ∪ ids.toFinset).card ≤ directory.capacity

instance (directory : Directory) (ids : List NodeId) : Decidable (directory.HasRoom ids) :=
  inferInstanceAs (Decidable (_ ≤ _))

/-- For nodes on record there is room. -/
theorem hasRoom_of_contains (known : ∀ id ∈ ids, directory.contains id = true) :
    directory.HasRoom ids := by
  have same : directory.members ∪ ids.toFinset = directory.members :=
    Finset.union_eq_left.2 fun id mem => mem_members.2 (known id (List.mem_toFinset.1 mem))
  unfold HasRoom
  rw [same, card_members]
  exact directory.fits

/-- There is still room when the table has gained nobody else. -/
theorem HasRoom.of_gained (room : directory.HasRoom ids)
    (capacity : directory'.capacity = directory.capacity)
    (gained : ∀ id, directory'.contains id = true → directory.contains id = true ∨ id ∈ ids) :
    directory'.HasRoom ids := by
  have subset : directory'.members ∪ ids.toFinset ⊆ directory.members ∪ ids.toFinset := by
    refine Finset.union_subset (fun id mem => ?_) Finset.subset_union_right
    rcases gained id (mem_members.1 mem) with known | listed
    · exact Finset.mem_union_left _ (mem_members.2 known)
    · exact Finset.mem_union_right _ (List.mem_toFinset.2 listed)
  unfold HasRoom
  rw [capacity]
  exact (Finset.card_le_card subset).trans room

/-- A node that is not on record yet fits into the table. -/
theorem HasRoom.length_lt (room : directory.HasRoom ids) (mem : id ∈ ids)
    (unknown : directory.contains id = false) : directory.records.length < directory.capacity := by
  have new : id ∉ directory.members := fun known =>
    Bool.eq_false_iff.1 unknown (mem_members.1 known)
  calc directory.records.length + 1
      = (Insert.insert id directory.members).card := by
        rw [Finset.card_insert_of_notMem new, card_members]
        rfl
    _ ≤ (directory.members ∪ ids.toFinset).card := by
        refine Finset.card_le_card (Finset.insert_subset ?_ Finset.subset_union_left)
        exact Finset.mem_union_right _ (List.mem_toFinset.2 mem)
    _ ≤ directory.capacity := room

theorem HasRoom.adjust (room : directory.HasRoom ids) (change : Record → Record) :
    (directory.adjust id change).HasRoom ids :=
  room.of_gained rfl fun other known => .inl ((contains_adjust directory id other change) ▸ known)

/-- A record of a node with room is put into the table, which keeps the room for the others. -/
theorem HasRoom.insert? {record : Record} (room : directory.HasRoom ids) (mem : record.id ∈ ids)
    (unknown : directory.contains record.id = false) :
    ∃ directory', directory.insert? record = some directory' ∧ directory'.HasRoom ids := by
  have fits := room.length_lt mem unknown
  refine ⟨directory.insert record fits, dif_pos fits, room.of_gained rfl fun id known => ?_⟩
  unfold contains at known
  rw [find?_insert] at known
  split at known
  · rename_i same
    exact .inr (same ▸ mem)
  · exact .inl known

theorem HasRoom.register (room : directory.HasRoom ids) (mem : id ∈ ids) (address : Address)
    (now : Int) :
    ∃ directory', directory.register id address now = .ok directory' ∧
      directory'.HasRoom ids := by
  unfold Directory.register
  split
  · exact ⟨_, rfl, room.adjust _⟩
  · rename_i unknown
    obtain ⟨directory', inserted, room'⟩ :=
      @HasRoom.insert? directory ids (Record.fresh id address now) room mem
        (Bool.eq_false_iff.2 unknown)
    rw [inserted]
    exact ⟨directory', rfl, room'⟩

/-! ## Lists -/

theorem HasRoom.mergeEntry {entry : PeerEntry} (room : directory.HasRoom ids)
    (mem : entry.id ∈ ids) (self : NodeId) (now : Int) :
    (directory.mergeEntry self now entry).1.HasRoom ids ∧
      (entry.id ≠ self → (directory.mergeEntry self now entry).1.contains entry.id = true) := by
  unfold Directory.mergeEntry
  split
  · rename_i itself
    exact ⟨room, fun other => absurd itself other⟩
  · simp only
    split
    · rename_i known
      exact ⟨room.adjust _, fun _ => (contains_adjust directory ..).trans known⟩
    · rename_i unknown
      obtain ⟨directory', inserted, room'⟩ := @HasRoom.insert? directory ids
        { Record.fresh entry.id entry.address (heardAt entry now) with isAlive := entry.isAlive }
        room mem (Bool.eq_false_iff.2 unknown)
      rw [inserted]
      exact ⟨room', fun _ => Option.isSome_iff_exists.2 ⟨_, find?_of_insert? inserted⟩⟩

theorem HasRoom.merge {entries : List PeerEntry} (room : directory.HasRoom ids)
    (listed : ∀ entry ∈ entries, entry.id ∈ ids) (self : NodeId) (now : Int) :
    (directory.merge self entries now).1.HasRoom ids := by
  rw [fst_merge]
  induction entries generalizing directory with
  | nil => exact room
  | cons entry rest ih =>
    have merged := room.mergeEntry (listed entry (List.mem_cons_self ..)) self now
    exact ih merged.1 fun other mem => listed other (List.mem_cons_of_mem _ mem)

/-- Every other node in a list that there is room for is on record then. -/
theorem contains_merge {entries : List PeerEntry} (room : directory.HasRoom ids)
    (listed : ∀ entry ∈ entries, entry.id ∈ ids) {entry : PeerEntry} (mem : entry ∈ entries)
    {self : NodeId} (other : entry.id ≠ self) (now : Int) :
    (directory.merge self entries now).1.contains entry.id = true := by
  obtain ⟨before, after, rfl⟩ := List.append_of_mem mem
  rw [fst_merge, List.foldl_append, List.foldl_cons]
  have room' : (before.foldl (fun directory entry => (directory.mergeEntry self now entry).1)
      directory).HasRoom ids := by
    rw [← fst_merge]
    exact room.merge (fun entry mem => listed entry (List.mem_append_left _ mem)) self now
  have merged := (room'.mergeEntry (listed entry mem) self now).2 other
  rw [← fst_merge]
  exact (learns_merge _ self after now).extends entry.id merged

end Directory

/-! ## Messages -/

namespace Node

variable {node : Node} {ids : List NodeId} {now : Int} {sender : NodeId} {source : Address}

theorem hasRoom_meet (room : node.state.directory.HasRoom ids) (mem : sender ∈ ids) :
    (node.meet now sender source).state.directory.HasRoom ids := by
  obtain ⟨directory, registered, room'⟩ := room.register mem source now
  simpa only [meet, registered] using room'

/-- A sender with room is known afterwards, at the address that its message came from. -/
theorem addressOf?_meet_of_hasRoom (room : node.state.directory.HasRoom ids)
    (mem : sender ∈ ids) : (node.meet now sender source).addressOf? sender = some source := by
  obtain ⟨directory, registered, -⟩ := room.register mem source now
  obtain ⟨record, found, rfl, -⟩ := Directory.find?_register registered
  simp only [addressOf?, meet, registered]
  exact congrArg (Option.map _) found

end Node

end SumCluster
