import SumCluster.Proofs.Directory.Learning

/-!
# What the records of a directory satisfy

A predicate on all records of a directory (`Directory.All`) is kept by an operation if the change of
one record keeps it, and if the record of a node heard of for the first time satisfies it.
-/

namespace SumCluster.Directory

/-- All records in the table satisfy a predicate. -/
def All (directory : Directory) (P : Record → Prop) : Prop :=
  ∀ record ∈ directory.records, P record

variable {directory directory' : Directory} {P : Record → Prop} {id : NodeId} {now : Int}

theorem mem_of_find? {record : Record} (found : directory.find? id = some record) :
    record ∈ directory.records :=
  List.mem_of_find?_eq_some found

/-- There is one record for each identifier. -/
theorem find?_of_mem {record : Record} (mem : record ∈ directory.records) :
    directory.find? record.id = some record := by
  have ascending := directory.ascending
  unfold find?
  revert mem ascending
  generalize directory.records = records
  intro mem ascending
  induction records with
  | nil => exact nomatch mem
  | cons head rest ih =>
    obtain ⟨below, sorted⟩ := List.pairwise_cons.1 ascending
    rcases List.mem_cons.1 mem with rfl | mem
    · simp
    · have differ : head.id ≠ record.id := UInt32.ne_of_lt (below record mem)
      simpa [differ] using ih mem sorted

theorem All.of_find? (all : directory.All P) {record : Record}
    (found : directory.find? id = some record) : P record :=
  all record (mem_of_find? found)

theorem all_adjust (all : directory.All P) {change : Record → Record}
    (keepsId : ∀ record, (change record).id = record.id)
    (keeps : ∀ record, record.id = id → P record → P (change record)) :
    (directory.adjust id change).All P := by
  intro record mem
  obtain ⟨before, before_mem, rfl⟩ := List.mem_map.1 mem
  by_cases same : before.id = id
  · have changed : { change before with id := before.id } = change before := by
      rw [← keepsId before]
    simp only [same, if_true]
    rw [← same, changed]
    exact keeps before same (all before before_mem)
  · simp only [same, if_false]
    exact all before before_mem

theorem all_insert (all : directory.All P) {record : Record} (new : P record)
    (room : directory.records.length < directory.capacity) :
    (directory.insert record room).All P := by
  intro other mem
  rcases Record.mem_insert mem with rfl | mem
  · exact new
  · exact all other mem

/-- A record that was put into the table is the one of its node. -/
theorem find?_of_insert? {record : Record}
    (inserted : directory.insert? record = some directory') :
    directory'.find? record.id = some record := by
  unfold insert? at inserted
  split at inserted
  · obtain rfl := Option.some.inj inserted
    rw [find?_insert, if_pos rfl]
  · simp at inserted

/-- A record finds no room exactly in a full table. -/
theorem insert?_eq_none_iff {record : Record} :
    directory.insert? record = none ↔ directory.isFull = true := by
  unfold insert? isFull size
  split <;> simp <;> omega

theorem all_insert? (all : directory.All P) {record : Record} (new : P record)
    (inserted : directory.insert? record = some directory') : directory'.All P := by
  unfold insert? at inserted
  split at inserted
  · rename_i room
    obtain rfl := Option.some.inj inserted
    exact all_insert all new room
  · simp at inserted

theorem all_register {address : Address} (all : directory.All P)
    (met : ∀ record, record.id = id → P record →
      P { record with address := address, isAlive := true, lastHeard := now })
    (new : directory.contains id = false → P (Record.fresh id address now))
    (registered : directory.register id address now = .ok directory') : directory'.All P := by
  unfold register at registered
  split at registered
  · obtain rfl := Except.ok.inj registered
    exact all_adjust all (fun _ => rfl) met
  · rename_i unknown
    split at registered
    · rename_i inserted
      obtain rfl := Except.ok.inj registered
      exact all_insert? all (new (Bool.eq_false_iff.2 unknown)) inserted
    · simp at registered

theorem all_markAlive? (all : directory.All P)
    (heard : ∀ record, record.id = id → P record →
      P { record with isAlive := true, lastHeard := now })
    (marked : directory.markAlive? id now = some directory') : directory'.All P := by
  unfold markAlive? at marked
  split at marked
  · obtain rfl := Option.some.inj marked
    exact all_adjust all (fun _ => rfl) heard
  · simp at marked

theorem all_recordJoin? {window : Nat} (all : directory.All P)
    (joined : ∀ record, P record → P { record with lastJoin := some now })
    (joins : directory.recordJoin? id now window = some directory') : directory'.All P := by
  unfold recordJoin? at joins
  split at joins
  · simp at joins
  · split at joins
    · simp at joins
    · obtain rfl := Option.some.inj joins
      exact all_adjust all (fun _ => rfl) fun record _ => joined record

theorem all_recordAck (all : directory.All P) {seqn : Seqn}
    (acked : ∀ record acked, P record → P { record with acked := acked }) :
    (directory.recordAck id seqn).All P :=
  all_adjust all (fun _ => rfl) fun record _ => acked record _

/-- A node that was registered is on record as it was heard of. -/
theorem find?_register {address : Address}
    (registered : directory.register id address now = .ok directory') :
    ∃ record, directory'.find? id = some record ∧ record.address = address ∧
      record.isAlive = true ∧ record.lastHeard = now := by
  unfold register at registered
  split at registered
  · rename_i known
    obtain ⟨record, found⟩ := Option.isSome_iff_exists.1 known
    obtain rfl := Except.ok.inj registered
    rw [find?_adjust_self, found]
    exact ⟨_, rfl, rfl, rfl, rfl⟩
  · split at registered
    · rename_i inserted
      obtain rfl := Except.ok.inj registered
      exact ⟨_, find?_of_insert? inserted, rfl, rfl, rfl⟩
    · simp at registered

/-- Only an unknown node can fail to be registered. -/
theorem contains_of_register_error {address : Address} {error : ClusterError}
    (fails : directory.register id address now = .error error) :
    directory.contains id = false := by
  unfold register at fails
  split at fails
  · simp at fails
  · rename_i unknown
    exact Bool.eq_false_iff.2 unknown

/-- A node can fail to be registered only if the table is full. -/
theorem isFull_of_register_error {address : Address} {error : ClusterError}
    (fails : directory.register id address now = .error error) : directory.isFull = true := by
  unfold register at fails
  split at fails
  · simp at fails
  · split at fails
    · simp at fails
    · rename_i noRoom
      exact insert?_eq_none_iff.1 noRoom

/-- What an entry of a list makes of the records of its node. -/
structure Tells (P : Record → Prop) (now : Int) (isNew : Prop) (entry : PeerEntry) : Prop where
  newer : ∀ record, record.id = entry.id → P record → record.lastHeard < heardAt entry now →
    P { record with lastHeard := heardAt entry now, isAlive := entry.isAlive }
  new : isNew →
    P { Record.fresh entry.id entry.address (heardAt entry now) with isAlive := entry.isAlive }

theorem all_mergeEntry {self : NodeId} {entry : PeerEntry} (all : directory.All P)
    (tells : entry.id ≠ self → Tells P now (directory.contains entry.id = false) entry) :
    (directory.mergeEntry self now entry).1.All P := by
  unfold mergeEntry
  split
  · exact all
  · rename_i other
    simp only
    split
    · refine all_adjust all (fun record => ?_) fun record same holds => ?_
      · split <;> rfl
      · split
        · rename_i newer
          exact (tells other).newer record same holds newer
        · exact holds
    · rename_i unknown
      split
      · rename_i inserted
        exact all_insert? all ((tells other).new (Bool.eq_false_iff.2 unknown)) inserted
      · exact all

theorem all_merge {self : NodeId} {entries : List PeerEntry} (all : directory.All P)
    (tells : ∀ entry ∈ entries, entry.id ≠ self →
      Tells P now (directory.contains entry.id = false) entry) :
    (directory.merge self entries now).1.All P := by
  unfold merge
  generalize 0 = dropped
  induction entries generalizing directory dropped with
  | nil => exact all
  | cons entry rest ih =>
    rw [List.foldl_cons]
    have merged := all_mergeEntry all (tells entry (List.mem_cons_self ..))
    refine ih merged (fun other mem ne => ?_) _
    have tells := tells other (List.mem_cons_of_mem _ mem) ne
    -- what is new to the table afterwards was new to it before
    refine ⟨tells.newer, fun unknown => tells.new (Bool.eq_false_iff.2 fun known => ?_)⟩
    have still := (learns_mergeEntry directory self now entry).extends other.id known
    exact absurd still (Bool.eq_false_iff.1 unknown)

end SumCluster.Directory
