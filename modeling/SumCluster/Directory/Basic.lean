import SumCluster.Message
import SumCluster.Time

/-!
# The directory

The table of the nodes that a node has heard of, itself included. It holds at most one record for an
identifier, in ascending order, and at most as many records as its capacity. Records are never
removed; a silent node is only marked dead.
-/

namespace SumCluster

/-- A node and where it listens. -/
structure Peer where
  id : NodeId
  address : Address
  deriving DecidableEq, Repr, Inhabited

/-- What is known of one node. -/
structure Record where
  id : NodeId
  address : Address
  isAlive : Bool
  /-- When the node was last heard of. -/
  lastHeard : Int
  /-- The highest number that the node acknowledged. -/
  acked : Seqn
  /-- When a request of the node to join was last answered. -/
  lastJoin : Option Int
  deriving DecidableEq, Repr, Inhabited

namespace Record

/-- The record of a node heard of for the first time. -/
def fresh (id : NodeId) (address : Address) (now : Int) : Record :=
  ⟨id, address, true, now, 0, none⟩

/-- Alive and heard of within the timeout. -/
def isFresh (record : Record) (now : Int) (timeout : Nat) : Bool :=
  record.isAlive && Time.elapsed record.lastHeard now ≤ timeout

/-- Where the node listens. -/
def peer (record : Record) : Peer :=
  ⟨record.id, record.address⟩

/-- The record as it travels in a message. -/
def entry (record : Record) (now : Int) : PeerEntry :=
  ⟨record.id, record.address, record.isAlive, UInt64.ofNat (Time.elapsed record.lastHeard now)⟩

/-- Puts a record at its place among records in ascending order; one with the same identifier is
replaced. -/
def insert (record : Record) : List Record → List Record
  | [] => [record]
  | other :: rest =>
    if record.id < other.id then record :: other :: rest
    else if other.id < record.id then other :: insert record rest
    else record :: rest

theorem mem_insert {record other : Record} {records : List Record}
    (h : other ∈ insert record records) : other = record ∨ other ∈ records := by
  induction records with
  | nil => simpa [insert] using h
  | cons head rest ih =>
    unfold insert at h
    split at h
    · simpa using h
    · split at h
      · rcases List.mem_cons.1 h with rfl | h
        · simp
        · rcases ih h with rfl | h <;> simp [*]
      · rcases List.mem_cons.1 h with rfl | h <;> simp [*]

theorem pairwise_insert (record : Record) {records : List Record}
    (h : records.Pairwise (·.id < ·.id)) : (insert record records).Pairwise (·.id < ·.id) := by
  induction records with
  | nil => simp [insert]
  | cons head rest ih =>
    obtain ⟨below, sorted⟩ := List.pairwise_cons.1 h
    unfold insert
    split
    · rename_i less
      refine List.pairwise_cons.2 ⟨fun other mem => ?_, h⟩
      rcases List.mem_cons.1 mem with rfl | mem
      · exact less
      · exact UInt32.lt_trans less (below other mem)
    · split
      · rename_i less
        refine List.pairwise_cons.2 ⟨fun other mem => ?_, ih sorted⟩
        rcases mem_insert mem with rfl | mem
        · exact less
        · exact below other mem
      · rename_i notLess notGreater
        have same : record.id = head.id :=
          UInt32.le_antisymm (UInt32.not_lt.1 notGreater) (UInt32.not_lt.1 notLess)
        exact List.pairwise_cons.2 ⟨fun other mem => same ▸ below other mem, sorted⟩

theorem length_insert_le (record : Record) (records : List Record) :
    (insert record records).length ≤ records.length + 1 := by
  induction records with
  | nil => simp [insert]
  | cons head rest ih =>
    unfold insert
    split
    · simp
    · split
      · simpa using ih
      · simp

theorem find?_insert (record : Record) (records : List Record) (id : NodeId) :
    (insert record records).find? (·.id == id) =
      if record.id = id then some record else records.find? (·.id == id) := by
  induction records with
  | nil => by_cases h : record.id = id <;> simp [insert, h]
  | cons head rest ih =>
    unfold insert
    split
    · by_cases h : record.id = id <;> simp [h]
    · split
      · rename_i less
        by_cases h : head.id = id
        · have differ : record.id ≠ id := fun same => by
            rw [h, same] at less; exact UInt32.lt_irrefl _ less
          simp [h, differ]
        · simp [h, ih]
      · rename_i notLess notGreater
        have same : record.id = head.id :=
          UInt32.le_antisymm (UInt32.not_lt.1 notGreater) (UInt32.not_lt.1 notLess)
        by_cases h : record.id = id
        · simp [h]
        · have differ : head.id ≠ id := same ▸ h
          simp [h, differ]

end Record

/-- The table of the nodes that a node has heard of. -/
structure Directory where
  records : List Record
  capacity : Nat
  ascending : records.Pairwise (·.id < ·.id)
  fits : records.length ≤ capacity

namespace Directory

/-- A table without records. -/
def empty (capacity : Nat) : Directory :=
  ⟨[], capacity, .nil, Nat.zero_le _⟩

instance : Inhabited Directory := ⟨empty 0⟩

/-- The number of records. -/
def size (directory : Directory) : Nat :=
  directory.records.length

/-- Whether there is no room for another record. -/
def isFull (directory : Directory) : Bool :=
  directory.capacity ≤ directory.size

/-- The record of a node. -/
def find? (directory : Directory) (id : NodeId) : Option Record :=
  directory.records.find? (·.id == id)

/-- Whether a node has a record. -/
def contains (directory : Directory) (id : NodeId) : Bool :=
  (directory.find? id).isSome

/-- Where a node listens. -/
def addressOf? (directory : Directory) (id : NodeId) : Option Address :=
  (directory.find? id).map (·.address)

/-- Changes the records; identifiers stay as they are. -/
def mapRecords (directory : Directory) (change : Record → Record) : Directory where
  records := directory.records.map fun record => { change record with id := record.id }
  capacity := directory.capacity
  ascending := List.pairwise_map.2 directory.ascending
  fits := by simpa using directory.fits

/-- Changes the record of one node, if there is one. -/
def adjust (directory : Directory) (id : NodeId) (change : Record → Record) : Directory :=
  directory.mapRecords fun record => if record.id = id then change record else record

/-- Puts a record into a table with room for it. -/
def insert (directory : Directory) (record : Record)
    (room : directory.records.length < directory.capacity) : Directory where
  records := record.insert directory.records
  capacity := directory.capacity
  ascending := Record.pairwise_insert record directory.ascending
  fits := Nat.le_trans (Record.length_insert_le record directory.records) room

/-- Puts a record into the table, unless it is full. -/
def insert? (directory : Directory) (record : Record) : Option Directory :=
  if room : directory.records.length < directory.capacity then some (directory.insert record room)
  else none

/-! ## The record of a node after a change -/

theorem find?_mapRecords (directory : Directory) (change : Record → Record) (id : NodeId) :
    (directory.mapRecords change).find? id =
      (directory.find? id).map fun record => { change record with id := record.id } :=
  List.find?_map

theorem contains_mapRecords (directory : Directory) (change : Record → Record) (id : NodeId) :
    (directory.mapRecords change).contains id = directory.contains id := by
  simp [contains, find?_mapRecords]

theorem find?_insert (directory : Directory) (record : Record)
    (room : directory.records.length < directory.capacity) (id : NodeId) :
    (directory.insert record room).find? id =
      if record.id = id then some record else directory.find? id :=
  Record.find?_insert record directory.records id

theorem id_of_find? {directory : Directory} {id : NodeId} {record : Record}
    (h : directory.find? id = some record) : record.id = id := by
  simpa using List.find?_some h

theorem find?_adjust_self (directory : Directory) (id : NodeId) (change : Record → Record) :
    (directory.adjust id change).find? id =
      (directory.find? id).map fun record => { change record with id := id } := by
  unfold adjust
  rw [find?_mapRecords]
  cases h : directory.find? id with
  | none => rfl
  | some record => simp [id_of_find? h]

theorem find?_adjust_of_ne (directory : Directory) {id other : NodeId} (ne : other ≠ id)
    (change : Record → Record) :
    (directory.adjust id change).find? other = directory.find? other := by
  unfold adjust
  rw [find?_mapRecords]
  cases h : directory.find? other with
  | none => rfl
  | some record =>
    have same := id_of_find? h
    subst same
    simp [ne]

@[simp] theorem contains_adjust (directory : Directory) (id other : NodeId)
    (change : Record → Record) :
    (directory.adjust id change).contains other = directory.contains other :=
  contains_mapRecords directory _ other

end Directory

end SumCluster
