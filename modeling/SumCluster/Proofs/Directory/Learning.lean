import Mathlib.Logic.Relation
import SumCluster.Directory.Liveness

/-!
# What a directory learns

Whatever is heard of a node, the table changes in two ways only (`Directory.Learning`): records
change, but for the numbers that were acknowledged, or a node heard of for the first time gets a
record.  So nobody's record is ever removed (`Learns.extends`).
-/

namespace SumCluster.Directory

/-- One change of a table, when something is heard of a node. -/
inductive Learning (directory : Directory) : Directory → Prop
  /-- Records change, but for the acknowledged numbers. -/
  | change {change : Record → Record} (keeps : ∀ record, (change record).acked = record.acked) :
    Learning directory (directory.mapRecords change)
  /-- A new node gets a record. -/
  | insert {record : Record} (fresh : record.acked = 0)
    (room : directory.records.length < directory.capacity) :
    Learning directory (directory.insert record room)

/-- Several changes of a table, one after the other. -/
def Learns : Directory → Directory → Prop :=
  Relation.ReflTransGen Learning

variable {directory directory' : Directory}

theorem Learns.refl (directory : Directory) : directory.Learns directory :=
  Relation.ReflTransGen.refl

theorem Learns.trans {directory'' : Directory} (first : directory.Learns directory')
    (second : directory'.Learns directory'') : directory.Learns directory'' :=
  Relation.ReflTransGen.trans first second

/-! ## Operations -/

theorem learns_mapRecords (directory : Directory) {change : Record → Record}
    (keeps : ∀ record, (change record).acked = record.acked) :
    directory.Learns (directory.mapRecords change) :=
  .single (.change keeps)

theorem learns_adjust (directory : Directory) (id : NodeId) {change : Record → Record}
    (keeps : ∀ record, (change record).acked = record.acked) :
    directory.Learns (directory.adjust id change) := by
  refine learns_mapRecords directory fun record => ?_
  split
  · exact keeps record
  · rfl

theorem learns_insert? {record : Record} (fresh : record.acked = 0)
    (inserted : directory.insert? record = some directory') : directory.Learns directory' := by
  unfold insert? at inserted
  split at inserted
  · rename_i room
    obtain rfl := Option.some.inj inserted
    exact .single (.insert fresh room)
  · simp at inserted

theorem learns_register {id : NodeId} {address : Address} {now : Int}
    (registered : directory.register id address now = .ok directory') :
    directory.Learns directory' := by
  unfold register at registered
  split at registered
  · obtain rfl := Except.ok.inj registered
    exact learns_adjust directory id fun _ => rfl
  · split at registered
    · rename_i inserted
      obtain rfl := Except.ok.inj registered
      exact learns_insert? rfl inserted
    · simp at registered

theorem learns_markAlive? {id : NodeId} {now : Int}
    (marked : directory.markAlive? id now = some directory') : directory.Learns directory' := by
  unfold markAlive? at marked
  split at marked
  · obtain rfl := Option.some.inj marked
    exact learns_adjust directory id fun _ => rfl
  · simp at marked

theorem learns_recordJoin? {id : NodeId} {now : Int} {window : Nat}
    (joined : directory.recordJoin? id now window = some directory') :
    directory.Learns directory' := by
  unfold recordJoin? at joined
  split at joined
  · simp at joined
  · split at joined
    · simp at joined
    · obtain rfl := Option.some.inj joined
      exact learns_adjust directory id fun _ => rfl

theorem learns_expire (directory : Directory) (self : NodeId) (now : Int) (timeout : Nat) :
    directory.Learns (directory.expire self now timeout) := by
  refine learns_mapRecords directory fun record => ?_
  split <;> rfl

theorem learns_mergeEntry (directory : Directory) (self : NodeId) (now : Int)
    (entry : PeerEntry) : directory.Learns (directory.mergeEntry self now entry).1 := by
  unfold mergeEntry
  split
  · exact .refl directory
  · simp only
    split
    · refine learns_adjust directory entry.id fun record => ?_
      split <;> rfl
    · split
      · rename_i inserted
        exact learns_insert? rfl inserted
      · exact .refl directory

theorem learns_merge (directory : Directory) (self : NodeId) (entries : List PeerEntry)
    (now : Int) : directory.Learns (directory.merge self entries now).1 := by
  unfold merge
  generalize 0 = dropped
  induction entries generalizing directory dropped with
  | nil => exact .refl directory
  | cons entry rest ih =>
    exact (learns_mergeEntry directory self now entry).trans (ih _ _)

/-! ## Records are never removed -/

/-- Whether a later table has kept all the nodes of an earlier one. -/
def Extends (directory directory' : Directory) : Prop :=
  ∀ id, directory.contains id = true → directory'.contains id = true

theorem Extends.trans {directory'' : Directory} (first : directory.Extends directory')
    (second : directory'.Extends directory'') : directory.Extends directory'' :=
  fun id knows => second id (first id knows)

theorem Learning.extends (learning : directory.Learning directory') :
    directory.Extends directory' := by
  intro id knows
  cases learning with
  | change => exact (contains_mapRecords directory _ id).trans knows
  | insert =>
    unfold contains at knows ⊢
    rw [find?_insert]
    split
    · rfl
    · exact knows

theorem Learns.extends (learns : directory.Learns directory') : directory.Extends directory' := by
  induction learns with
  | refl => exact fun _ knows => knows
  | tail _ learning ih => exact ih.trans learning.extends

end SumCluster.Directory
