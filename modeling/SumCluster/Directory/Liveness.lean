import SumCluster.Directory.Basic
import SumCluster.Error

/-!
# Liveness

How a directory follows what is heard of the nodes in it, directly or by gossip, and whom it counts
as alive.
-/

namespace SumCluster.Directory

/-- Notes that a node was heard of at an address. A node without a record gets one; this fails if
the table is full. -/
def register (directory : Directory) (id : NodeId) (address : Address) (now : Int) :
    Except ClusterError Directory :=
  if directory.contains id then
    .ok <| directory.adjust id fun record =>
      { record with address := address, isAlive := true, lastHeard := now }
  else
    match directory.insert? (Record.fresh id address now) with
    | some directory => .ok directory
    | none => .error (.directoryFull directory.capacity)

/-- Marks a known node alive. -/
def markAlive? (directory : Directory) (id : NodeId) (now : Int) : Option Directory :=
  if directory.contains id then
    some <| directory.adjust id fun record => { record with isAlive := true, lastHeard := now }
  else none

/-- Marks a known node dead. -/
def markDead? (directory : Directory) (id : NodeId) : Option Directory :=
  if directory.contains id then
    some <| directory.adjust id fun record => { record with isAlive := false }
  else none

/-- Raises the number that a node acknowledged; it is never lowered. -/
def recordAck (directory : Directory) (id : NodeId) (seqn : Seqn) : Directory :=
  directory.adjust id fun record => { record with acked := max record.acked seqn }

/-- Whether a request of the node to join was answered less than `window` ago. -/
def joinedWithin (record : Record) (now : Int) (window : Nat) : Bool :=
  record.lastJoin.any fun answered => Time.elapsed answered now < window

/-- Notes that a request of a known node to join is answered now, unless one was answered within the
window: the copies of a burst are answered once. -/
def recordJoin? (directory : Directory) (id : NodeId) (now : Int) (window : Nat) :
    Option Directory :=
  match directory.find? id with
  | none => none
  | some record =>
    if joinedWithin record now window then none
    else some <| directory.adjust id fun record => { record with lastJoin := some now }

/-- Whether the believed primary is known, alive and heard of within the timeout. -/
def isPrimaryAlive (directory : Directory) (primary : Option NodeId) (now : Int)
    (timeout : Nat) : Bool :=
  (primary.bind directory.find?).any (·.isFresh now timeout)

/-- The other nodes marked alive. -/
def alivePeers (directory : Directory) (self : NodeId) : List Peer :=
  (directory.records.filter fun record => record.id ≠ self && record.isAlive).map Record.peer

/-- The other nodes, alive or not. -/
def knownPeers (directory : Directory) (self : NodeId) : List Peer :=
  (directory.records.filter fun record => record.id ≠ self).map Record.peer

/-- The identifier that comes next. After the highest one there is none, and it stays. -/
def successor (id : NodeId) : NodeId :=
  UInt32.ofNat (min (id.toNat + 1) (UInt32.size - 1))

/-- The records from an identifier on. -/
def recordsFrom (directory : Directory) (first : NodeId) : List Record :=
  directory.records.dropWhile (·.id < first)

/-- The nodes with a higher identifier that are alive and heard of within the timeout. The lower ones
are skipped without a look. -/
def freshHigher (directory : Directory) (self : NodeId) (now : Int) (timeout : Nat) :
    List Peer :=
  ((directory.recordsFrom (successor self)).filter fun record =>
    self < record.id && record.isFresh now timeout).map Record.peer

theorem successor_le {self id : NodeId} (higher : self < id) : successor self ≤ id := by
  rw [UInt32.lt_iff_toNat_lt] at higher
  have bound := id.toNat_lt
  have fits : min (self.toNat + 1) (UInt32.size - 1) < UInt32.size := by
    unfold UInt32.size
    omega
  have value : (successor self).toNat = min (self.toNat + 1) (UInt32.size - 1) :=
    UInt32.toNat_ofNat_of_lt fits
  rw [UInt32.le_iff_toNat_le, value]
  omega

/-- Whoever looks for records from an identifier on only may skip those before it. -/
theorem filter_recordsFrom (directory : Directory) {first : NodeId} {select : Record → Bool}
    (above : ∀ record, select record = true → first ≤ record.id) :
    (directory.recordsFrom first).filter select = directory.records.filter select := by
  unfold recordsFrom
  induction directory.records with
  | nil => rfl
  | cons record rest ih =>
    rw [List.dropWhile_cons]
    split
    · rename_i before
      rw [ih, List.filter_cons_of_neg]
      exact fun selected => UInt32.not_lt.2 (above record selected) (of_decide_eq_true before)
    · rfl

theorem freshHigher_eq (directory : Directory) (self : NodeId) (now : Int) (timeout : Nat) :
    directory.freshHigher self now timeout = (directory.records.filter fun record =>
      self < record.id && record.isFresh now timeout).map Record.peer := by
  unfold freshHigher
  rw [filter_recordsFrom]
  intro record fresh
  exact successor_le (of_decide_eq_true (Bool.and_eq_true_iff.1 fresh).1)

/-- Whether another node is marked alive but was silent for longer than the timeout. -/
def isOverdue (self : NodeId) (now : Int) (timeout : Nat) (record : Record) : Bool :=
  record.id ≠ self && record.isAlive && timeout < Time.elapsed record.lastHeard now

/-- Marks dead every other node that was silent for longer than the timeout. -/
def expire (directory : Directory) (self : NodeId) (now : Int) (timeout : Nat) : Directory :=
  directory.mapRecords fun record =>
    if isOverdue self now timeout record then { record with isAlive := false } else record

/-- The nodes that `expire` marks dead. -/
def overdue (directory : Directory) (self : NodeId) (now : Int) (timeout : Nat) :
    List NodeId :=
  (directory.records.filter (isOverdue self now timeout)).map (·.id)

/-- The other nodes marked alive that have not acknowledged a number. -/
def missingAcks (directory : Directory) (self : NodeId) (seqn : Seqn) : List NodeId :=
  (directory.records.filter fun record =>
    record.id ≠ self && record.isAlive && record.acked < seqn).map (·.id)

/-- The table as it travels in a message. -/
def entries (directory : Directory) (now : Int) : List PeerEntry :=
  (directory.records.take directory.capacity).map (·.entry now)

/-- When the sender of an entry last heard of the node, seen from `now`. -/
def heardAt (entry : PeerEntry) (now : Int) : Int :=
  now - entry.age.toNat

/-- Takes over one entry from another node's table, and tells how many entries found no room: one or
none. Only a newer observation changes a record, and its address stays. The node's own record is
its own affair. -/
def mergeEntry (directory : Directory) (self : NodeId) (now : Int) (entry : PeerEntry) :
    Directory × Nat :=
  if entry.id = self then (directory, 0)
  else
    let heard := heardAt entry now
    if directory.contains entry.id then
      (directory.adjust entry.id fun record =>
        if record.lastHeard < heard then
          { record with lastHeard := heard, isAlive := entry.isAlive }
        else record, 0)
    else
      match directory.insert?
          { Record.fresh entry.id entry.address heard with isAlive := entry.isAlive } with
      | some directory => (directory, 0)
      | none => (directory, 1)

/-- Takes over another node's table, entry by entry, and counts the entries that found no room. -/
def merge (directory : Directory) (self : NodeId) (entries : List PeerEntry) (now : Int) :
    Directory × Nat :=
  entries.foldl
    (fun (directory, dropped) entry =>
      let (directory, more) := directory.mergeEntry self now entry
      (directory, dropped + more))
    (directory, 0)

end SumCluster.Directory
