import SumCluster.Proofs.Directory.Records

/-!
# Copies

What a directory has taken over changes it no further when it comes again.  It depends on the record
of one node only (`Directory.Settles`), which a full table may lack for good: that of a node that was
just heard of (`Directory.Greeted`), or that of an entry in a list (`Directory.Absorbs`).  So to merge
a list twice is to merge it once (`Directory.merge_merge`).
-/

namespace SumCluster.Directory

variable {directory directory' : Directory} {self id : NodeId} {now : Int} {P : Record → Prop}

/-! ## Adjusting a record that needs it no more -/

theorem eq_of_records (records : directory.records = directory'.records)
    (capacity : directory.capacity = directory'.capacity) : directory = directory' := by
  cases directory
  cases directory'
  subst records capacity
  rfl

/-- A change that leaves the record of the node as it is leaves the table as it is. -/
theorem adjust_eq_self {change : Record → Record}
    (fixed : directory.All fun record => record.id = id → change record = record) :
    directory.adjust id change = directory := by
  refine eq_of_records ?_ rfl
  refine (List.map_congr_left fun record mem => ?_).trans (List.map_id _)
  by_cases same : record.id = id
  · simp only [if_pos same, fixed record mem same, id_eq]
  · simp only [if_neg same, id_eq]

theorem all_adjusted {change : Record → Record}
    (keepsId : ∀ record, (change record).id = record.id)
    (changed : ∀ record, record.id = id → P (change record)) :
    (directory.adjust id change).All fun record => record.id = id → P record := by
  intro record mem same
  obtain ⟨before, -, rfl⟩ := List.mem_map.1 mem
  have same : before.id = id := same
  have kept : { change before with id := before.id } = change before := by rw [← keepsId before]
  simp only [same, if_true]
  rw [← same, kept]
  exact changed before same

theorem adjust_adjust {change : Record → Record}
    (keepsId : ∀ record, (change record).id = record.id)
    (again : ∀ record, change (change record) = change record) :
    (directory.adjust id change).adjust id change = directory.adjust id change :=
  adjust_eq_self (all_adjusted keepsId fun record _ => again record)

theorem recordAck_recordAck (directory : Directory) (id : NodeId) (seqn : Seqn) :
    (directory.recordAck id seqn).recordAck id seqn = directory.recordAck id seqn := by
  refine adjust_adjust (fun _ => rfl) fun record => ?_
  have reached : max (max record.acked seqn) seqn = max record.acked seqn := by
    have higher : ∀ a b : Seqn, max a b = if a ≤ b then b else a := fun _ _ => rfl
    by_cases le : record.acked ≤ seqn <;> simp [higher, le]
  simp only [reached]

/-! ## Records that a full table may lack -/

/-- No record is removed, and a full table takes up no new one. -/
structure Grows (directory directory' : Directory) : Prop where
  keeps : directory.Extends directory'
  full : directory.isFull = true →
    directory'.isFull = true ∧ ∀ id, directory'.contains id = directory.contains id

theorem Grows.refl (directory : Directory) : directory.Grows directory :=
  ⟨fun _ knows => knows, fun full => ⟨full, fun _ => rfl⟩⟩

theorem Grows.trans {directory'' : Directory} (first : directory.Grows directory')
    (second : directory'.Grows directory'') : directory.Grows directory'' where
  keeps := first.keeps.trans second.keeps
  full full := by
    obtain ⟨full', same⟩ := first.full full
    obtain ⟨full'', same'⟩ := second.full full'
    exact ⟨full'', fun id => (same' id).trans (same id)⟩

theorem grows_mapRecords (directory : Directory) (change : Record → Record) :
    directory.Grows (directory.mapRecords change) where
  keeps _ knows := (contains_mapRecords directory change _).trans knows
  full full := by
    refine ⟨decide_eq_true ?_, contains_mapRecords directory change⟩
    rw [show (directory.mapRecords change).size = directory.size from List.length_map _]
    exact of_decide_eq_true full

theorem Learning.grows (learning : directory.Learning directory') :
    directory.Grows directory' := by
  cases learning with
  | change => exact grows_mapRecords directory _
  | insert fresh room =>
    refine ⟨(Learning.insert fresh room).extends, fun full => ?_⟩
    exact absurd room (Nat.not_lt.2 (of_decide_eq_true full))

theorem Learns.grows (learns : directory.Learns directory') : directory.Grows directory' := by
  induction learns with
  | refl => exact .refl directory
  | tail _ learning ih => exact ih.trans learning.grows

/-- The record of the node satisfies a predicate, or there is none and no room for one. -/
structure Settles (directory : Directory) (id : NodeId) (P : Record → Prop) : Prop where
  record : directory.All fun record => record.id = id → P record
  room : directory.contains id = false → directory.isFull = true

theorem contains_of_mem {record : Record} (mem : record ∈ directory.records) :
    directory.contains record.id = true :=
  Option.isSome_iff_exists.2 ⟨record, find?_of_mem mem⟩

theorem settles_of_unknown (unknown : directory.contains id = false)
    (full : directory.isFull = true) : directory.Settles id P where
  record record mem same := by
    have knows := contains_of_mem mem
    rw [same, unknown] at knows
    exact nomatch knows
  room _ := full

theorem settles_of_contains (knows : directory.contains id = true)
    (record : directory.All fun record => record.id = id → P record) :
    directory.Settles id P :=
  ⟨record, fun unknown => absurd knows (Bool.eq_false_iff.1 unknown)⟩

theorem settles_of_find? {record : Record} (found : directory.find? id = some record)
    (known : P record) : directory.Settles id P := by
  refine settles_of_contains (Option.isSome_iff_exists.2 ⟨record, found⟩) fun other mem same => ?_
  have found' := find?_of_mem mem
  rw [same, found] at found'
  obtain rfl := Option.some.inj found'
  exact known

theorem Settles.of_grows (settles : directory.Settles id P) (grows : directory.Grows directory')
    (record : directory.contains id = true →
      directory'.All fun record => record.id = id → P record) : directory'.Settles id P := by
  cases knows : directory.contains id with
  | true => exact settles_of_contains (grows.keeps id knows) (record knows)
  | false =>
    obtain ⟨full, same⟩ := grows.full (settles.room knows)
    exact settles_of_unknown ((same id).trans knows) full

/-! ## Nodes that were just heard of -/

/-- A node was just heard of at an address, or the table has no room for it. -/
def Greeted (directory : Directory) (id : NodeId) (address : Address) (now : Int) : Prop :=
  directory.Settles id fun record =>
    record.address = address ∧ record.isAlive = true ∧ record.lastHeard = now

theorem greeted_register {address : Address}
    (registered : directory.register id address now = .ok directory') :
    directory'.Greeted id address now := by
  obtain ⟨record, found, known⟩ := find?_register registered
  exact settles_of_find? found known

theorem greeted_of_register_error {address : Address} {error : ClusterError}
    (fails : directory.register id address now = .error error) :
    directory.Greeted id address now :=
  settles_of_unknown (contains_of_register_error fails) (isFull_of_register_error fails)

/-- Somebody who was just heard of is registered to no effect. -/
theorem Greeted.register {address : Address} (greeted : directory.Greeted id address now) :
    directory.register id address now = .ok directory ∨
      ∃ error, directory.register id address now = .error error := by
  unfold Directory.register
  split
  · refine .inl (congrArg Except.ok (adjust_eq_self fun record mem same => ?_))
    obtain ⟨rfl, alive, rfl⟩ := greeted.record record mem same
    rw [← alive]
  · rename_i unknown
    have full := greeted.room (Bool.eq_false_iff.2 unknown)
    rw [insert?_eq_none_iff.2 full]
    exact .inr ⟨_, rfl⟩

/-! ## Requests to join -/

/-- The table of a node after a request to join.  If it is answered, that is a sign of life of the
node itself. -/
def answerJoin (directory : Directory) (self id : NodeId) (now : Int) (window : Nat) :
    Directory :=
  match directory.recordJoin? id now window with
  | some joined => (joined.markAlive? self now).getD joined
  | none => directory

variable {joined : Directory} {window : Nat}

/-- The record of a node whose request is answered says so. -/
theorem all_joined (joins : directory.recordJoin? id now window = some joined) :
    joined.All fun record => record.id = id → record.lastJoin = some now := by
  unfold recordJoin? at joins
  split at joins
  · exact nomatch joins
  · split at joins
    · exact nomatch joins
    · obtain rfl := Option.some.inj joins
      exact all_adjusted (fun _ => rfl) fun _ _ => rfl

theorem recordJoin?_of_joined
    (noted : joined.All fun record => record.id = id → record.lastJoin = some now) :
    ∀ again, joined.recordJoin? id now window = some again → again = joined := by
  intro again joins
  unfold recordJoin? at joins
  split at joins
  · exact nomatch joins
  · split at joins
    · exact nomatch joins
    · obtain rfl := Option.some.inj joins
      refine adjust_eq_self fun record mem same => ?_
      rw [← noted record mem same]

theorem all_markedAlive (directory : Directory) (id : NodeId) (now : Int) :
    ((directory.markAlive? id now).getD directory).All fun record =>
      record.id = id → record.isAlive = true ∧ record.lastHeard = now := by
  unfold markAlive?
  split
  · exact all_adjusted (fun _ => rfl) fun _ _ => ⟨rfl, rfl⟩
  · rename_i unknown
    intro record mem same
    have knows := contains_of_mem mem
    exact absurd (same ▸ knows) unknown

theorem markAlive?_of_alive
    (alive : directory.All fun record =>
      record.id = id → record.isAlive = true ∧ record.lastHeard = now) :
    (directory.markAlive? id now).getD directory = directory := by
  unfold markAlive?
  split
  · refine adjust_eq_self fun record mem same => ?_
    obtain ⟨lives, rfl⟩ := alive record mem same
    rw [← lives]
  · rfl

/-- A second answer at the same instant notes nothing new. -/
theorem answerJoin_answerJoin (directory : Directory) (self id : NodeId) (now : Int)
    (window : Nat) :
    (directory.answerJoin self id now window).answerJoin self id now window =
      directory.answerJoin self id now window := by
  cases joins : directory.recordJoin? id now window with
  | none => simp only [answerJoin, joins]
  | some joined =>
    have noted : ((joined.markAlive? self now).getD joined).All fun record =>
        record.id = id → record.lastJoin = some now := by
      cases marked : joined.markAlive? self now with
      | none => exact all_joined joins
      | some later => exact all_markAlive? (all_joined joins) (fun _ _ noted => noted) marked
    have alive := all_markedAlive joined self now
    have once : directory.answerJoin self id now window =
        (joined.markAlive? self now).getD joined := by
      simp only [answerJoin, joins]
    rw [once]
    generalize (joined.markAlive? self now).getD joined = later at noted alive
    unfold answerJoin
    split
    · rename_i again joins
      obtain rfl := recordJoin?_of_joined noted again joins
      exact markAlive?_of_alive alive
    · rfl

/-! ## Lists -/

theorem fst_merge (directory : Directory) (self : NodeId) (entries : List PeerEntry) (now : Int) :
    (directory.merge self entries now).1 =
      entries.foldl (fun directory entry => (directory.mergeEntry self now entry).1)
        directory := by
  unfold merge
  generalize 0 = dropped
  induction entries generalizing directory dropped with
  | nil => rfl
  | cons entry rest ih => exact ih _ _

/-- The table has nothing to learn from an entry. -/
def Absorbs (directory : Directory) (self : NodeId) (now : Int) (entry : PeerEntry) : Prop :=
  entry.id ≠ self → directory.Settles entry.id fun record => heardAt entry now ≤ record.lastHeard

variable {entry : PeerEntry} {entries : List PeerEntry}

theorem mergeEntry_of_absorbs (absorbs : directory.Absorbs self now entry) :
    (directory.mergeEntry self now entry).1 = directory := by
  unfold mergeEntry
  split
  · rfl
  · rename_i ne
    simp only
    split
    · refine adjust_eq_self fun record mem same => ?_
      exact if_neg (Int.not_lt.2 ((absorbs ne).record record mem same))
    · rename_i unknown
      have full := (absorbs ne).room (Bool.eq_false_iff.2 unknown)
      rw [insert?_eq_none_iff.2 full]

theorem absorbs_mergeEntry (directory : Directory) (self : NodeId) (now : Int)
    (entry : PeerEntry) : (directory.mergeEntry self now entry).1.Absorbs self now entry := by
  intro ne
  unfold mergeEntry
  rw [if_neg ne]
  simp only
  split
  · rename_i knows
    refine settles_of_contains ((contains_adjust directory _ _ _).trans knows)
      (all_adjusted (fun record => ?_) fun record _ => ?_)
    · split <;> rfl
    · split
      · exact Int.le_refl _
      · rename_i notNewer
        exact Int.not_lt.1 notNewer
  · rename_i unknown
    split
    · rename_i inserted
      have found := find?_of_insert? inserted
      exact settles_of_find? found (Int.le_refl _)
    · rename_i noRoom
      exact settles_of_unknown (Bool.eq_false_iff.2 unknown) (insert?_eq_none_iff.1 noRoom)

/-- Other entries of a list do not bring an entry that was taken over to the fore again. -/
theorem Absorbs.mergeEntry (absorbs : directory.Absorbs self now entry) (other : PeerEntry) :
    (directory.mergeEntry self now other).1.Absorbs self now entry := by
  intro ne
  refine (absorbs ne).of_grows (learns_mergeEntry directory self now other).grows fun knows => ?_
  refine all_mergeEntry (absorbs ne).record fun _ => ⟨?_, fun unknown same => ?_⟩
  · intro record _ heard newer same
    exact Int.le_of_lt (Int.lt_of_le_of_lt (heard same) newer)
  · have same : other.id = entry.id := same
    rw [same, knows] at unknown
    exact nomatch unknown

theorem Absorbs.merge (absorbs : directory.Absorbs self now entry) (entries : List PeerEntry) :
    (directory.merge self entries now).1.Absorbs self now entry := by
  rw [fst_merge]
  induction entries generalizing directory with
  | nil => exact absorbs
  | cons other rest ih => exact ih (absorbs.mergeEntry other)

theorem absorbs_merge (directory : Directory) (self : NodeId) (now : Int)
    (mem : entry ∈ entries) : (directory.merge self entries now).1.Absorbs self now entry := by
  induction entries generalizing directory with
  | nil => exact nomatch mem
  | cons head rest ih =>
    have step : (directory.merge self (head :: rest) now).1 =
        ((directory.mergeEntry self now head).1.merge self rest now).1 := by
      simp only [fst_merge, List.foldl_cons]
    rw [step]
    rcases List.mem_cons.1 mem with rfl | mem
    · exact (absorbs_mergeEntry directory self now entry).merge rest
    · exact ih _ mem

theorem merge_of_absorbs (absorbs : ∀ entry ∈ entries, directory.Absorbs self now entry) :
    (directory.merge self entries now).1 = directory := by
  rw [fst_merge]
  induction entries with
  | nil => rfl
  | cons entry rest ih =>
    rw [List.foldl_cons, mergeEntry_of_absorbs (absorbs entry (List.mem_cons_self ..))]
    exact ih fun other mem => absorbs other (List.mem_cons_of_mem _ mem)

/-- To merge a list twice is to merge it once, also if a node is in it several times and if the
table has no room for all. -/
theorem merge_merge (directory : Directory) (self : NodeId) (entries : List PeerEntry)
    (now : Int) :
    ((directory.merge self entries now).1.merge self entries now).1 =
      (directory.merge self entries now).1 :=
  merge_of_absorbs fun _ mem => absorbs_merge directory self now mem

end SumCluster.Directory
