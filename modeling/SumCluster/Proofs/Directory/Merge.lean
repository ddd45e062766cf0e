import Mathlib.Data.List.Induction
import SumCluster.Proofs.Directory.Copies

/-!
# What a merged list leaves

A list is merged entry by entry, so what an entry does depends on those before it.  All together they
do what the list says as a whole (`Directory.merge_takes_latest`): of the nodes that had no record, the first
ones that find room get one (`Directory.newcomers`), and the record of a node takes the latest of what
it says and of the entries about it (`Record.Gathers`); of several latest entries the first one counts.
-/

namespace SumCluster

open Directory (heardAt)

/-! ## What entries make of a record -/

namespace Record

variable {before after : Record} {entry first : PeerEntry} {own : List PeerEntry} {now : Int}

/-- The record after an entry about its node: only a newer observation changes it. -/
def observe (record : Record) (now : Int) (entry : PeerEntry) : Record :=
  if record.lastHeard < heardAt entry now then
    { record with lastHeard := heardAt entry now, isAlive := entry.isAlive }
  else record

/-- The record of a node that is known by an entry. -/
def ofEntry (entry : PeerEntry) (now : Int) : Record :=
  { fresh entry.id entry.address (heardAt entry now) with isAlive := entry.isAlive }

/-- What some entries about a node make of its record: it keeps the latest time of all, and the flag of
the first entry with that time, unless the record was as late itself. -/
structure Gathers (before : Record) (own : List PeerEntry) (now : Int) (after : Record) : Prop where
  address : after.address = before.address
  acked : after.acked = before.acked
  lastJoin : after.lastJoin = before.lastJoin
  latest : (before.lastHeard :: own.map (heardAt · now)).max? = some after.lastHeard
  flag_of_later : before.lastHeard < after.lastHeard →
    (own.find? fun entry => heardAt entry now = after.lastHeard).map (·.isAlive) =
      some after.isAlive
  flag_of_same : after.lastHeard = before.lastHeard → after.isAlive = before.isAlive

/-- What some entries about a new node make its record: it has the address of the first one, the latest
time of all, and the flag of the first entry with that time. -/
structure Arises (own : List PeerEntry) (now : Int) (after : Record) : Prop where
  address : own.head?.map (·.address) = some after.address
  acked : after.acked = 0
  lastJoin : after.lastJoin = none
  latest : (own.map (heardAt · now)).max? = some after.lastHeard
  flag : (own.find? fun entry => heardAt entry now = after.lastHeard).map (·.isAlive) =
    some after.isAlive

theorem gathers_nil (record : Record) (now : Int) : record.Gathers [] now record :=
  ⟨rfl, rfl, rfl, rfl, fun later => absurd later (Int.lt_irrefl _), fun _ => rfl⟩

theorem Gathers.le (gathers : before.Gathers own now after) : before.lastHeard ≤ after.lastHeard :=
  (List.max?_eq_some_iff.1 gathers.latest).2 _ (List.mem_cons_self ..)

theorem Gathers.heardAt_le (gathers : before.Gathers own now after) (mem : entry ∈ own) :
    heardAt entry now ≤ after.lastHeard :=
  (List.max?_eq_some_iff.1 gathers.latest).2 _ (List.mem_cons_of_mem _ (List.mem_map_of_mem mem))

/-- One more entry, after all others. -/
theorem Gathers.observe (gathers : before.Gathers own now after) (entry : PeerEntry) :
    before.Gathers (own ++ [entry]) now (after.observe now entry) := by
  obtain ⟨reached, bound⟩ := List.max?_eq_some_iff.1 gathers.latest
  by_cases newer : after.lastHeard < heardAt entry now
  · have changed : after.observe now entry =
        { after with lastHeard := heardAt entry now, isAlive := entry.isAlive } := if_pos newer
    rw [changed]
    refine ⟨gathers.address, gathers.acked, gathers.lastJoin, ?_, fun _ => ?_, fun same => ?_⟩
    · rw [List.max?_eq_some_iff, List.map_append, ← List.cons_append]
      refine ⟨List.mem_append_right _ (List.mem_singleton_self _), fun time mem => ?_⟩
      rcases List.mem_append.1 mem with mem | mem
      · exact Int.le_of_lt (Int.lt_of_le_of_lt (bound time mem) newer)
      · exact Int.le_of_eq (List.mem_singleton.1 mem)
    · -- no earlier entry is as late as this one
      have none : (own.find? fun other => heardAt other now = heardAt entry now) = none := by
        refine List.find?_eq_none.2 fun other mem => ?_
        have := gathers.heardAt_le mem
        simp only [decide_eq_true_eq]
        omega
      simp [none]
    · have := gathers.le
      simp only at same
      omega
  · have changed : after.observe now entry = after := if_neg newer
    rw [changed]
    refine ⟨gathers.address, gathers.acked, gathers.lastJoin, ?_, fun later => ?_,
      gathers.flag_of_same⟩
    · rw [List.max?_eq_some_iff, List.map_append, ← List.cons_append]
      refine ⟨List.mem_append_left _ reached, fun time mem => ?_⟩
      rcases List.mem_append.1 mem with mem | mem
      · exact bound time mem
      · exact (List.mem_singleton.1 mem) ▸ Int.not_lt.1 newer
    · obtain ⟨newest, found, flag⟩ := Option.map_eq_some_iff.1 (gathers.flag_of_later later)
      simp [found, flag]

/-- The first entry about a new node makes its record, and the others add to it. -/
theorem Gathers.arises (gathers : (ofEntry first now).Gathers own now after) :
    Arises (first :: own) now after := by
  refine ⟨congrArg some gathers.address.symm, gathers.acked, gathers.lastJoin, gathers.latest, ?_⟩
  by_cases same : after.lastHeard = heardAt first now
  · rw [List.find?_cons_of_pos (by simp [same])]
    exact congrArg some (gathers.flag_of_same same).symm
  · have later : heardAt first now < after.lastHeard :=
      Int.lt_iff_le_and_ne.2 ⟨gathers.le, Ne.symm same⟩
    rw [List.find?_cons_of_neg (by simpa using Ne.symm same)]
    exact gathers.flag_of_later later

theorem length_insert {record : Record} {records : List Record}
    (others : ∀ other ∈ records, other.id ≠ record.id) :
    (insert record records).length = records.length + 1 := by
  induction records with
  | nil => rfl
  | cons head rest ih =>
    have differs := others head (List.mem_cons_self ..)
    unfold insert
    split
    · rfl
    · rename_i notLess
      have less : head.id < record.id :=
        UInt32.lt_of_le_of_ne (UInt32.not_lt.1 notLess) differs
      rw [if_pos less, List.length_cons, List.length_cons,
        ih fun other mem => others other (List.mem_cons_of_mem _ mem)]

end Record

namespace Directory

variable {directory : Directory} {self id : NodeId} {now : Int} {entry : PeerEntry}
  {entries : List PeerEntry} {record : Record}

/-! ## One entry -/

/-- What becomes of an entry, and whether it is dropped. -/
inductive Merging (directory : Directory) (self : NodeId) (now : Int) (entry : PeerEntry) :
    Directory × Nat → Prop
  | own (same : entry.id = self) : Merging directory self now entry (directory, 0)
  | observed (other : entry.id ≠ self) (known : directory.contains entry.id = true) :
    Merging directory self now entry (directory.adjust entry.id (·.observe now entry), 0)
  | inserted (other : entry.id ≠ self) (unknown : directory.contains entry.id = false)
      (room : directory.records.length < directory.capacity) :
    Merging directory self now entry (directory.insert (Record.ofEntry entry now) room, 0)
  | dropped (other : entry.id ≠ self) (unknown : directory.contains entry.id = false)
      (full : directory.isFull = true) : Merging directory self now entry (directory, 1)

theorem merging_mergeEntry (directory : Directory) (self : NodeId) (now : Int)
    (entry : PeerEntry) :
    directory.Merging self now entry (directory.mergeEntry self now entry) := by
  unfold mergeEntry
  split
  · rename_i same
    exact .own same
  · rename_i other
    simp only
    split
    · rename_i known
      exact .observed other known
    · rename_i unknown
      have unknown := Bool.eq_false_iff.2 unknown
      split
      · rename_i merged inserted
        unfold insert? at inserted
        split at inserted
        · rename_i room
          obtain rfl := Option.some.inj inserted
          exact .inserted other unknown room
        · cases inserted
      · rename_i noRoom
        exact .dropped other unknown (insert?_eq_none_iff.1 noRoom)

variable {outcome : Directory × Nat}

theorem Merging.capacity_eq (merging : directory.Merging self now entry outcome) :
    outcome.1.capacity = directory.capacity := by
  cases merging <;> rfl

theorem Merging.find?_of_ne (merging : directory.Merging self now entry outcome)
    (ne : id ≠ entry.id) : outcome.1.find? id = directory.find? id := by
  cases merging with
  | own | dropped => rfl
  | observed => exact find?_adjust_of_ne directory ne _
  | inserted other unknown room =>
    rw [find?_insert]
    exact if_neg (Ne.symm ne)

theorem Merging.find?_self (merging : directory.Merging self now entry outcome) :
    outcome.1.find? self = directory.find? self := by
  by_cases same : entry.id = self
  · cases merging with
    | own => rfl
    | observed other | inserted other | dropped other => exact absurd same other
  · exact merging.find?_of_ne (Ne.symm same)

theorem Merging.find?_of_known (merging : directory.Merging self now entry outcome)
    (other : entry.id ≠ self) (found : directory.find? entry.id = some record) :
    outcome.1.find? entry.id = some (record.observe now entry) := by
  have known : directory.contains entry.id = true := Option.isSome_iff_exists.2 ⟨record, found⟩
  cases merging with
  | own same => exact absurd same other
  | observed =>
    rw [find?_adjust_self, found, ← id_of_find? found, Option.map_some]
    unfold Record.observe
    split <;> rfl
  | inserted _ unknown | dropped _ unknown => exact absurd known (Bool.eq_false_iff.1 unknown)

theorem Merging.find?_of_unknown (merging : directory.Merging self now entry outcome)
    (other : entry.id ≠ self) (unknown : directory.find? entry.id = none) :
    outcome.1.find? entry.id = some (Record.ofEntry entry now) ∨
      outcome.1.find? entry.id = none ∧ outcome.1.isFull = true := by
  cases merging with
  | own same => exact absurd same other
  | observed _ known => exact absurd known (by simp [contains, unknown])
  | inserted =>
    left
    rw [find?_insert]
    exact if_pos rfl
  | dropped _ _ full => exact .inr ⟨unknown, full⟩

/-- An entry counts as dropped if its node has no record afterwards. -/
theorem Merging.dropped_eq (merging : directory.Merging self now entry outcome) :
    outcome.2 = [entry].countP fun entry =>
      entry.id ≠ self && !outcome.1.contains entry.id := by
  cases merging with
  | own same => simp [same]
  | observed _ known => simp [known]
  | inserted => simp [contains, find?_insert, Record.ofEntry, Record.fresh]
  | dropped other unknown => simp [other, unknown]

/-! ## Lists -/

theorem merge_append_singleton (directory : Directory) (self : NodeId) (entries : List PeerEntry)
    (entry : PeerEntry) (now : Int) :
    directory.merge self (entries ++ [entry]) now =
      (((directory.merge self entries now).1.mergeEntry self now entry).1,
        (directory.merge self entries now).2 +
          ((directory.merge self entries now).1.mergeEntry self now entry).2) := by
  unfold merge
  rw [List.foldl_append]
  rfl

theorem capacity_merge (directory : Directory) (self : NodeId) (entries : List PeerEntry)
    (now : Int) : (directory.merge self entries now).1.capacity = directory.capacity := by
  induction entries using List.reverseRecOn with
  | nil => rfl
  | append_singleton entries entry ih =>
    rw [merge_append_singleton]
    exact (merging_mergeEntry _ self now entry).capacity_eq.trans ih

/-- The own record is not touched. -/
theorem find?_merge_self (directory : Directory) (self : NodeId) (entries : List PeerEntry)
    (now : Int) : (directory.merge self entries now).1.find? self = directory.find? self := by
  induction entries using List.reverseRecOn with
  | nil => rfl
  | append_singleton entries entry ih =>
    rw [merge_append_singleton]
    exact (merging_mergeEntry _ self now entry).find?_self.trans ih

/-- The entries about a node. -/
def about (id : NodeId) (entries : List PeerEntry) : List PeerEntry :=
  entries.filter fun entry => entry.id = id

theorem about_append_of_ne (ne : id ≠ entry.id) :
    about id (entries ++ [entry]) = about id entries := by
  simp [about, Ne.symm ne]

theorem about_append_of_eq : about entry.id (entries ++ [entry]) =
    about entry.id entries ++ [entry] := by
  simp [about]

/-- The record of a known node takes what the entries about it say. -/
theorem gathers_merge (directory : Directory) {self : NodeId} (entries : List PeerEntry)
    (now : Int) (other : id ≠ self) (found : directory.find? id = some record) :
    ∃ after, (directory.merge self entries now).1.find? id = some after ∧
      record.Gathers (about id entries) now after := by
  induction entries using List.reverseRecOn with
  | nil => exact ⟨record, found, record.gathers_nil now⟩
  | append_singleton entries entry ih =>
    obtain ⟨after, found, gathers⟩ := ih
    have merging := merging_mergeEntry (directory.merge self entries now).1 self now entry
    rw [merge_append_singleton]
    by_cases same : id = entry.id
    · subst same
      rw [about_append_of_eq]
      exact ⟨_, merging.find?_of_known other found, gathers.observe entry⟩
    · rw [about_append_of_ne same]
      exact ⟨after, (merging.find?_of_ne same).trans found, gathers⟩

/-- A new node gets its record from the first entry about it, unless the table is full. -/
theorem arises_or_full_merge (directory : Directory) {self : NodeId} (entries : List PeerEntry)
    (now : Int) (other : id ≠ self) (unknown : directory.find? id = none) :
    (∃ after first rest, (directory.merge self entries now).1.find? id = some after ∧
        about id entries = first :: rest ∧ (Record.ofEntry first now).Gathers rest now after) ∨
      (directory.merge self entries now).1.find? id = none ∧
        (about id entries = [] ∨ (directory.merge self entries now).1.isFull = true) := by
  induction entries using List.reverseRecOn with
  | nil => exact .inr ⟨unknown, .inl rfl⟩
  | append_singleton entries entry ih =>
    have merging := merging_mergeEntry (directory.merge self entries now).1 self now entry
    have grows := (learns_mergeEntry (directory.merge self entries now).1 self now entry).grows
    rw [merge_append_singleton]
    by_cases same : id = entry.id
    · subst same
      rw [about_append_of_eq]
      rcases ih with ⟨after, first, rest, found, own, gathers⟩ | ⟨unknown, unheard | full⟩
      · refine .inl ⟨_, first, rest ++ [entry], merging.find?_of_known other found, ?_,
          gathers.observe entry⟩
        rw [own, List.cons_append]
      · rcases merging.find?_of_unknown other unknown with found | ⟨unknown, full⟩
        · exact .inl ⟨_, entry, [], found, by rw [unheard, List.nil_append],
            Record.gathers_nil _ now⟩
        · exact .inr ⟨unknown, .inr full⟩
      · obtain ⟨full, same⟩ := grows.full full
        refine .inr ⟨?_, .inr full⟩
        have unknown : Directory.contains _ entry.id = false :=
          (same entry.id).trans (by simp [contains, unknown])
        simpa [contains] using unknown
    · rw [about_append_of_ne same, merging.find?_of_ne same]
      rcases ih with known | ⟨unknown, unheard | full⟩
      · exact .inl known
      · exact .inr ⟨unknown, .inl unheard⟩
      · exact .inr ⟨unknown, .inr (grows.full full).1⟩

/-! ### Who gets a record -/

/-- The other nodes in a list that have no record, each once, in the order of their first entries. -/
def newcomers (directory : Directory) (self : NodeId) (entries : List PeerEntry) : List NodeId :=
  ((entries.map (·.id)).filter fun id => id ≠ self && !directory.contains id).eraseDups

/-- Those of them that find room. -/
def admitted (directory : Directory) (self : NodeId) (entries : List PeerEntry) : List NodeId :=
  (directory.newcomers self entries).take (directory.capacity - directory.size)

theorem newcomers_append_singleton (directory : Directory) (self : NodeId)
    (entries : List PeerEntry) (entry : PeerEntry) :
    directory.newcomers self (entries ++ [entry]) = directory.newcomers self entries ++
      if entry.id ≠ self ∧ directory.contains entry.id = false ∧
        entry.id ∉ directory.newcomers self entries then [entry.id] else [] := by
  unfold newcomers
  rw [List.map_append, List.filter_append, List.eraseDups_append]
  congr 1
  simp only [List.mem_eraseDups]
  generalize (entries.map (·.id)).filter _ = seen
  by_cases other : entry.id = self
  · simp [other, List.removeAll]
  · cases known : directory.contains entry.id with
    | true => simp [known, List.removeAll]
    | false =>
      by_cases listed : entry.id ∈ seen <;>
        simp [other, known, listed, List.removeAll, List.eraseDups_cons]

theorem mem_newcomers_of_mem_admitted (mem : id ∈ directory.admitted self entries) :
    id ∈ directory.newcomers self entries :=
  List.mem_of_mem_take mem

/-- A table that has got records for some nodes, and for no others. -/
structure Admits (directory : Directory) (ids : List NodeId) (merged : Directory) : Prop where
  contains_iff : ∀ id, merged.contains id = true ↔ directory.contains id = true ∨ id ∈ ids
  size_eq : merged.size = directory.size + ids.length

theorem size_insert (unknown : directory.contains record.id = false)
    (room : directory.records.length < directory.capacity) :
    (directory.insert record room).size = directory.size + 1 := by
  have others : ∀ other ∈ directory.records, other.id ≠ record.id := by
    intro other mem same
    have known := contains_of_mem mem
    rw [same, unknown] at known
    exact nomatch known
  exact Record.length_insert others

theorem contains_insert (room : directory.records.length < directory.capacity) :
    (directory.insert record room).contains id = true ↔
      directory.contains id = true ∨ id = record.id := by
  unfold contains
  rw [find?_insert]
  by_cases same : record.id = id
  · simp [same]
  · simp [same, Ne.symm same]

/-- One more entry, of a table that has got records for the first newcomers that find room. -/
theorem Merging.admits {merged : Directory}
    (merging : merged.Merging self now entry outcome)
    (admits : directory.Admits (directory.admitted self entries) merged)
    (capacity : merged.capacity = directory.capacity) :
    directory.Admits (directory.admitted self (entries ++ [entry])) outcome.1 := by
  have length_eq : (directory.admitted self entries).length =
      min (directory.capacity - directory.size) (directory.newcomers self entries).length :=
    List.length_take
  have size_eq := admits.size_eq
  have append := newcomers_append_singleton directory self entries entry
  cases merging with
  | own same =>
    rw [if_neg fun new => new.1 same, List.append_nil] at append
    rwa [admitted, append]
  | observed other known =>
    have old : ¬(entry.id ≠ self ∧ directory.contains entry.id = false ∧
        entry.id ∉ directory.newcomers self entries) := by
      rintro ⟨-, unknown, unlisted⟩
      rcases (admits.contains_iff entry.id).1 known with known | listed
      · exact Bool.eq_false_iff.1 unknown known
      · exact unlisted (mem_newcomers_of_mem_admitted listed)
    rw [if_neg old, List.append_nil] at append
    rw [admitted, append]
    refine ⟨fun id => ?_, (List.length_map _).trans size_eq⟩
    rw [contains_adjust]
    exact admits.contains_iff id
  | inserted other unknown room =>
    have fits : (directory.newcomers self entries).length <
        directory.capacity - directory.size := by
      have : merged.size < merged.capacity := room
      omega
    have all : directory.admitted self entries = directory.newcomers self entries :=
      List.take_of_length_le (Nat.le_of_lt fits)
    have unmet := mt (admits.contains_iff entry.id).2 (Bool.eq_false_iff.1 unknown)
    rw [all, not_or] at unmet
    rw [if_pos ⟨other, Bool.eq_false_iff.2 unmet.1, unmet.2⟩] at append
    have admitted' : directory.admitted self (entries ++ [entry]) =
        directory.admitted self entries ++ [entry.id] := by
      rw [admitted, append, all]
      refine List.take_of_length_le ?_
      rw [List.length_append]
      exact fits
    rw [admitted']
    refine ⟨fun id => ?_, ?_⟩
    · rw [contains_insert, admits.contains_iff, or_assoc, List.mem_append, List.mem_singleton]
      rfl
    · rw [size_insert unknown room, size_eq, List.length_append]
      rfl
  | dropped other unknown full =>
    have filled : directory.capacity - directory.size ≤
        (directory.newcomers self entries).length := by
      have : merged.capacity ≤ merged.size := of_decide_eq_true full
      omega
    have same : directory.admitted self (entries ++ [entry]) =
        directory.admitted self entries := by
      rw [admitted, append]
      exact List.take_append_of_le_length filled
    rwa [same]

/-- Of the nodes without a record, the first that find room get one, in the order of the list. -/
theorem admits_merge (directory : Directory) (self : NodeId) (entries : List PeerEntry)
    (now : Int) :
    directory.Admits (directory.admitted self entries) (directory.merge self entries now).1 := by
  induction entries using List.reverseRecOn with
  | nil => exact ⟨fun id => by simp [admitted, newcomers, merge], by simp [admitted, newcomers, merge]⟩
  | append_singleton entries entry ih =>
    rw [merge_append_singleton]
    exact (merging_mergeEntry _ self now entry).admits ih (capacity_merge directory self entries now)

/-! ### Entries that are dropped -/

/-- The entries of other nodes that have no record afterwards are dropped, each time they come. -/
theorem snd_merge (directory : Directory) (self : NodeId) (entries : List PeerEntry) (now : Int) :
    (directory.merge self entries now).2 = entries.countP fun entry =>
      entry.id ≠ self && !(directory.merge self entries now).1.contains entry.id := by
  induction entries using List.reverseRecOn with
  | nil => rfl
  | append_singleton entries entry ih =>
    have dropped_eq :=
      (merging_mergeEntry (directory.merge self entries now).1 self now entry).dropped_eq
    have grows := (learns_mergeEntry (directory.merge self entries now).1 self now entry).grows
    rw [merge_append_singleton]
    simp only
    rw [List.countP_append, ← dropped_eq, ih]
    congr 1
    -- a node that was dropped before finds no room later either
    refine List.countP_congr fun other mem => ?_
    by_cases own : other.id = self
    · simp [own]
    · have stays : ((directory.merge self entries now).1.mergeEntry self now entry).1.contains
          other.id = (directory.merge self entries now).1.contains other.id := by
        cases known : (directory.merge self entries now).1.contains other.id with
        | true => exact grows.keeps other.id known
        | false =>
          have full := (absorbs_merge directory self now mem own).room known
          exact ((grows.full full).2 other.id).trans known
      rw [stays]

/-! ## The list as a whole -/

/-- What a list leaves of a table: the own record stays, none is removed, and the table keeps within its
capacity; of the nodes without a record the first ones that find room get one, and the entries of those
that do not are counted as dropped.  The record of a node that was known keeps the latest time of its
own and its entries, and the flag that goes with it; the one of a new node begins with the first entry.
The same list has no effect any more, and drops as many entries. -/
theorem merge_takes_latest (directory : Directory) (self : NodeId) (entries : List PeerEntry) (now : Int) :
    ∃ merged dropped, directory.merge self entries now = (merged, dropped) ∧
      merged.find? self = directory.find? self ∧
      (∀ id, directory.contains id = true → merged.contains id = true) ∧
      merged.capacity = directory.capacity ∧ merged.size ≤ directory.capacity ∧
      (∀ id, directory.contains id = false →
        (merged.contains id = true ↔ id ∈ (directory.newcomers self entries).take
          (directory.capacity - directory.size))) ∧
      dropped = entries.countP (fun entry => entry.id ≠ self && !merged.contains entry.id) ∧
      (∀ id before, id ≠ self → directory.find? id = some before →
        ∃ after, merged.find? id = some after ∧ before.Gathers (about id entries) now after) ∧
      (∀ id after, directory.contains id = false → merged.find? id = some after →
        after.Arises (about id entries) now) ∧
      merged.merge self entries now = (merged, dropped) := by
  refine ⟨(directory.merge self entries now).1, (directory.merge self entries now).2, rfl,
    find?_merge_self .., (learns_merge ..).extends, capacity_merge .., ?_, ?_, snd_merge .., ?_, ?_,
    ?_⟩
  · exact Nat.le_trans (directory.merge self entries now).1.fits (Nat.le_of_eq (capacity_merge ..))
  · intro id unknown
    rw [(directory.admits_merge self entries now).contains_iff, unknown]
    simp [admitted]
  · intro id before other found
    exact directory.gathers_merge entries now other found
  · intro id after unknown found
    have other : id ≠ self := by
      rintro rfl
      rw [find?_merge_self] at found
      simp [contains, found] at unknown
    have unknown : directory.find? id = none := by simpa [contains] using unknown
    rcases directory.arises_or_full_merge entries now other unknown with
      ⟨after', first, rest, found', own, gathers⟩ | ⟨unknown, -⟩
    · obtain rfl := Option.some.inj (found.symm.trans found')
      exact own ▸ gathers.arises
    · exact absurd (found.symm.trans unknown) (Option.some_ne_none after)
  · refine Prod.ext (merge_merge ..) ?_
    rw [snd_merge, merge_merge]
    exact (snd_merge ..).symm

/-- A table with room for one more node. -/
def crowded : Directory where
  records := [⟨1, .v4 ⟨10, 0, 0, 1⟩ 1, true, 0, 0, none⟩, ⟨2, .v4 ⟨10, 0, 0, 2⟩ 1, true, 40, 3, none⟩]
  capacity := 3
  ascending := by decide
  fits := by decide

/-- A list that names nodes several times, two of them without a record, and the owner of the table. -/
def gossip : List PeerEntry :=
  [⟨8, .v4 ⟨10, 0, 0, 8⟩ 1, true, 90⟩, ⟨9, .v4 ⟨10, 0, 0, 9⟩ 1, true, 0⟩,
    ⟨2, .v4 ⟨10, 0, 0, 7⟩ 1, false, 50⟩, ⟨8, .v4 ⟨10, 0, 0, 7⟩ 1, false, 20⟩,
    ⟨9, .v4 ⟨10, 0, 0, 9⟩ 1, true, 0⟩, ⟨2, .v4 ⟨10, 0, 0, 2⟩ 1, true, 50⟩,
    ⟨1, .v4 ⟨10, 0, 0, 7⟩ 1, false, 0⟩]

/-- One node takes a later time with the first flag that goes with it, one gets the last place, and
another one finds no room, twice. -/
theorem merge_takes_latest_crowded :
    ∃ merged, crowded.merge 1 gossip 100 = (merged, 2) ∧ merged.merge 1 gossip 100 = (merged, 2) ∧
      crowded.contains 8 = false ∧ crowded.contains 9 = false ∧
      merged.find? 2 = some ⟨2, .v4 ⟨10, 0, 0, 2⟩ 1, false, 50, 3, none⟩ ∧
      merged.find? 8 = some ⟨8, .v4 ⟨10, 0, 0, 8⟩ 1, false, 80, 0, none⟩ ∧
      merged.contains 9 = false ∧
      (∃ after, merged.find? 2 = some after ∧
        Record.Gathers ⟨2, .v4 ⟨10, 0, 0, 2⟩ 1, true, 40, 3, none⟩ (about 2 gossip) 100 after) ∧
      Record.Arises (about 8 gossip) 100 ⟨8, .v4 ⟨10, 0, 0, 8⟩ 1, false, 80, 0, none⟩ := by
  obtain ⟨merged, dropped, merges, -, -, -, -, -, -, known, new, again⟩ :=
    merge_takes_latest crowded 1 gossip 100
  obtain ⟨rfl, rfl⟩ := Prod.mk.inj merges
  exact ⟨_, rfl, again, by decide, by decide, rfl, rfl, by decide,
    known 2 _ (by decide) rfl, new 8 _ (by decide) rfl⟩

end Directory

end SumCluster
