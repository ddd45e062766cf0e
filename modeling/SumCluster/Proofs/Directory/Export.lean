import Mathlib.Algebra.Group.Int.Defs
import SumCluster.Proofs.Directory.Merge

/-!
# Tables that travel

A table travels as a list of ages, and the one who takes it over turns them back into times.  Nothing is
lost on the way, as long as the ages fit into a word (`Record.IsRecent`): a table learns nothing from its
own list, and an empty one becomes a copy, but for what concerns its owner and for acknowledgements and
requests to join (`Directory.merge_entries`).  So records get no fresher when they are passed on.
-/

namespace SumCluster

open Directory (heardAt)

namespace Record

variable {record : Record} {now : Int}

/-- The node was heard of by now, and less than a word of milliseconds ago. -/
def IsRecent (record : Record) (now : Int) : Prop :=
  now - 2 ^ 64 < record.lastHeard ∧ record.lastHeard ≤ now

instance (record : Record) (now : Int) : Decidable (record.IsRecent now) :=
  inferInstanceAs (Decidable (_ ∧ _))

/-- What others learn of the node from the record. -/
def hearsay (record : Record) : Record :=
  { record with acked := 0, lastJoin := none }

/-- The age of a recent record gives back the time. -/
theorem IsRecent.heardAt_entry (recent : record.IsRecent now) :
    heardAt (record.entry now) now = record.lastHeard := by
  obtain ⟨late, past⟩ := recent
  have fits : (now - record.lastHeard).toNat < 2 ^ 64 := by omega
  have age : (UInt64.ofNat (now - record.lastHeard).toNat).toNat = (now - record.lastHeard).toNat :=
    UInt64.toNat_ofNat_of_lt fits
  show now - ((UInt64.ofNat (now - record.lastHeard).toNat).toNat : Int) = record.lastHeard
  rw [age]
  omega

theorem IsRecent.ofEntry_entry (recent : record.IsRecent now) :
    ofEntry (record.entry now) now = record.hearsay := by
  unfold ofEntry
  rw [recent.heardAt_entry]
  rfl

/-- A record above all others comes last. -/
theorem insert_of_above {records : List Record} (above : ∀ other ∈ records, other.id < record.id) :
    insert record records = records ++ [record] := by
  induction records with
  | nil => rfl
  | cons head rest ih =>
    have less := above head (List.mem_cons_self ..)
    unfold insert
    rw [if_neg (UInt32.lt_asymm less), if_pos less,
      ih fun other mem => above other (List.mem_cons_of_mem _ mem)]
    rfl

end Record

namespace Directory

variable {directory : Directory} {now : Int} {self : NodeId}

/-- The whole table travels. -/
theorem entries_eq (directory : Directory) (now : Int) :
    directory.entries now = directory.records.map (·.entry now) := by
  unfold entries
  rw [List.take_of_length_le directory.fits]

/-- A table learns nothing from its own list. -/
theorem merge_entries_self (recent : directory.All (·.IsRecent now)) (self : NodeId) :
    directory.merge self (directory.entries now) now = (directory, 0) := by
  rw [entries_eq]
  have known : ∀ entry ∈ directory.records.map (·.entry now),
      directory.contains entry.id = true := by
    intro entry mem
    obtain ⟨record, record_mem, rfl⟩ := List.mem_map.1 mem
    exact contains_of_mem record_mem
  have same : (directory.merge self (directory.records.map (·.entry now)) now).1 = directory := by
    refine merge_of_absorbs fun entry mem _ => settles_of_contains (known entry mem) ?_
    obtain ⟨record, record_mem, rfl⟩ := List.mem_map.1 mem
    intro other other_mem same_id
    have found := find?_of_mem other_mem
    rw [same_id] at found
    obtain rfl := Option.some.inj ((find?_of_mem record_mem).symm.trans found)
    exact Int.le_of_eq (recent _ record_mem).heardAt_entry
  refine Prod.ext same ?_
  rw [snd_merge, same]
  refine List.countP_eq_zero.2 fun entry mem => ?_
  simp [known entry mem]

/-- What an empty table with enough room takes from some records in ascending order. -/
theorem merge_empty_map_entry {records : List Record} {capacity : Nat}
    (ascending : records.Pairwise (·.id < ·.id)) (recent : ∀ record ∈ records, record.IsRecent now)
    (room : records.length ≤ capacity) :
    ∃ copy, (empty capacity).merge self (records.map (·.entry now)) now = (copy, 0) ∧
      copy.capacity = capacity ∧
      copy.records = (records.filter (·.id ≠ self)).map Record.hearsay := by
  induction records using List.reverseRecOn with
  | nil => exact ⟨_, rfl, rfl, rfl⟩
  | append_singleton records record ih =>
    obtain ⟨ascending, -, below⟩ := List.pairwise_append.1 ascending
    rw [List.length_append] at room
    obtain ⟨copy, merges, capacity_eq, records_eq⟩ := ih ascending
      (fun other mem => recent other (List.mem_append_left _ mem)) (Nat.le_of_succ_le room)
    have heard := recent record (List.mem_append_right _ (List.mem_singleton_self _))
    rw [List.map_append, List.map_singleton, merge_append_singleton, merges, List.filter_append,
      List.map_append, ← records_eq]
    by_cases own : record.id = self
    · refine ⟨copy, ?_, capacity_eq, by simp [own]⟩
      simp [mergeEntry, Record.entry, own]
    · have above : ∀ other ∈ copy.records, other.id < record.id := by
        intro other mem
        rw [records_eq] at mem
        obtain ⟨earlier, earlier_mem, rfl⟩ := List.mem_map.1 mem
        exact below earlier (List.mem_filter.1 earlier_mem).1 record (List.mem_singleton_self _)
      have fits : copy.records.length < copy.capacity := by
        have := List.length_filter_le (fun record => decide (record.id ≠ self)) records
        rw [records_eq, List.length_map, capacity_eq]
        simp only [List.length_singleton] at room
        omega
      have unknown : copy.contains record.id = false := by
        refine Bool.eq_false_iff.2 fun known => ?_
        obtain ⟨other, found⟩ := Option.isSome_iff_exists.1 known
        have less := above other (mem_of_find? found)
        rw [id_of_find? found] at less
        exact UInt32.lt_irrefl _ less
      have merging := copy.merging_mergeEntry self now (record.entry now)
      generalize copy.mergeEntry self now (record.entry now) = outcome at merging
      cases merging with
      | own same => exact absurd same own
      | observed _ known => exact absurd known (Bool.eq_false_iff.1 unknown)
      | dropped _ _ full => exact absurd fits (Nat.not_lt.2 (of_decide_eq_true full))
      | inserted =>
        refine ⟨_, rfl, capacity_eq, ?_⟩
        show Record.insert _ copy.records = _
        rw [heard.ofEntry_entry, @Record.insert_of_above record.hearsay _ above]
        simp [own]

/-- A table whose records are recent learns nothing from its own list, and an empty one with enough room
takes over all records but the owner's, without the acknowledgements and the requests to join.  The list
of the copy is that of the table, but for the owner. -/
theorem merge_entries (directory : Directory) (now : Int)
    (recent : ∀ record ∈ directory.records,
      now - 2 ^ 64 < record.lastHeard ∧ record.lastHeard ≤ now) (self : NodeId) :
    directory.merge self (directory.entries now) now = (directory, 0) ∧
      ∀ capacity, directory.size ≤ capacity →
        ∃ copy, (empty capacity).merge self (directory.entries now) now = (copy, 0) ∧
          copy.records = (directory.records.filter (·.id ≠ self)).map
            (fun record => { record with acked := 0, lastJoin := none }) ∧
          copy.entries now = (directory.entries now).filter (·.id ≠ self) := by
  refine ⟨merge_entries_self recent self, fun capacity room => ?_⟩
  obtain ⟨copy, merges, -, records_eq⟩ :=
    @merge_empty_map_entry now self directory.records capacity directory.ascending recent room
  rw [← entries_eq] at merges
  refine ⟨copy, merges, records_eq, ?_⟩
  rw [entries_eq, entries_eq, records_eq, List.map_map, List.filter_map]
  rfl

/-- A copy for node 2 of a table with a dead node that was heard of long ago. -/
theorem merge_entries_stale :
    let table : Directory :=
      { records := [⟨1, .v4 ⟨10, 0, 0, 1⟩ 1, true, 7, 4, some 3⟩, ⟨2, .v4 ⟨10, 0, 0, 2⟩ 1, true, 9, 2, none⟩,
          ⟨3, .v4 ⟨10, 0, 0, 3⟩ 1, false, 10 - 2 ^ 64, 5, some 1⟩]
        capacity := 3
        ascending := by decide
        fits := by decide }
    (∀ record ∈ table.records, 9 - 2 ^ 64 < record.lastHeard ∧ record.lastHeard ≤ 9) ∧
      table.merge 2 (table.entries 9) 9 = (table, 0) ∧
      ∃ copy, (empty 3).merge 2 (table.entries 9) 9 = (copy, 0) ∧
        copy.records = [⟨1, .v4 ⟨10, 0, 0, 1⟩ 1, true, 7, 0, none⟩,
          ⟨3, .v4 ⟨10, 0, 0, 3⟩ 1, false, 10 - 2 ^ 64, 0, none⟩] ∧
        copy.entries 9 = (table.entries 9).filter (·.id ≠ 2) := by
  intro table
  have recent : ∀ record ∈ table.records,
      9 - 2 ^ 64 < record.lastHeard ∧ record.lastHeard ≤ 9 := by decide
  obtain ⟨same, copies⟩ := merge_entries table 9 recent 2
  exact ⟨recent, same, copies 3 (by decide)⟩

end Directory

end SumCluster
