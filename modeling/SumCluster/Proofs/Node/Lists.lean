import SumCluster.Proofs.Config
import SumCluster.Proofs.Node.Requests

/-!
# The lists that a node sends

A node sends its list only when it answers a request to join, and then all of it
(`Node.Deed.listed`).  Its own record is there from the beginning, with the address where it
listens, and nobody else has a say in it (`Node.OwnRecord`).  So every list is complete, in order,
within bounds, and right about its sender (`Node.lists_complete`).
-/

namespace SumCluster

open Directory (Operation)

namespace Directory

variable {directory : Directory} {id : NodeId} {record : Record}

/-- There is no other record of a node than the one that is found. -/
theorem filter_id_eq (found : directory.find? id = some record) :
    directory.records.filter (·.id = id) = [record] := by
  have ascending := directory.ascending
  unfold find? at found
  revert found ascending
  generalize directory.records = records
  intro found ascending
  induction records with
  | nil => exact nomatch found
  | cons head rest ih =>
    obtain ⟨below, sorted⟩ := List.pairwise_cons.1 ascending
    by_cases same : head.id = id
    · have others : rest.filter (·.id = id) = [] := by
        refine List.filter_eq_nil_iff.2 fun other mem => ?_
        simpa [same] using (UInt32.ne_of_lt (same ▸ below other mem)).symm
      rw [List.filter_cons_of_pos (by simp [same]), others]
      simp only [same, beq_self_eq_true, List.find?_cons_of_pos] at found
      rw [Option.some.inj found]
    · rw [List.filter_cons_of_neg (by simp [same])]
      exact ih (by simpa [same] using found) sorted

end Directory

namespace Node

/-- The node is on record itself, as alive, with the address where it listens. -/
def OwnRecord (address : Address) (node : Node) (record : Record) : Prop :=
  node.state.directory.find? node.id = some record ∧ record.address = address ∧
    record.isAlive = true

section Created

variable {config : Config} {address : Address} {since : Int} {first : Node}

theorem ownRecord_of_create (created : create config address since = .ok first) :
    ∃ record, first.OwnRecord address record := by
  have valid := isValid_of_create created
  obtain ⟨directory, rfl, registered⟩ := of_create created
  obtain ⟨middle, registers, others⟩ := registerAll_cons registered
  obtain ⟨record, found, same, alive, -⟩ := Directory.find?_register registers
  refine ⟨record, ?_, same, alive⟩
  refine registerAll_induction (P := fun directory => directory.find? config.id = some record)
    others found fun directory peer mem found => ?_
  exact (Directory.find?_register_of_ne (valid.ne_id mem).symm).trans found

theorem capacity_of_create (created : create config address since = .ok first) :
    first.state.directory.capacity = config.maxReplicas := by
  obtain ⟨directory, rfl, registered⟩ := of_create created
  refine registerAll_induction (P := fun directory => directory.capacity = config.maxReplicas)
    registered rfl fun directory peer _ same => ?_
  exact (directory.effect_register peer.id peer.address since).capacity_eq.trans same

end Created

section Runs

variable {config : Config} {address : Address} {since now : Int} {first node next : Node}
  {record : Record} {cause : Cause} {letters : List Letter}

theorem OwnRecord.deed (own : node.OwnRecord address record)
    (deed : node.Deed now cause next letters) : ∃ record, next.OwnRecord address record := by
  obtain ⟨found, same, alive⟩ := own
  unfold OwnRecord
  rw [deed.id_eq]
  rcases deed.own_record found with stays | ⟨-, refreshed⟩
  · exact ⟨record, stays, same, alive⟩
  · exact ⟨_, refreshed, same, rfl⟩

theorem Deeds.ownRecord (deeds : first.Deeds node) (own : first.OwnRecord address record) :
    ∃ record, node.OwnRecord address record :=
  deeds.invariant (P := fun later => ∃ record, later.OwnRecord address record)
    (fun ⟨_, own⟩ deed => own.deed deed) ⟨record, own⟩

theorem Deeds.capacity_eq (deeds : first.Deeds node) :
    node.state.directory.capacity = first.state.directory.capacity :=
  deeds.invariant (fun same deed => deed.capacity_eq.trans same) rfl

/-- A node that answers a request was heard of by itself just now. -/
theorem Attends.lastHeard_eq {joiner : NodeId} {source : Address} {effects : Effects}
    (attends : node.Attends now joiner source next effects) (sent : effects.letters ≠ [])
    (found : next.state.directory.find? node.id = some record) : record.lastHeard = now := by
  cases attends with
  | own | silent => exact absurd rfl sent
  | answered _ _ state =>
    rw [state] at found
    obtain ⟨before, -, rfl⟩ := Option.map_eq_some_iff.1
      ((Directory.find?_markAlive _ node.id now).symm.trans found)
    rfl

end Runs

/-- What a list tells of a node that was heard of by itself just now. -/
theorem OwnRecord.filter_entries {node : Node} {address : Address} {record : Record} {now : Int}
    (own : node.OwnRecord address record) (heard : record.lastHeard = now) :
    (node.state.directory.entries now).filter (·.id = node.id) =
      [⟨node.id, address, true, 0⟩] := by
  obtain ⟨found, same, alive⟩ := own
  have entry : record.entry now = ⟨node.id, address, true, 0⟩ := by
    rw [Record.entry_of_now heard, Directory.id_of_find? found, same, alive]
  calc (node.state.directory.entries now).filter (·.id = node.id)
      = (node.state.directory.records.filter (·.id = node.id)).map (·.entry now) := by
        rw [Directory.entries_eq, List.filter_map]
        rfl
    _ = [⟨node.id, address, true, 0⟩] := by
        rw [Directory.filter_id_eq found, List.map_singleton, entry]

/-- A node has a record of itself at every time since it was created, as alive and with the address
where it listens.  Whatever it does, that record stays as it is, but for the time when it answers a
request of another node to join.  Whenever it sends a list, it does so in its own name, names whom
it follows, and tells of each of its records once, in ascending order and within the bounds of its
configuration; of itself it says that it is alive at its address, and was heard of just now. -/
theorem lists_complete {config : Config} {address : Address} {since : Int} {first node : Node}
    (created : create config address since = .ok first) (deeds : first.Deeds node) :
    ∃ record, node.state.directory.find? node.id = some record ∧ record.address = address ∧
      record.isAlive = true ∧
      ∀ now cause next letters, node.Deed now cause next letters →
        (next.state.directory.find? node.id = some record ∨
          (∃ joiner timestamp, cause = .heard (.joinRequest joiner timestamp) ∧
            joiner ≠ node.id) ∧
          next.state.directory.find? node.id = some { record with lastHeard := now }) ∧
        ∀ letter ∈ letters, ∀ sender primary entries,
          letter.message = .replicaList sender primary entries →
          sender = node.id ∧ primary = next.state.primary ∧
          entries = next.state.directory.records.map (·.entry now) ∧
          entries.Pairwise (·.id < ·.id) ∧ entries.length ≤ config.maxReplicas ∧
          entries.filter (·.id = node.id) = [⟨node.id, address, true, 0⟩] := by
  obtain ⟨_, own⟩ := ownRecord_of_create created
  obtain ⟨record, own⟩ := deeds.ownRecord own
  refine ⟨record, own.1, own.2.1, own.2.2, fun now cause next letters deed => ⟨?_, ?_⟩⟩
  · have stays := deed.own_record own.1
    rwa [← own.2.2] at stays
  · intro letter sent sender primary entries list
    obtain ⟨record, own⟩ := own.deed deed
    obtain ⟨message, joiner, timestamp, rfl⟩ := deed.listed sent (by rw [list]; rfl)
    obtain ⟨rfl, rfl, rfl⟩ := Message.replicaList.inj (list.symm.trans message)
    have found : next.state.directory.find? node.id = some record := deed.id_eq ▸ own.1
    have heard : record.lastHeard = now := by
      cases deed with
      | hear _ source =>
        exact (attends_handle node now joiner timestamp source).lastHeard_eq
          (List.ne_nil_of_mem sent) found
    have filtered := own.filter_entries heard
    rw [deed.id_eq] at filtered ⊢
    rw [Directory.entries_eq] at filtered ⊢
    refine ⟨rfl, rfl, rfl, List.pairwise_map.2 next.state.directory.ascending, ?_, filtered⟩
    calc (next.state.directory.records.map (·.entry now)).length
        = next.state.directory.size := List.length_map _
      _ ≤ next.state.directory.capacity := next.state.directory.fits
      _ = config.maxReplicas := by
        rw [deed.capacity_eq, deeds.capacity_eq, capacity_of_create created]

/-- A backup that was told that it is dead itself answers a request. -/
theorem lists_complete_slandered :
    ∃ first node letter entries, create followerConfig followerConfig.bindAddress 0 = .ok first ∧
      first.Deeds node ∧
      letter ∈ (node.handle 7 (.joinRequest 3 0) (.v4 ⟨10, 0, 0, 3⟩ 1)).2.letters ∧
      letter.message = .replicaList 2 (some 1) entries ∧ entries.map (·.id) = [1, 2, 3] ∧
      entries.length ≤ followerConfig.maxReplicas ∧
      entries.filter (·.id = node.id) = [⟨2, .v4 ⟨10, 0, 0, 2⟩ 1, true, 0⟩] := by
  let first := ((create followerConfig followerConfig.bindAddress 0).toOption).getD default
  let slander : Message := .replicaList 1 (some 1) [⟨2, .v4 ⟨10, 0, 0, 9⟩ 9, false, 0⟩]
  let node := (first.handle 5 slander (.v4 ⟨10, 0, 0, 1⟩ 1)).1
  let next := (node.handle 7 (.joinRequest 3 0) (.v4 ⟨10, 0, 0, 3⟩ 1)).1
  let entries := next.state.directory.entries 7
  have created : create followerConfig followerConfig.bindAddress 0 = .ok first := rfl
  have deeds : first.Deeds node := .single (.hear slander (.v4 ⟨10, 0, 0, 1⟩ 1))
  have sent : ⟨.v4 ⟨10, 0, 0, 3⟩ 1, .replicaList 2 (some 1) entries⟩ ∈
      (node.handle 7 (.joinRequest 3 0) (.v4 ⟨10, 0, 0, 3⟩ 1)).2.letters := by decide +kernel
  obtain ⟨_, -, -, -, complete⟩ := lists_complete created deeds
  obtain ⟨-, -, -, -, bounded, own⟩ :=
    (complete 7 _ _ _ (.hear _ _)).2 _ sent 2 (some 1) entries rfl
  exact ⟨first, node, _, entries, created, deeds, sent, rfl, by decide +kernel, bounded, own⟩

end Node

end SumCluster
