import SumCluster.Proofs.Directory.Export

/-!
# Operations on a directory

Whatever is done to a table while time goes on, an operation does little to the record of a node
(`Record.Evolves`): an address changes only when the node is registered, an acknowledged number when
an acknowledgement is recorded, and the time of a request to join when one is answered.  Numbers and
the times when nodes were heard of never fall, no record is removed, and no time is ahead of the
clock.  What a table is asked for, it gives in the order of the identifiers, and each record once
(`Directory.Shows`).  All this together is `Directory.operations_sound`.
-/

namespace SumCluster

namespace Directory

/-- What can be done to a table. -/
inductive Operation
  | register (id : NodeId) (address : Address)
  | markAlive (id : NodeId)
  | markDead (id : NodeId)
  | recordAck (id : NodeId) (seqn : Seqn)
  | recordJoin (id : NodeId) (window : Nat)
  | expire (self : NodeId) (timeout : Nat)
  | merge (self : NodeId) (entries : List PeerEntry)

/-- The table after an operation.  One that fails leaves it as it is. -/
def Operation.perform (directory : Directory) (now : Int) : Operation → Directory
  | register id address => (directory.register id address now).toOption.getD directory
  | markAlive id => (directory.markAlive? id now).getD directory
  | markDead id => (directory.markDead? id).getD directory
  | recordAck id seqn => directory.recordAck id seqn
  | recordJoin id window => (directory.recordJoin? id now window).getD directory
  | expire self timeout => directory.expire self now timeout
  | merge self entries => (directory.merge self entries now).1

/-- Operations on a table one after the other, each not earlier than the one before. -/
inductive History (directory : Directory) (since : Int) : Directory → Int → Prop
  | start : History directory since directory since
  | perform {middle : Directory} {before now : Int}
      (history : History directory since middle before) (passed : before ≤ now)
      (operation : Operation) : History directory since (operation.perform middle now) now

end Directory

open Directory (Operation)

/-- What an operation may make of a record. -/
structure Record.Evolves (operation : Operation) (now : Int) (before after : Record) : Prop where
  address : after.address = before.address ∨ operation = .register before.id after.address
  acked : after.acked = before.acked ∨
    ∃ seqn, operation = .recordAck before.id seqn ∧ after.acked = max before.acked seqn
  lastJoin : after.lastJoin = before.lastJoin ∨
    ∃ window, operation = .recordJoin before.id window ∧ after.lastJoin = some now
  /-- The clock only moves on. -/
  heard : before.lastHeard ≤ now → before.lastHeard ≤ after.lastHeard ∧ after.lastHeard ≤ now

namespace Record

variable {operation : Operation} {now : Int} {before after : Record}

/-- A change of no more than the time of the last sign of life, and of the flag. -/
theorem evolves_of_heard (address : after.address = before.address)
    (acked : after.acked = before.acked) (lastJoin : after.lastJoin = before.lastJoin)
    (heard : before.lastHeard ≤ now → before.lastHeard ≤ after.lastHeard ∧ after.lastHeard ≤ now) :
    before.Evolves operation now after :=
  ⟨.inl address, .inl acked, .inl lastJoin, heard⟩

theorem evolves_of_same (address : after.address = before.address)
    (acked : after.acked = before.acked) (lastJoin : after.lastJoin = before.lastJoin)
    (heard : after.lastHeard = before.lastHeard) : before.Evolves operation now after :=
  evolves_of_heard address acked lastJoin fun past => by
    rw [heard]
    exact ⟨Int.le_refl _, past⟩

theorem Evolves.acked_le (evolves : before.Evolves operation now after) :
    before.acked ≤ after.acked := by
  rcases evolves.acked with same | ⟨seqn, -, raised⟩
  · exact UInt64.le_of_eq same.symm
  · have higher : max before.acked seqn = if before.acked ≤ seqn then seqn else before.acked := rfl
    rw [raised, higher]
    split
    · assumption
    · exact UInt64.le_refl _

/-- What some entries about a node make of its record is not ahead of the clock. -/
theorem Gathers.lastHeard_le {own : List PeerEntry} (gathers : before.Gathers own now after)
    (notAhead : before.lastHeard ≤ now) : after.lastHeard ≤ now := by
  rcases List.mem_cons.1 (List.max?_eq_some_iff.1 gathers.latest).1 with same | told
  · exact same ▸ notAhead
  · obtain ⟨entry, -, same⟩ := List.mem_map.1 told
    rw [← same]
    exact Int.sub_le_self now (Int.natCast_nonneg _)

end Record

namespace Directory

variable {directory directory' : Directory} {operation : Operation} {id : NodeId} {since now : Int}
  {before : Record}

/-! ## One operation -/

/-- What an operation may do to a table: records change, one is added, or a list is merged. -/
inductive Effect (directory : Directory) (now : Int) (operation : Operation) : Directory → Prop
  | nothing : Effect directory now operation directory
  | change {change : Record → Record} (keepsId : ∀ record, (change record).id = record.id)
      (evolves : ∀ record : Record, record.Evolves operation now (change record)) :
    Effect directory now operation (directory.mapRecords change)
  | insert (id : NodeId) (address : Address) (unknown : directory.contains id = false)
      (room : directory.records.length < directory.capacity) :
    Effect directory now operation (directory.insert (Record.fresh id address now) room)
  | merge (self : NodeId) (entries : List PeerEntry) :
    Effect directory now operation (directory.merge self entries now).1

theorem effect_adjust {change : Record → Record}
    (keepsId : ∀ record, (change record).id = record.id)
    (evolves : ∀ record : Record, record.id = id →
      record.Evolves operation now (change record)) :
    directory.Effect now operation (directory.adjust id change) := by
  refine .change (fun record => ?_) fun record => ?_
  · split
    · exact keepsId record
    · rfl
  · split
    · rename_i same
      exact evolves record same
    · exact Record.evolves_of_same rfl rfl rfl rfl

theorem effect_register (directory : Directory) (id : NodeId) (address : Address) (now : Int) :
    directory.Effect now (.register id address)
      ((Operation.register id address).perform directory now) := by
  unfold Operation.perform register
  simp only
  split
  · refine effect_adjust (fun _ => rfl) fun record same => ?_
    exact ⟨.inr (same ▸ rfl), .inl rfl, .inl rfl, fun past => ⟨past, Int.le_refl _⟩⟩
  · rename_i unknown
    unfold insert?
    by_cases room : directory.records.length < directory.capacity
    · rw [dif_pos room]
      exact .insert id address (Bool.eq_false_iff.2 unknown) room
    · rw [dif_neg room]
      exact .nothing

theorem effect_recordJoin (directory : Directory) (id : NodeId) (window : Nat) (now : Int) :
    directory.Effect now (.recordJoin id window)
      ((Operation.recordJoin id window).perform directory now) := by
  unfold Operation.perform recordJoin?
  simp only
  split
  · exact .nothing
  · split
    · exact .nothing
    · refine effect_adjust (fun _ => rfl) fun record same => ?_
      exact ⟨.inl rfl, .inl rfl, .inr ⟨window, same ▸ rfl, rfl⟩,
        fun past => ⟨Int.le_refl _, past⟩⟩

theorem effect_perform (directory : Directory) (operation : Operation) (now : Int) :
    directory.Effect now operation (operation.perform directory now) := by
  cases operation with
  | register id address => exact effect_register directory id address now
  | markAlive id =>
    unfold Operation.perform markAlive?
    simp only
    split
    · exact effect_adjust (fun _ => rfl) fun _ _ =>
        Record.evolves_of_heard rfl rfl rfl fun past => ⟨past, Int.le_refl _⟩
    · exact .nothing
  | markDead id =>
    unfold Operation.perform markDead?
    simp only
    split
    · exact effect_adjust (fun _ => rfl) fun _ _ => Record.evolves_of_same rfl rfl rfl rfl
    · exact .nothing
  | recordAck id seqn =>
    refine effect_adjust (fun _ => rfl) fun record same => ?_
    exact ⟨.inl rfl, .inr ⟨seqn, same ▸ rfl, rfl⟩, .inl rfl, fun past => ⟨Int.le_refl _, past⟩⟩
  | recordJoin id window => exact effect_recordJoin directory id window now
  | expire self timeout =>
    refine .change (fun record => ?_) fun record => ?_
    · split <;> rfl
    · split <;> exact Record.evolves_of_same rfl rfl rfl rfl
  | merge self entries => exact .merge self entries

namespace Effect

variable (effect : directory.Effect now operation directory')

include effect

theorem capacity_eq : directory'.capacity = directory.capacity := by
  cases effect with
  | merge self entries => exact capacity_merge directory self entries now
  | _ => rfl

/-- A known node keeps its record, which may evolve. -/
theorem evolves (found : directory.find? id = some before) :
    ∃ after, directory'.find? id = some after ∧ before.Evolves operation now after := by
  have stays : before.Evolves operation now before := Record.evolves_of_same rfl rfl rfl rfl
  cases effect with
  | nothing => exact ⟨before, found, stays⟩
  | @change change keepsId evolves =>
    refine ⟨change before, ?_, evolves before⟩
    rw [find?_mapRecords, found, Option.map_some, ← keepsId]
  | insert other address unknown room =>
    have differ : (Record.fresh other address now).id ≠ id := by
      rintro rfl
      exact Bool.eq_false_iff.1 unknown (Option.isSome_iff_exists.2 ⟨before, found⟩)
    exact ⟨before, by rw [find?_insert, if_neg differ, found], stays⟩
  | merge self entries =>
    by_cases own : id = self
    · subst own
      exact ⟨before, (find?_merge_self directory id entries now).trans found, stays⟩
    · obtain ⟨after, found', gathers⟩ := gathers_merge directory entries now own found
      exact ⟨after, found', Record.evolves_of_heard gathers.address gathers.acked gathers.lastJoin
        fun past => ⟨gathers.le, gathers.lastHeard_le past⟩⟩

/-- The record of a node that was unknown tells of no acknowledgement and no request to join. -/
theorem new {after : Record} (unknown : directory.find? id = none)
    (found : directory'.find? id = some after) :
    after.acked = 0 ∧ after.lastJoin = none ∧ after.lastHeard ≤ now := by
  cases effect with
  | nothing => exact nomatch unknown.symm.trans found
  | change =>
    rw [find?_mapRecords, unknown] at found
    cases found
  | insert =>
    rw [find?_insert, unknown] at found
    split at found
    · obtain rfl := Option.some.inj found
      exact ⟨rfl, rfl, Int.le_refl _⟩
    · cases found
  | merge self entries =>
    by_cases own : id = self
    · subst own
      rw [find?_merge_self, unknown] at found
      cases found
    · rcases arises_or_full_merge directory entries now own unknown with
        ⟨same, first, rest, found', -, gathers⟩ | ⟨unknown', -⟩
      · obtain rfl := Option.some.inj (found'.symm.trans found)
        refine ⟨gathers.acked, gathers.lastJoin, gathers.lastHeard_le ?_⟩
        exact Int.sub_le_self now (Int.natCast_nonneg _)
      · exact nomatch unknown'.symm.trans found

end Effect

/-! ## What an operation leaves alone -/

/-- Whether an operation may change the record of a node. -/
def Operation.Concerns (id : NodeId) : Operation → Prop
  | register other _ | markAlive other | markDead other | recordAck other _ | recordJoin other _ =>
    other = id
  | expire self _ | merge self _ => self ≠ id

theorem find?_expire_self (directory : Directory) (self : NodeId) (now : Int) (timeout : Nat) :
    (directory.expire self now timeout).find? self = directory.find? self := by
  unfold Directory.expire
  rw [find?_mapRecords]
  cases found : directory.find? self with
  | none => rfl
  | some record =>
    obtain rfl := id_of_find? found
    simp [isOverdue]

theorem find?_register_of_ne {other : NodeId} {address : Address} (ne : id ≠ other) :
    ((Operation.register other address).perform directory now).find? id = directory.find? id := by
  unfold Operation.perform register
  simp only
  split
  · exact find?_adjust_of_ne directory ne _
  · unfold insert?
    by_cases room : directory.records.length < directory.capacity
    · rw [dif_pos room]
      exact (find?_insert directory _ room id).trans (if_neg ne.symm)
    · rw [dif_neg room]
      rfl

theorem find?_recordJoin_of_ne {other : NodeId} {window : Nat} (ne : id ≠ other) :
    ((Operation.recordJoin other window).perform directory now).find? id =
      directory.find? id := by
  unfold Operation.perform recordJoin?
  simp only
  split
  · rfl
  · split
    · rfl
    · exact find?_adjust_of_ne directory ne _

/-- The record of a node stays as it is when others are concerned. -/
theorem find?_perform (others : ¬operation.Concerns id) :
    (operation.perform directory now).find? id = directory.find? id := by
  cases operation with
  | register other address => exact find?_register_of_ne (Ne.symm others)
  | markAlive other =>
    unfold Operation.perform markAlive?
    simp only
    split
    · exact find?_adjust_of_ne directory (Ne.symm others) _
    · rfl
  | markDead other =>
    unfold Operation.perform markDead?
    simp only
    split
    · exact find?_adjust_of_ne directory (Ne.symm others) _
    · rfl
  | recordAck other seqn => exact find?_adjust_of_ne directory (Ne.symm others) _
  | recordJoin other window => exact find?_recordJoin_of_ne (Ne.symm others)
  | expire self timeout =>
    obtain rfl := not_not.1 others
    exact find?_expire_self directory self now timeout
  | merge self entries =>
    obtain rfl := not_not.1 others
    exact find?_merge_self directory self entries now

/-- A known node that is marked alive was heard of just now. -/
theorem find?_markAlive (directory : Directory) (id : NodeId) (now : Int) :
    ((Operation.markAlive id).perform directory now).find? id = (directory.find? id).map
      fun record => { record with isAlive := true, lastHeard := now } := by
  unfold Operation.perform markAlive?
  simp only
  split
  · refine (find?_adjust_self directory id _).trans ?_
    cases found : directory.find? id with
    | none => rfl
    | some record =>
      obtain rfl := id_of_find? found
      rfl
  · rename_i unknown
    rw [Option.not_isSome_iff_eq_none.1 unknown]
    exact Option.not_isSome_iff_eq_none.1 unknown

/-- When a request of a node to join was last answered, if ever. -/
def lastJoin? (directory : Directory) (id : NodeId) : Option Int :=
  (directory.find? id).bind (·.lastJoin)

/-- That changes only when a request of the node is answered. -/
theorem Effect.lastJoin?_eq (effect : directory.Effect now operation directory')
    (other : ∀ window, operation ≠ .recordJoin id window) :
    directory'.lastJoin? id = directory.lastJoin? id := by
  unfold lastJoin?
  cases known : directory.find? id with
  | some before =>
    obtain ⟨after, found, evolves⟩ := effect.evolves known
    rcases evolves.lastJoin with same | ⟨window, joins, -⟩
    · rw [found, Option.bind_some, Option.bind_some, same]
    · rw [id_of_find? known] at joins
      exact absurd joins (other window)
  | none =>
    cases found : directory'.find? id with
    | none => rfl
    | some after => exact (effect.new known found).2.1

/-! ## Runs -/

/-- No record tells of a time that is still to come. -/
def IsPast (directory : Directory) (now : Int) : Prop :=
  directory.All fun record => record.lastHeard ≤ now

theorem IsPast.later (past : directory.IsPast since) (passed : since ≤ now) :
    directory.IsPast now :=
  fun record mem => Int.le_trans (past record mem) passed

theorem isPast_empty (capacity : Nat) (now : Int) : (empty capacity).IsPast now :=
  fun _ mem => nomatch mem

theorem Effect.isPast (effect : directory.Effect now operation directory')
    (past : directory.IsPast now) : directory'.IsPast now := by
  intro after mem
  have found := find?_of_mem mem
  cases known : directory.find? after.id with
  | none => exact (effect.new known found).2.2
  | some before =>
    obtain ⟨same, found', evolves⟩ := effect.evolves known
    obtain rfl := Option.some.inj (found'.symm.trans found)
    exact (evolves.heard (past.of_find? known)).2

namespace History

variable (history : directory.History since directory' now)

include history

theorem capacity_eq : directory'.capacity = directory.capacity := by
  induction history with
  | start => rfl
  | perform _ _ operation ih => exact (effect_perform _ operation _).capacity_eq.trans ih

theorem isPast (past : directory.IsPast since) : directory'.IsPast now := by
  induction history with
  | start => exact past
  | perform _ passed operation ih => exact (effect_perform _ operation _).isPast (ih.later passed)

/-- A record stays, and what it says of acknowledgements and of signs of life never goes back. -/
theorem keeps (past : directory.IsPast since) (found : directory.find? id = some before) :
    ∃ after, directory'.find? id = some after ∧ before.acked ≤ after.acked ∧
      before.lastHeard ≤ after.lastHeard := by
  induction history with
  | start => exact ⟨before, found, UInt64.le_refl _, Int.le_refl _⟩
  | perform history passed operation ih =>
    obtain ⟨middle, found', acked, heard⟩ := ih
    obtain ⟨after, found'', evolves⟩ := (effect_perform _ operation _).evolves found'
    have past' := ((history.isPast past).later passed).of_find? found'
    exact ⟨after, found'', UInt64.le_trans acked evolves.acked_le,
      Int.le_trans heard (evolves.heard past').1⟩

end History

/-! ## What a table shows -/

/-- A list shows, in ascending order and each once, exactly the records that meet a condition. -/
def Shows {α : Type} (directory : Directory) (condition : Record → Prop) (view : Record → α)
    (shown : List α) : Prop :=
  ∃ records : List Record, records.Pairwise (·.id < ·.id) ∧
    (∀ record, record ∈ records ↔ record ∈ directory.records ∧ condition record) ∧
    shown = records.map view

theorem shows_filter (directory : Directory) {α : Type} {condition : Record → Prop}
    {select : Record → Bool} (view : Record → α)
    (selects : ∀ record, select record = true ↔ condition record) :
    directory.Shows condition view ((directory.records.filter select).map view) := by
  refine ⟨_, directory.ascending.filter select, fun record => ?_, rfl⟩
  rw [List.mem_filter, selects]

/-- What a table is asked for at an instant, by a node with a timeout. -/
structure Answers (directory : Directory) (owner : NodeId) (now : Int) (timeout : Nat) : Prop where
  alivePeers : directory.Shows (fun record => record.id ≠ owner ∧ record.isAlive = true)
    Record.peer (directory.alivePeers owner)
  knownPeers : directory.Shows (fun record => record.id ≠ owner) Record.peer
    (directory.knownPeers owner)
  freshHigher : directory.Shows (fun record => owner < record.id ∧ record.isAlive = true ∧
    Time.elapsed record.lastHeard now ≤ timeout) Record.peer
    (directory.freshHigher owner now timeout)
  overdue : directory.Shows (fun record => record.id ≠ owner ∧ record.isAlive = true ∧
    timeout < Time.elapsed record.lastHeard now) (·.id) (directory.overdue owner now timeout)
  /-- Whom `overdue` names, those are marked dead, and nothing else is changed. -/
  expire : ∀ id, (directory.expire owner now timeout).find? id =
    (directory.find? id).map fun record =>
      if id ∈ directory.overdue owner now timeout then { record with isAlive := false } else record
  entries : directory.Shows (fun _ => True) (·.entry now) (directory.entries now)

theorem mem_overdue_iff {self : NodeId} {timeout : Nat} {record : Record}
    (found : directory.find? id = some record) :
    id ∈ directory.overdue self now timeout ↔ isOverdue self now timeout record = true := by
  constructor
  · intro listed
    obtain ⟨other, mem, same⟩ := List.mem_map.1 listed
    obtain ⟨other_mem, overdue⟩ := List.mem_filter.1 mem
    have found' := find?_of_mem other_mem
    rw [same, found] at found'
    exact Option.some.inj found' ▸ overdue
  · intro overdue
    exact List.mem_map.2
      ⟨record, List.mem_filter.2 ⟨mem_of_find? found, overdue⟩, id_of_find? found⟩

theorem find?_expire (directory : Directory) (self : NodeId) (now : Int) (timeout : Nat)
    (id : NodeId) :
    (directory.expire self now timeout).find? id = (directory.find? id).map fun record =>
      if id ∈ directory.overdue self now timeout then { record with isAlive := false }
      else record := by
  unfold Directory.expire
  rw [find?_mapRecords]
  cases found : directory.find? id with
  | none => rfl
  | some record =>
    have listed := @mem_overdue_iff directory id now self timeout record found
    by_cases overdue : isOverdue self now timeout record = true
    · simp [overdue, listed.2 overdue]
    · simp [overdue, mt listed.1 overdue]

theorem answers (directory : Directory) (self : NodeId) (now : Int) (timeout : Nat) :
    directory.Answers self now timeout where
  alivePeers := directory.shows_filter _ fun record => by simp
  knownPeers := directory.shows_filter _ fun record => by simp
  freshHigher := by
    rw [freshHigher_eq]
    exact directory.shows_filter _ fun record => by simp [Record.isFresh]
  overdue := directory.shows_filter _ fun record => by simp [isOverdue, and_assoc]
  expire := directory.find?_expire self now timeout
  entries := by
    rw [entries_eq]
    exact ⟨directory.records, directory.ascending, fun record => by simp, rfl⟩

/-! ## Full tables -/

/-- A node cannot be registered exactly if it is unknown and the table is full. -/
theorem register_fails_iff {address : Address} :
    (∃ error, directory.register id address now = .error error) ↔
      directory.contains id = false ∧ directory.size = directory.capacity := by
  constructor
  · rintro ⟨error, fails⟩
    have full : directory.capacity ≤ directory.size :=
      of_decide_eq_true (isFull_of_register_error fails)
    exact ⟨contains_of_register_error fails, Nat.le_antisymm directory.fits full⟩
  · rintro ⟨unknown, full⟩
    have noRoom : directory.insert? (Record.fresh id address now) = none :=
      insert?_eq_none_iff.2 (decide_eq_true (Nat.le_of_eq full.symm))
    unfold register
    rw [if_neg (Bool.eq_false_iff.1 unknown), noRoom]
    exact ⟨_, rfl⟩

/-! ## Any sequence of operations -/

/-- A table that operations have made of an empty one, while time went on, holds one record for a
node at most, under its identifier, keeps within its capacity, and knows of no time still to come.
Whatever is done next, the record of a known node stays, and evolves as the operation allows; one
for a new node starts without acknowledgements and requests to join; and whatever comes after that,
neither the acknowledged numbers nor the times go back.  To register a node fails exactly if it is
unknown and the table is full, which changes nothing.  All that the table is asked for it shows
completely and in order. -/
theorem operations_sound {capacity : Nat}
    (history : (empty capacity).History since directory now) :
    directory.capacity = capacity ∧ directory.size ≤ capacity ∧
    directory.records.Pairwise (·.id < ·.id) ∧
    (∀ id record, directory.find? id = some record ↔ record ∈ directory.records ∧ record.id = id) ∧
    (∀ record ∈ directory.records, record.lastHeard ≤ now) ∧
    (∀ operation instant, now ≤ instant →
      (∀ id before, directory.find? id = some before →
        ∃ after, (operation.perform directory instant).find? id = some after ∧
          before.Evolves operation instant after ∧ before.lastHeard ≤ after.lastHeard ∧
          after.lastHeard ≤ instant) ∧
      ∀ id after, directory.find? id = none →
        (operation.perform directory instant).find? id = some after →
        after.acked = 0 ∧ after.lastJoin = none ∧ after.lastHeard ≤ instant) ∧
    (∀ later instant, directory.History now later instant →
      ∀ id before, directory.find? id = some before → ∃ after, later.find? id = some after ∧
        before.acked ≤ after.acked ∧ before.lastHeard ≤ after.lastHeard) ∧
    (∀ id address instant,
      ((∃ error, directory.register id address instant = .error error) ↔
        directory.contains id = false ∧ directory.size = capacity) ∧
      ∀ error, directory.register id address instant = .error error →
        (Operation.register id address).perform directory instant = directory) ∧
    ∀ self instant timeout, directory.Answers self instant timeout := by
  have past := history.isPast (isPast_empty capacity since)
  have capacity_eq : directory.capacity = capacity := history.capacity_eq
  refine ⟨capacity_eq, capacity_eq ▸ directory.fits, directory.ascending, fun id record => ?_,
    past, fun operation instant passed => ?_, fun later instant continues id before found => ?_,
    fun id address instant => ⟨?_, fun error fails => ?_⟩, directory.answers⟩
  · constructor
    · exact fun found => ⟨mem_of_find? found, id_of_find? found⟩
    · rintro ⟨mem, rfl⟩
      exact find?_of_mem mem
  · have effect := effect_perform directory operation instant
    refine ⟨fun id before found => ?_, fun id after unknown found => effect.new unknown found⟩
    obtain ⟨after, found', evolves⟩ := effect.evolves found
    exact ⟨after, found', evolves, evolves.heard ((past.later passed).of_find? found)⟩
  · exact continues.keeps past found
  · rw [register_fails_iff, capacity_eq]
  · simp [Operation.perform, fails, Except.toOption]

/-- Two nodes are registered, one of them, which is the highest of all, acknowledges a number, a
third one finds no room, and the silent one is marked dead. -/
theorem operations_sound_crowded :
    ∃ directory, (empty 2).History 0 directory 90 ∧ directory.capacity = 2 ∧
      (∃ error, directory.register 9 (.v4 ⟨10, 0, 0, 9⟩ 1) 95 = .error error) ∧
      directory.find? 1 = some ⟨1, .v4 ⟨10, 0, 0, 1⟩ 1, false, 10, 0, none⟩ ∧
      directory.find? 4294967295 = some ⟨4294967295, .v4 ⟨10, 0, 0, 2⟩ 1, true, 60, 7, none⟩ ∧
      directory.Shows (fun record => 4294967295 < record.id ∧ record.isAlive = true ∧
        Time.elapsed record.lastHeard 90 ≤ 50) Record.peer [] := by
  have met : (empty 2).History 0 _ 10 :=
    .perform .start (by decide) (.register 1 (.v4 ⟨10, 0, 0, 1⟩ 1))
  have filled : (empty 2).History 0 _ 60 :=
    .perform met (by decide) (.register 4294967295 (.v4 ⟨10, 0, 0, 2⟩ 1))
  have acked : (empty 2).History 0 _ 60 :=
    .perform filled (by decide) (.recordAck 4294967295 7)
  have told : (empty 2).History 0 _ 80 :=
    .perform acked (by decide) (.merge 1 [⟨8, .v4 ⟨10, 0, 0, 8⟩ 1, true, 3⟩])
  have history : (empty 2).History 0 _ 90 :=
    .perform told (by decide) (.expire 4294967295 50)
  obtain ⟨capacity, -, -, -, -, -, -, full, answers⟩ := operations_sound history
  refine ⟨_, history, capacity, (full 9 _ 95).1.2 ⟨by decide, by decide⟩, by decide, by decide, ?_⟩
  exact (answers 4294967295 90 50).freshHigher

end Directory

end SumCluster
