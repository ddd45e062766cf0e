import SumCluster.Proofs.Node.Requests

/-!
# Newcomers

A primary tells the nodes that it takes for alive of a newcomer whose first message is a request to
join.  One that comes on record by any other message is not announced, and not later either: when it
asks to join, it is not new any more (`Node.newcomer_announced`).
-/

namespace SumCluster

namespace Node

variable {node next : Node} {now : Int} {joiner : NodeId} {source : Address} {effects : Effects}

/-- A request of a node without a record is answered if it gets one. -/
theorem Attends.sends_of_new (attends : node.Attends now joiner source next effects)
    (new : node.state.directory.contains joiner = false)
    (registered : next.state.directory.contains joiner = true) :
    effects.sends = next.welcome now joiner source true ∧
      next.state.isPrimary = node.state.isPrimary := by
  cases attends with
  | own => exact absurd registered (Bool.eq_false_iff.1 new)
  | silent _ refuses =>
    rcases Directory.recordJoin?_eq_none_iff.1 refuses with unmet | ⟨answered, last, -⟩
    · exact absurd registered (Bool.eq_false_iff.1 unmet)
    · -- no request can have been answered without a record
      rw [lastJoin?_meet] at last
      obtain ⟨record, found, -⟩ := Option.bind_eq_some_iff.1 last
      simp [Directory.contains, found] at new
  | answered _ _ state =>
    refine ⟨by rw [new]; rfl, ?_⟩
    rw [state]
    rfl

/-- The answer to a node on record is for nobody else. -/
theorem Attends.destination_eq (attends : node.Attends now joiner source next effects)
    (known : node.state.directory.contains joiner = true) {letter : Letter}
    (sent : letter ∈ effects.letters) : letter.destination = source := by
  cases attends with
  | own | silent => exact nomatch sent
  | answered =>
    have sent : letter ∈ next.welcome now joiner source false := by
      simpa [Effects.letters, known] using sent
    cases leads : next.state.isPrimary with
    | true =>
      rw [welcome_of_primary leads] at sent
      simp only [Bool.false_eq_true, if_false, List.append_nil, List.mem_cons, List.not_mem_nil,
        or_false] at sent
      rcases sent with rfl | rfl <;> rfl
    | false =>
      rw [welcome_of_backup leads] at sent
      rw [List.mem_singleton.1 sent]

variable {message : Message}

/-- When a node on record is heard, nobody else gets a list. -/
theorem destination_of_known (known : node.state.directory.contains message.sender = true)
    {letter : Letter} (sent : letter ∈ (node.handle now message source).2.letters)
    (list : letter.message.kind = .replicaList) : letter.destination = source := by
  have deed : node.Deed now _ _ _ := .hear message source
  obtain ⟨-, joiner, timestamp, heard⟩ := deed.listed sent list
  obtain rfl := Cause.heard.inj heard
  exact (attends_handle node now joiner timestamp source).destination_eq known sent

/-- A node that is heard is on record as it was heard, if at all. -/
theorem entry_of_handled (handled : node.handle now message source = (next, effects))
    (other : message.sender ≠ node.id)
    (registered : next.state.directory.contains message.sender = true) :
    ⟨message.sender, source, true, 0⟩ ∈ next.state.directory.entries now := by
  have greeted := greeted_hear (greeted_meet node now message.sender source)
    (!node.state.directory.contains message.sender) message
  simp only [handle, other, if_false] at handled
  rw [handled] at greeted
  obtain ⟨record, found⟩ := Option.isSome_iff_exists.1 registered
  obtain ⟨address, alive, heard⟩ :=
    greeted.record.of_find? found (Directory.id_of_find? found)
  rw [Directory.entries_eq]
  refine List.mem_map.2 ⟨record, Directory.mem_of_find? found, ?_⟩
  rw [Record.entry_of_now heard, Directory.id_of_find? found, address, alive]

/-- A primary that hears a node for the first time, and puts it on record, announces it to all
others that it takes for alive if the message is a request to join: each of them is sent a list with
the entry of the newcomer.  After any other message nobody is sent a list.  And whatever happens
later, when the node is heard again, a request to join included, no list goes to anybody else. -/
theorem newcomer_announced (handled : node.handle now message source = (next, effects))
    (leads : node.state.isPrimary = true)
    (new : node.state.directory.contains message.sender = false)
    (registered : next.state.directory.contains message.sender = true) :
    (message.kind = .joinRequest →
      ∀ record ∈ next.state.directory.records, record.id ≠ node.id →
        record.id ≠ message.sender → record.isAlive = true →
        ∃ entries, ⟨record.address, .replicaList node.id next.state.primary entries⟩ ∈
            effects.sends ∧ ⟨message.sender, source, true, 0⟩ ∈ entries) ∧
    (message.kind ≠ .joinRequest →
      ∀ letter ∈ effects.letters, letter.message.kind ≠ .replicaList) ∧
    ∀ last, next.Deeds last → ∀ instant again origin, again.sender = message.sender →
      ∀ letter ∈ (last.handle instant again origin).2.letters,
        letter.message.kind = .replicaList → letter.destination = origin := by
  have other : message.sender ≠ node.id := by
    intro own
    obtain rfl := (handle_of_own handled own).1
    exact absurd registered (Bool.eq_false_iff.1 new)
  refine ⟨fun kind record mem notItself notNew alive => ?_, fun kind letter sent list => kind ?_,
    fun last deeds instant again origin same letter sent list => ?_⟩
  · cases message with
    | joinRequest joiner timestamp =>
      have attends := attends_handle node now joiner timestamp source
      rw [handled] at attends
      obtain ⟨sends, stays⟩ := attends.sends_of_new new registered
      have id : next.id = node.id := id_of_handled handled
      have target : record.peer ∈
          (next.state.directory.alivePeers next.id).filter (·.id ≠ joiner) := by
        refine List.mem_filter.2 ⟨List.mem_map.2 ⟨record, List.mem_filter.2 ⟨mem, ?_⟩, rfl⟩, ?_⟩
        · simp [id, notItself, alive]
        · exact decide_eq_true notNew
      refine ⟨_, ?_, entry_of_handled handled other registered⟩
      rw [sends, welcome_of_primary (stays.trans leads), ← id]
      exact List.mem_append_right _ (List.mem_map.2 ⟨record.peer, target, rfl⟩)
    | _ => exact nomatch kind
  · have deed : node.Deed now _ _ _ := .hear message source
    rw [handled] at deed
    obtain ⟨-, joiner, timestamp, heard⟩ := deed.listed sent list
    rw [Cause.heard.inj heard]
    rfl
  · refine destination_of_known ?_ sent list
    rw [same]
    exact deeds.extends message.sender registered

/-- A primary with a backup. -/
def leaderConfig : Config :=
  (Config.ofPrimary 1 (.v4 ⟨10, 0, 0, 1⟩ 1)).withPeer ⟨2, .v4 ⟨10, 0, 0, 2⟩ 1⟩

/-- The backup is told of a newcomer that asks to join. -/
theorem newcomer_announced_asking :
    ∃ first next effects entries, create leaderConfig leaderConfig.bindAddress 0 = .ok first ∧
      first.handle 0 (.joinRequest 3 0) (.v4 ⟨10, 0, 0, 3⟩ 1) = (next, effects) ∧
      first.state.isPrimary = true ∧ first.state.directory.contains 3 = false ∧
      next.state.directory.contains 3 = true ∧
      ⟨.v4 ⟨10, 0, 0, 2⟩ 1, .replicaList 1 (some 1) entries⟩ ∈ effects.sends ∧
      ⟨3, .v4 ⟨10, 0, 0, 3⟩ 1, true, 0⟩ ∈ entries := by
  let first := ((create leaderConfig leaderConfig.bindAddress 0).toOption).getD default
  let source : Address := .v4 ⟨10, 0, 0, 3⟩ 1
  let backup : Record := ⟨2, .v4 ⟨10, 0, 0, 2⟩ 1, true, 0, 0, none⟩
  have created : create leaderConfig leaderConfig.bindAddress 0 = .ok first := rfl
  have leads : first.state.isPrimary = true := by decide
  have new : first.state.directory.contains 3 = false := by decide
  have handled := (Prod.eta (first.handle 0 (.joinRequest 3 0) source)).symm
  have registered :
      (first.handle 0 (.joinRequest 3 0) source).1.state.directory.contains 3 = true := by
    decide +kernel
  have listed :
      backup ∈ (first.handle 0 (.joinRequest 3 0) source).1.state.directory.records := by
    decide +kernel
  obtain ⟨announces, -, -⟩ := newcomer_announced handled leads new registered
  obtain ⟨entries, sent, mem⟩ :=
    announces rfl backup listed (by decide) (by decide) (by decide)
  exact ⟨first, _, _, entries, created, handled, leads, new, registered, sent, mem⟩

/-- A newcomer whose first message is an acknowledgement comes on record, and the backup is not told
of it, neither then nor when the newcomer asks to join. -/
theorem newcomer_unannounced :
    ∃ first next effects, create leaderConfig leaderConfig.bindAddress 0 = .ok first ∧
      first.state.isPrimary = true ∧ first.state.directory.contains 3 = false ∧
      first.handle 0 (.stateAck 3 0) (.v4 ⟨10, 0, 0, 3⟩ 1) = (next, effects) ∧
      next.state.isPrimary = true ∧ next.state.directory.contains 3 = true ∧
      ⟨2, .v4 ⟨10, 0, 0, 2⟩ 1⟩ ∈ next.state.directory.alivePeers next.id ∧
      effects.letters = [] ∧
      ∀ letter ∈ (next.handle 1 (.joinRequest 3 0) (.v4 ⟨10, 0, 0, 3⟩ 1)).2.letters,
        letter.destination = .v4 ⟨10, 0, 0, 3⟩ 1 := by
  let first := ((create leaderConfig leaderConfig.bindAddress 0).toOption).getD default
  have created : create leaderConfig leaderConfig.bindAddress 0 = .ok first := rfl
  exact ⟨first, _, _, created, by decide, by decide, (Prod.eta _).symm, by decide, by decide,
    by decide, by decide, by decide +kernel⟩

end Node

end SumCluster
