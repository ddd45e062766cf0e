import SumCluster.Node.Handling

/-!
# Who gives way to whom

How a node takes the messages by which primaries learn of each other, from a sender that it knows.
It keeps its place (`Node.Keeps`) or falls in behind a leader (`Node.Yields`):

* a heartbeat of a lower node is answered by a primary with its claim, and other heartbeats are
  followed unless the primary that a backup follows is as good (`Node.HeartbeatOutcome`); that of
  the highest node is always followed (`Node.handle_heartbeat_of_highest`);
* a claim of a higher node is always followed (`Node.handle_victory`);
* acknowledgements change nobody's place (`Node.handle_victoryAck`, `Node.handle_stateAck`).
-/

namespace SumCluster

namespace Node

/-- A node keeps its place. -/
structure Keeps (node next : Node) : Prop where
  leads : next.state.isPrimary = node.state.isPrimary
  primary : next.state.primary = node.state.primary
  stepDowns : next.stats.stepDowns = node.stats.stepDowns

/-- A node falls in behind a leader, and counts that if it led before. -/
structure Yields (node next : Node) (leader : NodeId) : Prop where
  follows : next.state.isPrimary = false
  primary : next.state.primary = some leader
  stepDowns : next.stats.stepDowns =
    node.stats.stepDowns + if node.state.isPrimary then 1 else 0

theorem Yields.trans_keeps {node middle next : Node} {leader : NodeId}
    (yields : node.Yields middle leader) (keeps : middle.Keeps next) :
    node.Yields next leader where
  follows := keeps.leads.trans yields.follows
  primary := keeps.primary.trans yields.primary
  stepDowns := keeps.stepDowns.trans yields.stepDowns

/-! ## Whom a node knows -/

section Knows

variable {node : Node} {now : Int} {sender : NodeId} {source : Address}

theorem addressOf?_meet (knows : node.state.directory.contains sender = true) :
    (node.meet now sender source).addressOf? sender = some source := by
  obtain ⟨record, found⟩ := Option.isSome_iff_exists.1 knows
  unfold meet addressOf? Directory.addressOf? Directory.register
  simp [knows, Directory.find?_adjust_self, found]

theorem contains_meet (knows : node.state.directory.contains sender = true) (id : NodeId) :
    (node.meet now sender source).state.directory.contains id =
      node.state.directory.contains id := by
  simp [meet, Directory.register, knows]

/-- To meet somebody changes nobody's place. -/
theorem Keeps.of_meet {next : Node} (keeps : (node.meet now sender source).Keeps next) :
    node.Keeps next :=
  ⟨keeps.leads, keeps.primary, keeps.stepDowns⟩

theorem Yields.of_meet {next : Node} {leader : NodeId}
    (yields : (node.meet now sender source).Yields next leader) : node.Yields next leader :=
  ⟨yields.follows, yields.primary, yields.stepDowns⟩

end Knows

/-! ## Heartbeats -/

/-- What a heartbeat of another node can do to a node. -/
inductive HeartbeatOutcome (node : Node) (now : Int) (sender : NodeId) (seqn : Seqn)
    (source : Address) : Node → Effects → Prop
  /-- A primary pushes back against a lower one. -/
  | defies {next : Node} (leads : node.state.isPrimary = true) (lower : sender < node.id)
    (keeps : node.Keeps next) :
    HeartbeatOutcome node now sender seqn source next (.send source (next.victory now))
  /-- A backup stays with a primary that is not outranked. -/
  | ignores {next : Node} {primary : NodeId} (backup : node.state.isPrimary = false)
    (follows : node.state.primary = some primary) (higher : sender < primary)
    (keeps : node.Keeps next) :
    HeartbeatOutcome node now sender seqn source next .none
  /-- The node follows the sender, and catches up with it. -/
  | yields {next : Node} (outranked : node.state.isPrimary = true → node.id ≤ sender)
    (yields : node.Yields next sender) (reached : seqn ≤ next.state.seqn) :
    HeartbeatOutcome node now sender seqn source next (next.acknowledge source seqn)

section Heartbeat

variable {node : Node} {now : Int} {sender : NodeId}

theorem yields_of_heed? {next : Node} (heeds : node.heed? now sender = some next) :
    node.Yields next sender ∧ (node.state.isPrimary = true → node.id ≤ sender) := by
  unfold heed? at heeds
  split at heeds
  · rename_i leads
    split at heeds
    · simp at heeds
    · rename_i notLower
      obtain rfl := Option.some.inj heeds
      exact ⟨⟨rfl, rfl, rfl⟩, fun _ => UInt32.not_lt.1 notLower⟩
  · rename_i follows
    have follows : node.state.isPrimary = false := by simpa using follows
    have stays : node.stats.stepDowns =
        node.stats.stepDowns + if node.state.isPrimary then 1 else 0 := by simp [follows]
    have noLead : node.state.isPrimary = true → node.id ≤ sender := by simp [follows]
    split at heeds
    · rename_i primary
      obtain rfl := Option.some.inj heeds
      exact ⟨⟨follows, primary, stays⟩, noLead⟩
    · split at heeds
      · simp at heeds
      · obtain rfl := Option.some.inj heeds
        exact ⟨⟨follows, rfl, stays⟩, noLead⟩

/-- Adopting a state changes nobody's place. -/
theorem keeps_adopt (sum : Int64) (seqn : Seqn) :
    node.Keeps { node with state := node.state.adopt sum seqn } := by
  unfold State.adopt State.adopt?
  split <;> exact ⟨rfl, rfl, rfl⟩

theorem keeps_yieldTo : node.Keeps (node.yieldTo sender) := by
  unfold yieldTo
  split <;> exact ⟨rfl, rfl, rfl⟩

theorem keeps_catchUp (sum : Int64) (seqn : Seqn) : node.Keeps (node.catchUp sum seqn) := by
  unfold catchUp
  split
  · exact keeps_adopt sum seqn
  · exact ⟨rfl, rfl, rfl⟩

theorem le_seqn_adopt (sum : Int64) (seqn : Seqn) : seqn ≤ (node.state.adopt sum seqn).seqn := by
  unfold State.adopt State.adopt?
  split
  · rename_i lower
    exact UInt64.le_of_lt lower
  · exact UInt64.le_refl _

theorem le_seqn_catchUp (sum : Int64) (seqn : Seqn) :
    seqn ≤ (node.catchUp sum seqn).state.seqn := by
  unfold catchUp
  split
  · exact le_seqn_adopt sum seqn
  · rename_i notNewer
    exact UInt64.not_lt.1 notNewer

/-- A heartbeat is ignored by a primary that outranks the sender, and by a backup of another node
that is alive and not outranked. -/
theorem heed?_eq_none_iff : node.heed? now sender = none ↔
    node.state.isPrimary = true ∧ sender < node.id ∨
      node.state.isPrimary = false ∧ node.state.primary ≠ some sender ∧
        node.hasLivePrimary now = true ∧ node.state.primary.all (· < sender) = false := by
  unfold heed?
  cases node.state.isPrimary with
  | true => by_cases lower : sender < node.id <;> simp [lower]
  | false => by_cases follows : node.state.primary = some sender <;> simp [follows]

theorem of_heed?_eq_none (ignored : node.heed? now sender = none) :
    node.state.isPrimary = true ∧ sender < node.id ∨
      node.state.isPrimary = false ∧ ∃ primary, node.state.primary = some primary ∧
        sender < primary := by
  rcases heed?_eq_none_iff.1 ignored with leads | ⟨backup, other, -, ranks⟩
  · exact .inl leads
  · refine .inr ⟨backup, ?_⟩
    cases primary_eq : node.state.primary with
    | none => simp [primary_eq] at ranks
    | some primary =>
      rw [primary_eq] at ranks other
      have notLower : ¬primary < sender := by simpa using ranks
      have differs : sender ≠ primary := fun same => other (congrArg some same.symm)
      exact ⟨primary, rfl, UInt32.lt_of_le_of_ne (UInt32.not_lt.1 notLower) differs⟩

/-- A node that has met the sender of a heartbeat follows it and catches up with it, or ignores it,
and then claims its own lead if it has one. -/
theorem heeds_or_ignores {sum : Int64} {seqn : Seqn} {timestamp : UInt64} {source : Address}
    {next : Node} {effects : Effects} (other : sender ≠ node.id)
    (address : (node.meet now sender source).addressOf? sender = some source)
    (handled : node.handle now (.heartbeat sender sum seqn timestamp) source = (next, effects)) :
    (∃ heeder, (node.meet now sender source).heed? now sender = some heeder ∧
        next = (heeder.yieldTo sender).catchUp sum seqn ∧
        effects = next.acknowledge source seqn) ∨
      (node.meet now sender source).heed? now sender = none ∧
        next = node.meet now sender source ∧
        effects = if node.state.isPrimary then .send source (next.victory now) else .none := by
  simp only [handle, Message.sender, other, if_false, hear, hearHeartbeat, address] at handled
  cases heeds : (node.meet now sender source).heed? now sender with
  | some heeder =>
    rw [heeds] at handled
    obtain ⟨rfl, rfl⟩ := Prod.mk.inj handled
    exact .inl ⟨heeder, rfl, rfl, rfl⟩
  | none =>
    rw [heeds] at handled
    obtain ⟨rfl, rfl⟩ := Prod.mk.inj handled
    exact .inr ⟨rfl, rfl, rfl⟩

/-- Who heeds a heartbeat falls in behind its sender. -/
theorem yields_of_heeds {heeder : Node} {source : Address} {sum : Int64} {seqn : Seqn}
    (heeds : (node.meet now sender source).heed? now sender = some heeder) :
    node.Yields ((heeder.yieldTo sender).catchUp sum seqn) sender :=
  (((yields_of_heed? heeds).1.trans_keeps keeps_yieldTo).trans_keeps
    (keeps_catchUp sum seqn)).of_meet

theorem handle_heartbeat {sum : Int64} {seqn : Seqn} {timestamp : UInt64} {source : Address}
    {next : Node} {effects : Effects} (other : sender ≠ node.id)
    (knows : node.state.directory.contains sender = true)
    (handled : node.handle now (.heartbeat sender sum seqn timestamp) source = (next, effects)) :
    node.HeartbeatOutcome now sender seqn source next effects := by
  rcases heeds_or_ignores other (addressOf?_meet knows) handled with
    ⟨heeder, heeds, rfl, rfl⟩ | ⟨ignores, rfl, rfl⟩
  · have outranked : node.state.isPrimary = true → node.id ≤ sender := (yields_of_heed? heeds).2
    exact .yields outranked (yields_of_heeds heeds) (le_seqn_catchUp sum seqn)
  · rcases of_heed?_eq_none ignores with ⟨leads, lower⟩ | ⟨backup, primary, follows, higher⟩
    · have leads : node.state.isPrimary = true := leads
      rw [if_pos leads]
      exact .defies leads lower ⟨rfl, rfl, rfl⟩
    · have backup : node.state.isPrimary = false := backup
      rw [backup, if_neg Bool.false_ne_true]
      exact .ignores backup follows higher ⟨rfl, rfl, rfl⟩

/-- A heartbeat is followed by a node that knows nobody higher. -/
theorem handle_heartbeat_of_highest {sum : Int64} {seqn : Seqn} {timestamp : UInt64}
    {source : Address} {next : Node} {effects : Effects} (other : sender ≠ node.id)
    (knows : node.state.directory.contains sender = true)
    (highest : ∀ id, node.state.directory.contains id = true → id ≤ sender)
    (outranked : node.id ≤ sender)
    (handled : node.handle now (.heartbeat sender sum seqn timestamp) source = (next, effects)) :
    node.Yields next sender ∧ effects = next.acknowledge source seqn := by
  rcases heeds_or_ignores other (addressOf?_meet knows) handled with
    ⟨heeder, heeds, rfl, rfl⟩ | ⟨ignores, -, -⟩
  · exact ⟨yields_of_heeds heeds, rfl⟩
  · exfalso
    rcases heed?_eq_none_iff.1 ignores with ⟨-, lower⟩ | ⟨-, differs, lives, ranks⟩
    · exact UInt32.not_le.2 lower outranked
    · unfold hasLivePrimary Directory.isPrimaryAlive at lives
      cases primary : (node.meet now sender source).state.primary with
      | none => simp [primary] at lives
      | some leader =>
        -- the primary is on record, and so it is outranked
        rw [primary] at lives ranks differs
        have listed := Option.isSome_of_any lives
        have known : node.state.directory.contains leader = true :=
          (contains_meet knows leader).symm.trans listed
        have below : leader < sender :=
          UInt32.lt_of_le_of_ne (highest leader known) fun same => differs (same ▸ rfl)
        simp [below] at ranks

end Heartbeat

/-! ## Claims and acknowledgements -/

section Answers

variable {node : Node} {now : Int} {sender : NodeId} {sum : Int64} {seqn : Seqn}
  {source : Address} {next : Node} {effects : Effects}

/-- A claim of a higher node is followed if the node has met the sender. -/
theorem handle_victory_of_met {timestamp : UInt64} (higher : node.id < sender)
    (address : (node.meet now sender source).addressOf? sender = some source)
    (handled : node.handle now (.victory sender sum seqn timestamp) source = (next, effects)) :
    node.Yields next sender ∧ seqn ≤ next.state.seqn ∧ effects = .send source next.victoryAck := by
  have other : sender ≠ node.id := (UInt32.ne_of_lt higher).symm
  have notLower : ¬sender < (node.meet now sender source).id :=
    UInt32.not_lt.2 (UInt32.le_of_lt higher)
  simp only [handle, Message.sender, other, if_false, hear, hearVictory, address, notLower]
    at handled
  obtain ⟨rfl, rfl⟩ := Prod.mk.inj handled
  exact ⟨Yields.trans_keeps ⟨rfl, rfl, rfl⟩ (keeps_adopt sum seqn), le_seqn_adopt sum seqn, rfl⟩

theorem handle_victory {timestamp : UInt64} (higher : node.id < sender)
    (knows : node.state.directory.contains sender = true)
    (handled : node.handle now (.victory sender sum seqn timestamp) source = (next, effects)) :
    node.Yields next sender ∧ seqn ≤ next.state.seqn ∧ effects = .send source next.victoryAck :=
  handle_victory_of_met higher (addressOf?_meet knows) handled

theorem keeps_hearVictoryAck : node.Keeps (node.hearVictoryAck sender sum seqn) ∧
    (node.state.isPrimary = true → seqn ≤ (node.hearVictoryAck sender sum seqn).state.seqn) := by
  unfold hearVictoryAck
  simp only
  generalize hearer_eq : (if node.state.isPrimary ∧ node.state.seqn < seqn then
    { node with state := node.state.adopt sum seqn } else node) = hearer
  have result : node.Keeps hearer ∧
      (node.state.isPrimary = true → seqn ≤ hearer.state.seqn) := by
    rw [← hearer_eq]
    split
    · exact ⟨keeps_adopt sum seqn, fun _ => le_seqn_adopt sum seqn⟩
    · rename_i notNewer
      refine ⟨⟨rfl, rfl, rfl⟩, fun leads => UInt64.not_lt.1 fun newer => ?_⟩
      exact notNewer ⟨leads, newer⟩
  obtain ⟨⟨leads, primary, stepDowns⟩, reached⟩ := result
  split <;> exact ⟨⟨leads, primary, stepDowns⟩, reached⟩

theorem handle_victoryAck (other : sender ≠ node.id)
    (handled : node.handle now (.victoryAck sender sum seqn) source = (next, effects)) :
    node.Keeps next ∧ (node.state.isPrimary = true → seqn ≤ next.state.seqn) ∧
      effects = .none := by
  simp only [handle, Message.sender, other, if_false, hear] at handled
  obtain ⟨rfl, rfl⟩ := Prod.mk.inj handled
  obtain ⟨keeps, reached⟩ := @keeps_hearVictoryAck (node.meet now sender source) sender sum seqn
  exact ⟨keeps.of_meet, reached, rfl⟩

theorem keeps_hearAck : node.Keeps (node.hearAck sender seqn) := by
  unfold hearAck
  split <;> exact ⟨rfl, rfl, rfl⟩

theorem handle_stateAck (other : sender ≠ node.id)
    (handled : node.handle now (.stateAck sender seqn) source = (next, effects)) :
    node.Keeps next ∧ effects = .none := by
  simp only [handle, Message.sender, other, if_false, hear] at handled
  obtain ⟨rfl, rfl⟩ := Prod.mk.inj handled
  exact ⟨keeps_hearAck.of_meet, rfl⟩

end Answers

end Node

end SumCluster
