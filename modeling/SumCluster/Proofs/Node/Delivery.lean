import SumCluster.Proofs.Node.Coherence

/-!
# Deliveries in any order

Heartbeats, updates and claims of the lead carry the state of a primary to its backups, each with a
test of its own of whether that state is new.  A backup follows its primary through all of them and
never stays behind one (`Node.Trails.handle`).  So it ends up with the newest of the states that it
was offered, in whatever order and however often they came (`Node.deliveries_commute`).
-/

namespace SumCluster

/-- A message that carries the state of a leader to the node with an identifier: a heartbeat, an
update, or a claim of the lead if the leader is the higher one of the two. -/
inductive Message.Carries (id leader : NodeId) : Message → Prop
  | heartbeat (sum : Int64) (seqn : Seqn) (timestamp : UInt64) :
    Carries id leader (.heartbeat leader sum seqn timestamp)
  | update (sum : Int64) (seqn : Seqn) (timestamp : UInt64) :
    Carries id leader (.stateUpdate leader sum seqn timestamp)
  | claim (sum : Int64) (seqn : Seqn) (timestamp : UInt64) (higher : id < leader) :
    Carries id leader (.victory leader sum seqn timestamp)

/-- A message that arrives at an instant from an address. -/
structure Delivery where
  instant : Int
  message : Message
  source : Address

/-- The states that the messages of deliveries carry. -/
def offers (deliveries : List Delivery) : List (Int64 × Seqn) :=
  deliveries.filterMap (·.message.state?)

theorem mem_offers {deliveries : List Delivery} {offer : Int64 × Seqn} :
    offer ∈ offers deliveries ↔
      ∃ delivery ∈ deliveries, delivery.message.state? = some offer :=
  List.mem_filterMap

/-! ## The newest state -/

/-- States with the same number have the same sum. -/
def Agree (states : List (Int64 × Seqn)) : Prop :=
  ∀ state ∈ states, ∀ other ∈ states, state.2 = other.2 → state.1 = other.1

/-- One of several states, and none of them has a higher number. -/
structure IsNewest (state : Int64 × Seqn) (states : List (Int64 × Seqn)) : Prop where
  mem : state ∈ states
  seqn_le : ∀ other ∈ states, other.2 ≤ state.2

/-- Among states that agree there is one newest state only. -/
theorem IsNewest.eq {state other : Int64 × Seqn} {states : List (Int64 × Seqn)}
    (newest : IsNewest state states) (newest' : IsNewest other states) (agree : Agree states) :
    state = other := by
  have seqn : state.2 = other.2 :=
    UInt64.le_antisymm (newest'.seqn_le state newest.mem) (newest.seqn_le other newest'.mem)
  exact Prod.ext (agree state newest.mem other newest'.mem seqn) seqn

theorem IsNewest.of_mem_iff {state : Int64 × Seqn} {states states' : List (Int64 × Seqn)}
    (newest : IsNewest state states) (same : ∀ other, other ∈ states' ↔ other ∈ states) :
    IsNewest state states' where
  mem := (same state).2 newest.mem
  seqn_le other mem := newest.seqn_le other ((same other).1 mem)

namespace Node

/-- A backup follows another node, which it has a record of. -/
structure Trails (node : Node) (leader : NodeId) : Prop where
  backup : node.state.isPrimary = false
  primary : node.state.primary = some leader
  other : leader ≠ node.id
  known : node.state.directory.contains leader = true

/-- Whatever has happened to a backup since it booted, its primary is another node. -/
theorem trails_of_deeds {config : Config} {address : Address} {since : Int} {first node : Node}
    {leader : NodeId} (created : create config address since = .ok first)
    (deeds : first.Deeds node) (backup : node.state.isPrimary = false)
    (primary : node.state.primary = some leader)
    (known : node.state.directory.contains leader = true) : node.Trails leader := by
  refine ⟨backup, primary, fun itself => ?_, known⟩
  have leads := (deeds.coherent (coherent_of_create created)).others (itself ▸ primary)
  exact Bool.eq_false_iff.1 backup leads

/-! ## One message -/

section Handle

variable {node next : Node} {leader : NodeId} {now : Int} {sum : Int64} {seqn : Seqn}
  {timestamp : UInt64} {source : Address} {effects : Effects}

theorem Trails.yields_of_heartbeat (trails : node.Trails leader)
    (handled : node.handle now (.heartbeat leader sum seqn timestamp) source = (next, effects)) :
    node.Yields next leader ∧ seqn ≤ next.state.seqn := by
  cases handle_heartbeat trails.other trails.known handled with
  | defies leads => exact absurd leads (Bool.eq_false_iff.1 trails.backup)
  | ignores _ follows higher =>
    obtain rfl := Option.some.inj (trails.primary.symm.trans follows)
    exact absurd higher (UInt32.lt_irrefl leader)
  | yields _ yields reached => exact ⟨yields, reached⟩

/-- An update of the primary is taken over, unless the node holds a newer state. -/
theorem Trails.yields_of_update (trails : node.Trails leader)
    (handled : node.handle now (.stateUpdate leader sum seqn timestamp) source = (next, effects)) :
    node.Yields next leader ∧ seqn ≤ next.state.seqn := by
  have address := @addressOf?_meet node now leader source trails.known
  have meets : node.Yields (node.meet now leader source) leader :=
    ⟨trails.backup, trails.primary, by simp [meet, trails.backup]⟩
  generalize met : node.meet now leader source = meeter at address meets
  simp only [handle, Message.sender, if_neg trails.other, hear, met,
    hearUpdate_of_followed meets.primary, address] at handled
  have reached : seqn ≤ (meeter.state.adopt sum seqn).seqn := le_seqn_adopt sum seqn
  unfold State.adopt at reached
  cases adopts : meeter.state.adopt? sum seqn with
  | none =>
    rw [adopts] at handled reached
    obtain ⟨rfl, -⟩ := Prod.mk.inj handled
    exact ⟨meets.trans_keeps ⟨rfl, rfl, rfl⟩, reached⟩
  | some state =>
    have keeps := @keeps_adopt meeter sum seqn
    unfold State.adopt at keeps
    rw [adopts] at handled reached keeps
    obtain ⟨rfl, -⟩ := Prod.mk.inj handled
    exact ⟨meets.trans_keeps keeps, reached⟩

theorem Trails.yields_of_claim (trails : node.Trails leader) (higher : node.id < leader)
    (handled : node.handle now (.victory leader sum seqn timestamp) source = (next, effects)) :
    node.Yields next leader ∧ seqn ≤ next.state.seqn := by
  obtain ⟨yields, reached, -⟩ := handle_victory higher trails.known handled
  exact ⟨yields, reached⟩

/-- Through a message with the state of its primary, a backup stays behind the primary, and takes
over the state unless its own is newer. -/
theorem Trails.handle {message : Message} (trails : node.Trails leader)
    (carries : message.Carries node.id leader)
    (handled : node.handle now message source = (next, effects)) :
    next.Trails leader ∧ next.id = node.id ∧ node.Follows message.state? next ∧
      ∀ offer, message.state? = some offer → offer.2 ≤ next.state.seqn := by
  have changes : Changes (.heard message) node next := by
    have changes := changes_handle node now message source
    rwa [handled] at changes
  have id : next.id = node.id := congrArg (·.1) changes.standing_eq
  have result : node.Yields next leader ∧
      ∀ offer, message.state? = some offer → offer.2 ≤ next.state.seqn := by
    cases carries with
    | heartbeat =>
      obtain ⟨yields, reached⟩ := trails.yields_of_heartbeat handled
      exact ⟨yields, fun _ same => Option.some.inj same ▸ reached⟩
    | update =>
      obtain ⟨yields, reached⟩ := trails.yields_of_update handled
      exact ⟨yields, fun _ same => Option.some.inj same ▸ reached⟩
    | claim _ _ _ higher =>
      obtain ⟨yields, reached⟩ := trails.yields_of_claim higher handled
      exact ⟨yields, fun _ same => Option.some.inj same ▸ reached⟩
  obtain ⟨yields, reached⟩ := result
  exact ⟨⟨yields.follows, yields.primary, id ▸ trails.other, changes.extends leader trails.known⟩,
    id, changes.follows, reached⟩

end Handle

/-! ## Any number of messages -/

/-- Handles messages one after the other. -/
def receive (node : Node) (deliveries : List Delivery) : Node :=
  deliveries.foldl
    (fun node delivery => (node.handle delivery.instant delivery.message delivery.source).1) node

section Receive

variable {node : Node} {leader : NodeId} {deliveries : List Delivery}

/-- A backup that has taken over a newer state than its own, or kept its own, and then ends up with
the newest of what follows, has ended up with the newest of all. -/
theorem isNewest_of_follows {node next last : Node} {delivery : Delivery} {rest : List Delivery}
    (follows : node.Follows delivery.message.state? next)
    (reached : ∀ offer, delivery.message.state? = some offer → offer.2 ≤ next.state.seqn)
    (newest : IsNewest last.held (next.held :: offers rest)) :
    IsNewest last.held (node.held :: offers (delivery :: rest)) where
  mem := by
    rcases List.mem_cons.1 newest.mem with same | mem
    · rw [same]
      cases follows with
      | kept same => exact List.mem_cons.2 (.inl same)
      | taken offered =>
        exact List.mem_cons_of_mem _ (mem_offers.2 ⟨delivery, List.mem_cons_self .., offered⟩)
    · obtain ⟨other, mem, offered⟩ := mem_offers.1 mem
      exact List.mem_cons_of_mem _ (mem_offers.2 ⟨other, List.mem_cons_of_mem _ mem, offered⟩)
  seqn_le other mem := by
    have above : next.state.seqn ≤ last.state.seqn :=
      newest.seqn_le next.held (List.mem_cons_self ..)
    rcases List.mem_cons.1 mem with rfl | mem
    · exact UInt64.le_trans follows.seqn_le above
    · obtain ⟨source, mem, offered⟩ := mem_offers.1 mem
      rcases List.mem_cons.1 mem with rfl | mem
      · exact UInt64.le_trans (reached other offered) above
      · exact newest.seqn_le other
          (List.mem_cons_of_mem _ (mem_offers.2 ⟨source, mem, offered⟩))

/-- A backup stays behind its primary, and ends up with the newest of its own state and those that
it was offered. -/
theorem Trails.receive (trails : node.Trails leader)
    (carries : ∀ delivery ∈ deliveries, delivery.message.Carries node.id leader) :
    (node.receive deliveries).Trails leader ∧
      IsNewest (node.receive deliveries).held (node.held :: offers deliveries) := by
  induction deliveries generalizing node with
  | nil =>
    refine ⟨trails, List.mem_cons_self .., fun other mem => ?_⟩
    obtain rfl := List.mem_singleton.1 mem
    exact UInt64.le_refl _
  | cons delivery rest ih =>
    -- the rest is handled by a node with another state, but with the same identifier and primary
    obtain ⟨trails', id, follows, reached⟩ :=
      trails.handle (carries delivery (List.mem_cons_self ..)) (Prod.eta _).symm
    obtain ⟨trails'', newest⟩ := ih trails' fun other mem =>
      id ▸ carries other (List.mem_cons_of_mem _ mem)
    exact ⟨trails'', isNewest_of_follows follows reached newest⟩

/-- A backup that handles messages with the state of its primary, in any order and any number of
times, still follows the primary and holds the newest of its own state and those in the messages, if
states with the same number are the same.  Another backup that held the same state and was offered
the same states, or the same one after any other such run, holds the same state then. -/
theorem deliveries_commute (trails : node.Trails leader)
    (carries : ∀ delivery ∈ deliveries, delivery.message.Carries node.id leader)
    (agree : Agree (node.held :: offers deliveries)) :
    (node.receive deliveries).Trails leader ∧
    IsNewest (node.receive deliveries).held (node.held :: offers deliveries) ∧
    ∀ (other : Node) (others : List Delivery), other.Trails leader →
      (∀ delivery ∈ others, delivery.message.Carries other.id leader) →
      other.held = node.held → (∀ offer, offer ∈ offers others ↔ offer ∈ offers deliveries) →
      (other.receive others).held = (node.receive deliveries).held := by
  obtain ⟨follows, newest⟩ := trails.receive carries
  refine ⟨follows, newest, fun other others trails' carries' start same => ?_⟩
  obtain ⟨-, newest'⟩ := trails'.receive carries'
  rw [start] at newest'
  refine (newest'.of_mem_iff fun offer => ?_).eq newest agree
  simp only [List.mem_cons, same offer]

/-- A backup that hears its primary in two orders, the second time with a message twice. -/
theorem deliveries_commute_shuffled :
    ∃ (node : Node) (deliveries others : List Delivery), node.Trails 3 ∧
      offers deliveries = [(5, 1), (9, 3), (7, 2)] ∧
      offers others = [(7, 2), (9, 3), (9, 3), (5, 1)] ∧
      (node.receive deliveries).held = (9, 3) ∧ (node.receive others).held = (9, 3) := by
  let config : Config := .ofBackup 2 (.v4 ⟨10, 0, 0, 2⟩ 1) ⟨3, .v4 ⟨10, 0, 0, 3⟩ 1⟩
  let node := ((create config config.bindAddress 0).toOption).getD default
  have created : create config config.bindAddress 0 = .ok node := rfl
  have trails : node.Trails 3 :=
    trails_of_deeds created (.refl node) (by decide) (by decide) (by decide)
  let source : Address := .v4 ⟨10, 0, 0, 3⟩ 1
  let deliveries : List Delivery :=
    [⟨1, .heartbeat 3 5 1 0, source⟩, ⟨2, .stateUpdate 3 9 3 0, source⟩,
      ⟨3, .victory 3 7 2 0, source⟩]
  let others : List Delivery :=
    [⟨4, .victory 3 7 2 0, source⟩, ⟨5, .stateUpdate 3 9 3 0, source⟩,
      ⟨6, .stateUpdate 3 9 3 0, source⟩, ⟨7, .heartbeat 3 5 1 0, source⟩]
  have carries : ∀ delivery ∈ deliveries, delivery.message.Carries node.id 3 := by
    simp only [deliveries, List.forall_mem_cons]
    exact ⟨.heartbeat .., .update .., .claim _ _ _ (by decide), nofun⟩
  have carries' : ∀ delivery ∈ others, delivery.message.Carries node.id 3 := by
    simp only [others, List.forall_mem_cons]
    exact ⟨.claim _ _ _ (by decide), .update .., .update .., .heartbeat .., nofun⟩
  have offered : offers deliveries = [(5, 1), (9, 3), (7, 2)] := rfl
  have offered' : offers others = [(7, 2), (9, 3), (9, 3), (5, 1)] := rfl
  have agree : Agree (node.held :: offers deliveries) := by
    rw [held_of_create created, offered]
    simp [Agree]
  have held : (node.receive deliveries).held = (9, 3) := by decide
  obtain ⟨-, -, alike⟩ := deliveries_commute trails carries agree
  have same := alike node others trails carries' rfl fun offer => by
    rw [offered, offered']
    simp only [List.mem_cons, List.not_mem_nil]
    grind
  exact ⟨node, deliveries, others, trails, offered, offered', held, same.trans held⟩

end Receive

end Node

end SumCluster
