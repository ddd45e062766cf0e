import SumCluster.Proofs.Node.Held
import SumCluster.Proofs.Node.Standing
import SumCluster.Proofs.Node.Yielding
import SumCluster.Proofs.World.Basic

/-!
# A split brain heals

Several nodes lead, and each sends one heartbeat to every other node.  These and all messages that
come of them are delivered at one instant, in any order and possibly more than once
(`World.Exchange`).  When nothing is left on its way, only the highest of the primaries leads, each
other one has stepped down once, and the freshest state has been handed over
(`World.split_brain_heals`).
-/

namespace SumCluster

namespace World

variable {ι : Type}

/-- Several primaries in a cluster whose nodes know each other.  Nothing is on its way but one
heartbeat of each primary to every other node. -/
structure Standoff (first : World ι) : Prop where
  distinct_ids : Function.Injective fun i => (first.nodes i).id
  distinct_addresses : Function.Injective fun i => (first.nodes i).address
  known : ∀ i j, i ≠ j →
    (first.nodes i).addressOf? (first.nodes j).id = some (first.nodes j).address
  idle : ∀ i, (first.nodes i).state.election = .idle
  heartbeats : ∀ datagram, datagram ∈ first.inFlight ↔
    ∃ i j, i ≠ j ∧ (first.nodes i).state.isPrimary = true ∧
      datagram = ⟨(first.nodes i).address,
        ⟨(first.nodes j).address, (first.nodes i).heartbeat first.now⟩⟩

section

variable [DecidableEq ι]

/-- The datagrams on their way after one of them arrived, which may arrive again. -/
def left (world : World ι) (datagram : Datagram) (again : Bool) : List Datagram :=
  if again then world.inFlight else world.inFlight.erase datagram

/-- The world after a datagram arrived at a member, and what the member asks for. -/
def deliver (world : World ι) (member : ι) (datagram : Datagram) (again : Bool) :
    Effects × World ι :=
  let (node, effects) :=
    (world.nodes member).handle world.now datagram.letter.message.bare datagram.source
  (effects, { world with inFlight := world.left datagram again }.put member node effects.letters)

/-- Deliveries at one instant in any order, with all that was asked for meanwhile. -/
inductive Exchange (first : World ι) : List Effects → World ι → Prop
  | start : Exchange first [] first
  | deliver {log : List Effects} {world : World ι} (exchange : Exchange first log world)
    (member : ι) (datagram : Datagram) (again : Bool) (flies : datagram ∈ world.inFlight)
    (reaches : datagram.letter.destination = (world.nodes member).address) :
    Exchange first ((world.deliver member datagram again).1 :: log)
      (world.deliver member datagram again).2

end

/-! ## What holds during an exchange -/

/-- What a member may send to another one in such an exchange. -/
inductive Sent (first : World ι) (sender receiver : ι) : Message → Prop
  | heartbeat (leads : (first.nodes sender).state.isPrimary = true) :
    Sent first sender receiver ((first.nodes sender).heartbeat first.now)
  | victory (leads : (first.nodes sender).state.isPrimary = true)
    (higher : (first.nodes receiver).id < (first.nodes sender).id) (sum : Int64) (seqn : Seqn)
    (timestamp : UInt64) :
    Sent first sender receiver (.victory (first.nodes sender).id sum seqn timestamp)
  | victoryAck (sum : Int64) (seqn : Seqn) :
    Sent first sender receiver (.victoryAck (first.nodes sender).id sum seqn)
  | stateAck (seqn : Seqn) : Sent first sender receiver (.stateAck (first.nodes sender).id seqn)

/-- A datagram from one member to another. -/
def datagram (first : World ι) (sender receiver : ι) (message : Message) : Datagram :=
  ⟨(first.nodes sender).address, ⟨(first.nodes receiver).address, message⟩⟩

/-- What has become of a member during the exchange if `top` is the highest of the primaries. -/
structure Placed (first : World ι) (top i : ι) (node : Node) : Prop where
  id_eq : node.id = (first.nodes i).id
  address_eq : node.address = (first.nodes i).address
  knows : ∀ j, i ≠ j → node.state.directory.contains (first.nodes j).id = true
  leads : node.state.isPrimary = true → (first.nodes i).state.isPrimary = true
  top_leads : i = top → node.state.isPrimary = true
  /-- A node that has stepped down has done so once, and follows a node up to `top`. -/
  stepped : (first.nodes i).state.isPrimary = true → i ≠ top →
    node.state.isPrimary = true ∧
        node.stats.stepDowns = (first.nodes i).stats.stepDowns ∨
      node.state.isPrimary = false ∧
        node.stats.stepDowns = (first.nodes i).stats.stepDowns + 1 ∧
        ∃ leader, node.state.primary = some leader ∧ leader ≤ (first.nodes top).id
  seqn_le : (first.nodes i).state.seqn ≤ node.state.seqn

/-- Whether the state of a former primary has been handed over to `top`, or is on its way. -/
def HandedOver (first : World ι) (top i : ι) (world : World ι) : Prop :=
  (first.nodes i).state.seqn ≤ (world.nodes top).state.seqn ∨
    ∃ sum seqn, (first.nodes i).state.seqn ≤ seqn ∧
      first.datagram i top (.victoryAck (first.nodes i).id sum seqn) ∈ world.inFlight

/-- What holds during the exchange if `top` is the highest of the primaries. -/
structure Settling (first : World ι) (top : ι) (world : World ι) : Prop where
  now : world.now = first.now
  placed : ∀ i, Placed first top i (world.nodes i)
  flying : ∀ d ∈ world.inFlight, ∃ s r message, s ≠ r ∧ Sent first s r message ∧
    d = first.datagram s r message
  /-- As long as a primary does not follow `top`, the heartbeat of `top` is still to come. -/
  handed : ∀ i, (first.nodes i).state.isPrimary = true → top ≠ i →
    first.datagram top i ((first.nodes top).heartbeat first.now) ∈ world.inFlight ∨
      (world.nodes i).state.isPrimary = false ∧ HandedOver first top i world

/-! ## Arrivals -/

/-- What the arrival of a message at a member comes to. -/
structure Arrival (first : World ι) (top i : ι) (node next : Node) (effects : Effects) :
    Prop where
  elects : effects.elects = false
  sent : ∀ letter ∈ effects.letters, ∃ r, i ≠ r ∧ Sent first i r letter.message ∧
    letter.destination = (first.nodes r).address
  place : node.Keeps next ∨
    i ≠ top ∧ ∃ leader, leader ≤ (first.nodes top).id ∧ node.Yields next leader

section Letters

variable {first : World ι} {s i : ι} (ne : s ≠ i) {node : Node}
  (id : node.id = (first.nodes i).id)

include ne id

theorem sent_victoryAck {letter : Letter}
    (same : letter = ⟨(first.nodes s).address, node.victoryAck⟩) :
    ∃ r, i ≠ r ∧ Sent first i r letter.message ∧
      letter.destination = (first.nodes r).address := by
  obtain rfl := same
  refine ⟨s, ne.symm, ?_, rfl⟩
  show Sent first i s (.victoryAck node.id node.state.sum node.state.seqn)
  rw [id]
  exact .victoryAck _ _

/-- What a member sends in answer to a heartbeat that it heeds. -/
theorem sent_acknowledge {seqn : Seqn} {letter : Letter}
    (mem : letter ∈ (node.acknowledge (first.nodes s).address seqn).letters) :
    ∃ r, i ≠ r ∧ Sent first i r letter.message ∧
      letter.destination = (first.nodes r).address := by
  unfold Node.acknowledge at mem
  split at mem
  · exact sent_victoryAck ne id (List.mem_singleton.1 mem)
  · obtain rfl := List.mem_singleton.1 mem
    refine ⟨s, ne.symm, ?_, rfl⟩
    show Sent first i s (.stateAck node.id node.state.seqn)
    rw [id]
    exact .stateAck _

end Letters

theorem elects_acknowledge {node : Node} {address : Address} {seqn : Seqn} :
    (node.acknowledge address seqn).elects = false := by
  unfold Node.acknowledge
  split <;> rfl

theorem Settling.id_of_handle {first world : World ι} {top i : ι}
    (settling : Settling first top world) {message : Message} {source : Address} {next : Node}
    {effects : Effects}
    (handled : (world.nodes i).handle world.now message source = (next, effects)) :
    next.id = (first.nodes i).id := by
  have reacts := Node.changes_handle (world.nodes i) world.now message source
  rw [handled] at reacts
  exact (congrArg (·.1) reacts.standing_eq).trans (settling.placed i).id_eq

section Arrival

variable {first world : World ι} {top : ι} (settling : Settling first top world)
  (highest : ∀ i, (first.nodes i).state.isPrimary = true →
    (first.nodes i).id ≤ (first.nodes top).id)
  (distinct : Function.Injective fun i => (first.nodes i).id) {s i : ι} (ne : s ≠ i)

include settling distinct ne

omit highest in
theorem id_ne : (first.nodes s).id ≠ (world.nodes i).id := by
  rw [(settling.placed i).id_eq]
  exact fun same => ne (distinct same)

include highest

/-- The highest primary is never outranked by another one. -/
theorem ne_top_of_le (leads : (first.nodes s).state.isPrimary = true)
    (outranked : (world.nodes i).state.isPrimary = true →
      (world.nodes i).id ≤ (first.nodes s).id) : i ≠ top := by
  rintro rfl
  have le := outranked ((settling.placed i).top_leads rfl)
  rw [(settling.placed i).id_eq] at le
  exact ne (distinct (UInt32.le_antisymm (highest s leads) le))

theorem arrival_heartbeat (leads : (first.nodes s).state.isPrimary = true)
    {next : Node} {effects : Effects}
    (handled : (world.nodes i).handle world.now ((first.nodes s).heartbeat first.now)
      (first.nodes s).address = (next, effects)) :
    Arrival first top i (world.nodes i) next effects := by
  have id_eq := settling.id_of_handle handled
  cases Node.handle_heartbeat (id_ne settling distinct ne) ((settling.placed i).knows s ne.symm)
    handled with
  | defies leads_here lower keeps =>
    refine ⟨rfl, ?_, .inl keeps⟩
    intro letter mem
    obtain rfl := List.mem_singleton.1 mem
    refine ⟨s, ne.symm, ?_, rfl⟩
    show Sent first i s (.victory next.id next.state.sum next.state.seqn (Time.stamp world.now))
    rw [id_eq]
    rw [(settling.placed i).id_eq] at lower
    exact .victory ((settling.placed i).leads leads_here) lower _ _ _
  | ignores _ _ _ keeps =>
    refine ⟨rfl, ?_, .inl keeps⟩
    intro letter mem
    simp [Effects.letters, Effects.none] at mem
  | yields outranked yields _ =>
    refine ⟨elects_acknowledge, fun letter => sent_acknowledge ne id_eq, .inr ?_⟩
    exact ⟨ne_top_of_le settling highest distinct ne leads outranked, _, highest s leads, yields⟩

theorem arrival_victory {sum : Int64} {seqn : Seqn} {timestamp : UInt64}
    (leads : (first.nodes s).state.isPrimary = true)
    (higher : (first.nodes i).id < (first.nodes s).id) {next : Node} {effects : Effects}
    (handled : (world.nodes i).handle world.now
      (.victory (first.nodes s).id sum seqn timestamp) (first.nodes s).address =
        (next, effects)) :
    Arrival first top i (world.nodes i) next effects := by
  rw [← (settling.placed i).id_eq] at higher
  obtain ⟨yields, -, rfl⟩ := Node.handle_victory higher ((settling.placed i).knows s ne.symm) handled
  refine ⟨rfl, fun letter mem => ?_, .inr ⟨?_, _, highest s leads, yields⟩⟩
  · exact sent_victoryAck ne (settling.id_of_handle handled) (List.mem_singleton.1 mem)
  · exact ne_top_of_le settling highest distinct ne leads fun _ => UInt32.le_of_lt higher

theorem arrival_of_sent {message : Message} (sent : Sent first s i message) {next : Node}
    {effects : Effects}
    (handled : (world.nodes i).handle world.now message (first.nodes s).address =
      (next, effects)) :
    Arrival first top i (world.nodes i) next effects := by
  have other := id_ne settling distinct ne
  have silent : ∀ letter ∈ Effects.none.letters, ∃ r, i ≠ r ∧ Sent first i r letter.message ∧
      letter.destination = (first.nodes r).address := by
    intro letter mem
    simp [Effects.letters, Effects.none] at mem
  cases sent with
  | heartbeat leads => exact arrival_heartbeat settling highest distinct ne leads handled
  | victory leads higher =>
    exact arrival_victory settling highest distinct ne leads higher handled
  | victoryAck =>
    obtain ⟨keeps, -, rfl⟩ := Node.handle_victoryAck other handled
    exact ⟨rfl, silent, .inl keeps⟩
  | stateAck =>
    obtain ⟨keeps, rfl⟩ := Node.handle_stateAck other handled
    exact ⟨rfl, silent, .inl keeps⟩

end Arrival

section Handover

variable {first world : World ι} {top i : ι} (settling : Settling first top world)
  (highest : ∀ i, (first.nodes i).state.isPrimary = true →
    (first.nodes i).id ≤ (first.nodes top).id)
  (distinct : Function.Injective fun i => (first.nodes i).id) (ne : top ≠ i)

include settling highest distinct ne

/-- A primary that hears the heartbeat of the highest one follows it, and answers with its state if
that is newer. -/
theorem handed_of_heartbeat (leads : (first.nodes i).state.isPrimary = true)
    {next : Node} {effects : Effects}
    (handled : (world.nodes i).handle world.now ((first.nodes top).heartbeat first.now)
      (first.nodes top).address = (next, effects)) :
    next.state.isPrimary = false ∧ (next.state.seqn ≤ (first.nodes top).state.seqn ∨
      ⟨(first.nodes top).address, next.victoryAck⟩ ∈ effects.letters) := by
  have placed := settling.placed i
  cases Node.handle_heartbeat (id_ne settling distinct ne) (placed.knows top ne.symm) handled with
  | defies _ lower =>
    rw [placed.id_eq] at lower
    exact absurd (UInt32.lt_of_lt_of_le lower (highest i leads)) (UInt32.lt_irrefl _)
  | ignores backup follows higher =>
    rcases placed.stepped leads ne.symm with ⟨leads_here, -⟩ | ⟨-, -, leader, follows', le⟩
    · simp [backup] at leads_here
    · obtain rfl := Option.some.inj (follows.symm.trans follows')
      exact absurd (UInt32.lt_of_lt_of_le higher le) (UInt32.lt_irrefl _)
  | yields _ yields _ =>
    refine ⟨yields.follows, ?_⟩
    unfold Node.acknowledge
    split
    · exact .inr (List.mem_singleton_self _)
    · rename_i notNewer
      exact .inl (UInt64.not_lt.1 notNewer)

end Handover

/-! ## Deliveries -/

theorem Sent.bare {first : World ι} {s r : ι} {message : Message}
    (sent : Sent first s r message) : message.bare = message := by
  cases sent <;> rfl

theorem placed_of_arrival {first : World ι} {top i : ι} {node next : Node} {effects : Effects}
    (placed : Placed first top i node) (arrival : Arrival first top i node next effects)
    {cause : Cause} (reacts : Node.Changes cause node next) : Placed first top i next where
  id_eq := (congrArg (·.1) reacts.standing_eq).trans placed.id_eq
  address_eq := (congrArg (·.2.1) reacts.standing_eq).trans placed.address_eq
  knows := fun j ne => reacts.extends _ (placed.knows j ne)
  leads := by
    intro leads
    rcases arrival.place with keeps | ⟨-, leader, -, yields⟩
    · exact placed.leads (keeps.leads ▸ leads)
    · simp [yields.follows] at leads
  top_leads := by
    intro same
    rcases arrival.place with keeps | ⟨ne, -⟩
    · exact keeps.leads.trans (placed.top_leads same)
    · exact absurd same ne
  stepped := by
    intro led ne
    rcases arrival.place with keeps | ⟨-, leader, le, yields⟩
    · rw [keeps.leads, keeps.stepDowns, keeps.primary]
      exact placed.stepped led ne
    · refine .inr ⟨yields.follows, ?_, leader, yields.primary, le⟩
      rw [yields.stepDowns]
      rcases placed.stepped led ne with ⟨leads, same⟩ | ⟨follows, same, -⟩
      · rw [leads, same, if_pos rfl]
      · rw [follows, same]
        rfl
  seqn_le := UInt64.le_trans placed.seqn_le reacts.follows.seqn_le

theorem follows_of_arrival {first : World ι} {top i : ι} {node next : Node} {effects : Effects}
    (arrival : Arrival first top i node next effects) (follows : node.state.isPrimary = false) :
    next.state.isPrimary = false := by
  rcases arrival.place with keeps | ⟨-, leader, -, yields⟩
  · exact keeps.leads.trans follows
  · exact yields.follows

theorem mem_of_mem_left {world : World ι} {datagram other : Datagram} {again : Bool}
    (mem : other ∈ world.left datagram again) : other ∈ world.inFlight := by
  unfold left at mem
  split at mem
  · exact mem
  · exact List.mem_of_mem_erase mem

/-- What is on its way stays there, unless it is what has just arrived. -/
theorem eq_or_mem_left {world : World ι} {other : Datagram} (mem : other ∈ world.inFlight)
    (datagram : Datagram) (again : Bool) (new : List Datagram) :
    other = datagram ∨ other ∈ world.left datagram again ++ new := by
  by_cases same : other = datagram
  · exact .inl same
  · refine .inr (List.mem_append_left _ ?_)
    unfold left
    split
    · exact mem
    · exact (List.mem_erase_of_ne same).2 mem

theorem datagram_inj {first : World ι}
    (distinct : Function.Injective fun i => (first.nodes i).address) {s r s' r' : ι}
    {message message' : Message}
    (same : first.datagram s r message = first.datagram s' r' message') :
    s = s' ∧ r = r' ∧ message = message' := by
  obtain ⟨source, letter⟩ := Datagram.mk.inj same
  obtain ⟨destination, message⟩ := Letter.mk.inj letter
  exact ⟨distinct source, distinct destination, message⟩

section Delivery

variable {first world : World ι} {top s r : ι} {message : Message} {again : Bool} {next : Node}
  {effects : Effects}
  (standoff : Standoff first) (settling : Settling first top world)
  (highest : ∀ i, (first.nodes i).state.isPrimary = true →
    (first.nodes i).id ≤ (first.nodes top).id)
  (ne : s ≠ r) (sent : Sent first s r message)
  (handled : (world.nodes r).handle world.now message (first.nodes s).address = (next, effects))

include handled

section

include standoff settling highest ne sent

theorem flying_deliver {d : Datagram}
    (mem : d ∈ world.left (first.datagram s r message) again ++
      effects.letters.map (Datagram.mk next.address)) :
    ∃ s r message, s ≠ r ∧ Sent first s r message ∧ d = first.datagram s r message := by
  rcases List.mem_append.1 mem with old | new
  · exact settling.flying d (mem_of_mem_left old)
  · obtain ⟨letter, letter_mem, rfl⟩ := List.mem_map.1 new
    have arrival := arrival_of_sent settling highest standoff.distinct_ids ne sent handled
    obtain ⟨r', ne', sent', destination⟩ := arrival.sent letter letter_mem
    have reacts := Node.changes_handle (world.nodes r) world.now message (first.nodes s).address
    rw [handled] at reacts
    have address : next.address = (first.nodes r).address :=
      (congrArg (·.2.1) reacts.standing_eq).trans (settling.placed r).address_eq
    refine ⟨r, r', letter.message, ne', sent', ?_⟩
    unfold datagram
    rw [address, ← destination]

end

variable [DecidableEq ι]

theorem seqn_le_deliver (i : ι) :
    (world.nodes i).state.seqn ≤ (Function.update world.nodes r next i).state.seqn := by
  by_cases acting : i = r
  · subst acting
    rw [Function.update_self]
    have reacts := Node.changes_handle (world.nodes i) world.now message (first.nodes s).address
    rw [handled] at reacts
    exact reacts.follows.seqn_le
  · rw [Function.update_of_ne acting]
    exact UInt64.le_refl _

include standoff settling highest ne sent

theorem placed_deliver (i : ι) : Placed first top i (Function.update world.nodes r next i) := by
  by_cases acting : i = r
  · subst acting
    rw [Function.update_self]
    have arrival := arrival_of_sent settling highest standoff.distinct_ids ne sent handled
    have reacts := Node.changes_handle (world.nodes i) world.now message (first.nodes s).address
    rw [handled] at reacts
    exact placed_of_arrival (settling.placed i) arrival reacts
  · rw [Function.update_of_ne acting]
    exact settling.placed i

theorem follows_deliver {i : ι} (follows : (world.nodes i).state.isPrimary = false) :
    (Function.update world.nodes r next i).state.isPrimary = false := by
  by_cases acting : i = r
  · subst acting
    rw [Function.update_self]
    exact follows_of_arrival
      (arrival_of_sent settling highest standoff.distinct_ids ne sent handled) follows
  · rw [Function.update_of_ne acting]
    exact follows

/-- The heartbeat of the highest primary has arrived. -/
theorem handed_deliver (again : Bool) (s_eq : s = top)
    (message_eq : message = (first.nodes top).heartbeat first.now)
    (led : (first.nodes r).state.isPrimary = true) :
    next.state.isPrimary = false ∧ HandedOver first top r
      ({ world with inFlight := world.left (first.datagram s r message) again }.put r next
        effects.letters) := by
  subst s_eq message_eq
  have placed := placed_deliver standoff settling highest ne sent handled r
  rw [Function.update_self] at placed
  obtain ⟨follows, handed⟩ := handed_of_heartbeat settling highest standoff.distinct_ids ne led
    handled
  refine ⟨follows, ?_⟩
  rcases handed with le | sent
  · refine .inl (UInt64.le_trans placed.seqn_le (UInt64.le_trans le ?_))
    exact UInt64.le_trans (settling.placed s).seqn_le (seqn_le_deliver handled s)
  · refine .inr ⟨next.state.sum, next.state.seqn, placed.seqn_le, ?_⟩
    refine List.mem_append_right _ (List.mem_map.2 ⟨_, sent, ?_⟩)
    unfold datagram
    rw [placed.address_eq, ← placed.id_eq]
    rfl

theorem settling_deliver (again : Bool) : Settling first top
    ({ world with inFlight := world.left (first.datagram s r message) again }.put r next
      effects.letters) := by
  have placed := placed_deliver standoff settling highest ne sent handled
  refine ⟨settling.now, placed, fun d => flying_deliver standoff settling highest ne sent handled,
    ?_⟩
  intro i led top_ne
  rcases settling.handed i led top_ne with flies | ⟨follows, handed⟩
  · rcases eq_or_mem_left flies (first.datagram s r message) again
      (effects.letters.map (Datagram.mk next.address)) with same | stays
    · -- the heartbeat of `top` has just arrived
      obtain ⟨rfl, rfl, rfl⟩ := datagram_inj standoff.distinct_addresses same
      obtain ⟨follows, handed⟩ := handed_deliver standoff settling highest ne sent handled again
        rfl rfl led
      refine .inr ⟨?_, handed⟩
      show (Function.update world.nodes i next i).state.isPrimary = false
      rw [Function.update_self]
      exact follows
    · exact .inl stays
  · refine .inr ⟨follows_deliver standoff settling highest ne sent handled follows, ?_⟩
    rcases handed with le | ⟨sum, seqn, le, flies⟩
    · exact .inl (UInt64.le_trans le (seqn_le_deliver handled top))
    · rcases eq_or_mem_left flies (first.datagram s r message) again
        (effects.letters.map (Datagram.mk next.address)) with same | stays
      · -- the state that was on its way has just arrived at `top`, which takes it over
        obtain ⟨rfl, rfl, rfl⟩ := datagram_inj standoff.distinct_addresses same
        have leads := (settling.placed top).top_leads rfl
        have reached := (Node.handle_victoryAck (id_ne settling standoff.distinct_ids ne)
          handled).2.1 leads
        refine .inl (UInt64.le_trans le ?_)
        show seqn ≤ (Function.update world.nodes top next top).state.seqn
        rw [Function.update_self]
        exact reached
      · exact .inr ⟨sum, seqn, le, stays⟩

end Delivery

/-! ## The whole exchange -/

section Exchange

variable {first : World ι} {top : ι} (standoff : Standoff first)
  (leads : (first.nodes top).state.isPrimary = true)

include standoff leads

theorem settling_of_standoff : Settling first top first where
  now := rfl
  placed := by
    intro i
    refine ⟨rfl, rfl, fun j ne => ?_, fun leads => leads, ?_, fun led _ => .inl ⟨led, rfl⟩,
      UInt64.le_refl _⟩
    · obtain ⟨record, found, -⟩ := Option.map_eq_some_iff.1 (standoff.known i j ne)
      exact Option.isSome_iff_exists.2 ⟨record, found⟩
    · rintro rfl
      exact leads
  flying := by
    intro d mem
    obtain ⟨s, r, ne, led, rfl⟩ := (standoff.heartbeats d).1 mem
    exact ⟨s, r, _, ne, .heartbeat led, rfl⟩
  handed := fun i _ ne => .inl ((standoff.heartbeats _).2 ⟨top, i, ne, leads, rfl⟩)

variable [DecidableEq ι]
  (highest : ∀ i, (first.nodes i).state.isPrimary = true →
    (first.nodes i).id ≤ (first.nodes top).id)

include highest

theorem Exchange.settling {log : List Effects} {world : World ι}
    (exchange : Exchange first log world) :
    Settling first top world ∧ ∀ effects ∈ log, effects.elects = false := by
  induction exchange with
  | start => exact ⟨settling_of_standoff standoff leads, by simp⟩
  | @deliver log world exchange member d again flies reaches ih =>
    obtain ⟨settling, quiet⟩ := ih
    obtain ⟨s, r, message, ne, sent, rfl⟩ := settling.flying d flies
    have same : r = member := by
      rw [(settling.placed member).address_eq] at reaches
      exact standoff.distinct_addresses reaches
    subst same
    obtain ⟨⟨next, effects⟩, handled⟩ : ∃ result, (world.nodes r).handle world.now message
      (first.nodes s).address = result := ⟨_, rfl⟩
    have delivers : world.deliver r (first.datagram s r message) again = (effects,
        { world with inFlight := world.left (first.datagram s r message) again }.put r next
          effects.letters) := by
      unfold World.deliver datagram
      simp only [sent.bare, handled]
    rw [delivers]
    refine ⟨settling_deliver standoff settling highest ne sent handled again, ?_⟩
    intro other mem
    rcases List.mem_cons.1 mem with rfl | mem
    · exact (arrival_of_sent settling highest standoff.distinct_ids ne sent handled).elects
    · exact quiet other mem

end Exchange

/-- When several nodes lead and each has told every other node, and everything that was said has
arrived, then only the highest of them leads, each other one has stepped down once, nobody has been
asked for an election, and the one that leads has reached every number that one of them had. -/
theorem split_brain_heals [DecidableEq ι] {first world : World ι} {log : List Effects} {top : ι}
    (standoff : Standoff first) (leads : (first.nodes top).state.isPrimary = true)
    (highest : ∀ i, (first.nodes i).state.isPrimary = true →
      (first.nodes i).id ≤ (first.nodes top).id)
    (exchange : Exchange first log world) (settled : world.inFlight = []) :
    (∀ i, (world.nodes i).state.isPrimary = true ↔ i = top) ∧
    (∀ effects ∈ log, effects.elects = false) ∧
    (∀ i, (first.nodes i).state.isPrimary = true → i ≠ top →
      (world.nodes i).stats.stepDowns = (first.nodes i).stats.stepDowns + 1) ∧
    ∀ i, (first.nodes i).state.isPrimary = true →
      (first.nodes i).state.seqn ≤ (world.nodes top).state.seqn := by
  obtain ⟨settling, quiet⟩ := exchange.settling standoff leads highest
  have handed : ∀ i, (first.nodes i).state.isPrimary = true → top ≠ i →
      (world.nodes i).state.isPrimary = false ∧
        (first.nodes i).state.seqn ≤ (world.nodes top).state.seqn := by
    intro i led ne
    rcases settling.handed i led ne with flies | ⟨follows, le | ⟨sum, seqn, -, flies⟩⟩
    · simp [settled] at flies
    · exact ⟨follows, le⟩
    · simp [settled] at flies
  refine ⟨fun i => ⟨fun leads_now => ?_, ?_⟩, quiet, fun i led ne => ?_, fun i led => ?_⟩
  · by_contra ne
    have follows := (handed i ((settling.placed i).leads leads_now) (Ne.symm ne)).1
    simp [follows] at leads_now
  · rintro rfl
    exact (settling.placed i).top_leads rfl
  · rcases (settling.placed i).stepped led ne with ⟨leads_now, -⟩ | ⟨-, stepDowns, -⟩
    · simp [(handed i led ne.symm).1] at leads_now
    · exact stepDowns
  · by_cases same : top = i
    · subst same
      exact (settling.placed top).seqn_le
    · exact (handed i led same).2

/-! ## Two primaries -/

/-- Two nodes that know each other and both lead, the lower one with a newer state. -/
def duel : World Bool :=
  let world := boot (fun isHigher : Bool =>
    if isHigher then
      (Config.ofPrimary 2 (.v4 ⟨10, 0, 0, 2⟩ 1)).withPeer ⟨1, .v4 ⟨10, 0, 0, 1⟩ 1⟩
    else (Config.ofPrimary 1 (.v4 ⟨10, 0, 0, 1⟩ 1)).withPeer ⟨2, .v4 ⟨10, 0, 0, 2⟩ 1⟩) 0
  let nodes := Function.update world.nodes false
    { world.nodes false with state := { (world.nodes false).state with sum := 5, seqn := 3 } }
  { world with
    nodes
    inFlight :=
      [⟨(nodes false).address, ⟨(nodes true).address, (nodes false).heartbeat world.now⟩⟩,
        ⟨(nodes true).address, ⟨(nodes false).address, (nodes true).heartbeat world.now⟩⟩] }

theorem duel_standoff : Standoff duel where
  distinct_ids := by unfold Function.Injective; decide
  distinct_addresses := by unfold Function.Injective; decide
  known := by decide
  idle := by decide
  heartbeats := by
    intro d
    constructor
    · intro mem
      rcases List.mem_cons.1 mem with rfl | mem
      · exact ⟨false, true, by decide, by decide, rfl⟩
      · obtain rfl := List.mem_singleton.1 mem
        exact ⟨true, false, by decide, by decide, rfl⟩
    · rintro ⟨i, j, ne, leads, rfl⟩
      revert i j
      decide

/-- The lower primary steps down, and the higher one takes over its state. -/
theorem split_brain_heals_duel :
    ∃ log world, Exchange duel log world ∧ world.inFlight = [] ∧
      (∀ i, (world.nodes i).state.isPrimary = true ↔ i = true) ∧
      (∀ effects ∈ log, effects.elects = false) ∧
      (world.nodes false).stats.stepDowns = 1 ∧ 3 ≤ (world.nodes true).state.seqn := by
  have begins : Exchange duel [] duel := .start
  have exchange := begins
    |>.deliver true (duel.datagram false true (.heartbeat 1 5 3 0)) false (by decide) (by decide)
    |>.deliver false (duel.datagram true false (.heartbeat 2 0 0 0)) false (by decide) (by decide)
    |>.deliver false (duel.datagram true false (.victory 2 0 0 0)) false (by decide) (by decide)
    |>.deliver true (duel.datagram false true (.victoryAck 1 5 3)) false (by decide) (by decide)
    |>.deliver true (duel.datagram false true (.victoryAck 1 5 3)) false (by decide) (by decide)
  have leads : (duel.nodes true).state.isPrimary = true := by decide
  have highest : ∀ i, (duel.nodes i).state.isPrimary = true →
      (duel.nodes i).id ≤ (duel.nodes true).id := by decide
  obtain ⟨leads, quiet, stepDowns, reached⟩ := split_brain_heals duel_standoff leads highest
    exchange (by decide)
  exact ⟨_, _, exchange, by decide, leads, quiet, stepDowns false (by decide) (by decide),
    reached false (by decide)⟩

end World

end SumCluster
