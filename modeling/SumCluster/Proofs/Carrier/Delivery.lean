import SumCluster.Proofs.Address.Text
import SumCluster.Proofs.Carrier.Registration
import SumCluster.Proofs.Wire.Frame

/-!
# Delivery in the network in memory

Whatever is done with a network, a message that an open endpoint sends counts once, as delivered or
as dropped, and it is delivered just when its destination leads to an endpoint that is not left to
itself and nothing is out of order in between.  What an endpoint has received, together with what
waits in its inbox, is all that was delivered to it, in the order in which it was sent
(`Network.receipts_append_pending`).
-/

namespace SumCluster

/-! ## Scopes -/

/-- An address without its scope. -/
def Address.unscoped : Address → Address
  | v4 ip port => v4 ip port
  | v6 ip port flow _ => v6 ip port flow 0

theorem Address.bare_eq_unscoped {address : Address} (plain : address.flow = 0) :
    address.bare = address.unscoped := by
  cases address with
  | v4 => rfl
  | v6 ip port flow scope =>
    obtain rfl : flow = 0 := plain
    rfl

namespace Message

/-- A message without the scopes of the addresses that it lists. -/
def unscoped : Message → Message
  | replicaList sender primary replicas =>
    replicaList sender primary
      (replicas.map fun entry => { entry with address := entry.address.unscoped })
  | message => message

/-- Whether a message lists no address with a flow label. -/
def Unlabelled : Message → Prop
  | replicaList _ _ replicas => ∀ entry ∈ replicas, entry.address.flow = 0
  | _ => True

theorem bare_eq_unscoped {message : Message} (plain : message.Unlabelled) :
    message.bare = message.unscoped := by
  cases message with
  | replicaList sender primary replicas =>
    refine congrArg (replicaList sender primary) (List.map_congr_left fun entry among => ?_)
    rw [Address.bare_eq_unscoped (plain entry among)]
  | _ => rfl

end Message

namespace Network

variable {network : Network} {past : List Operation} {index sender : Nat}
  {source destination : Address} {endpoint : Endpoint} {letter : Letter} {frame : Wire.Bytes}

/-! ## What one operation hands over -/

/-- What an operation delivers to an endpoint: what is sent, with the address of the sender, if it
counts as delivered and is sent to where the endpoint is registered. -/
def delivery (network : Network) (index : Nat) : Operation → List (Message × Address)
  | .send sender throw letter =>
    if (network.send sender throw.value letter).2.delivered = network.delivered + 1 ∧
        network.indexAt? letter.destination = some index then
      (network.addressOf? sender).toList.map fun source => (letter.message, source)
    else []
  | _ => []

/-- What an endpoint receives in an operation. -/
def receipt (network : Network) (index : Nat) : Operation → List (Message × Address)
  | .receive receiver patience =>
    if receiver = index then
      match (network.await receiver patience).1 with
      | some (.ok arrival) => [arrival]
      | _ => []
    else []
  | _ => []

/-- What a history delivered to an endpoint, in the order in which it was sent. -/
def deliveries (index : Nat) : List Operation → List (Message × Address)
  | [] => []
  | operation :: past => deliveries index past ++ (after past).delivery index operation

/-- What an endpoint received in a history, in the order in which it did. -/
def receipts (index : Nat) : List Operation → List (Message × Address)
  | [] => []
  | operation :: past => receipts index past ++ (after past).receipt index operation

/-- What arrives of what is sent. -/
def arrived (sent : Message × Address) : Message × Address :=
  (sent.1.bare, sent.2)

/-- What waits at an endpoint. -/
def pending (network : Network) (index : Nat) : List Arrival :=
  (network.endpoints[index]?.elim [] (·.inbox)).map fun (frame, source) => .ofFrame frame source

/-! ## Sending -/

theorem indexAt?_of_route? {chance : Float}
    (found : network.route? chance source destination = some index) :
    network.indexAt? destination = some index := by
  unfold route? at found
  split at found
  · cases found
  · exact (Option.filter_eq_some_iff.1 found).1

theorem send_eq_deliver (there : network.endpoints[sender]? = some endpoint)
    (isOpen : endpoint.isClosed = false) (encodes : letter.message.encode = .ok frame)
    (chance : Float) :
    network.send sender chance letter =
      (.ok (), network.deliver chance endpoint.address letter.destination frame) := by
  simp [send, there, isOpen, encodes]

/-- A datagram counts once. -/
theorem deliver_counts (chance : Float) :
    let next := network.deliver chance source destination frame
    (next.delivered = network.delivered + 1 ∧ next.dropped = network.dropped ∧
        (network.route? chance source destination).isSome) ∨
      (next.delivered = network.delivered ∧ next.dropped = network.dropped + 1 ∧
        ¬(network.route? chance source destination).isSome) := by
  unfold deliver
  cases network.route? chance source destination with
  | none => exact .inr ⟨rfl, rfl, nofun⟩
  | some index => exact .inl ⟨rfl, rfl, rfl⟩

theorem delivered_deliver_iff (chance : Float) :
    (network.deliver chance source destination frame).delivered = network.delivered + 1 ↔
      (network.route? chance source destination).isSome := by
  obtain ⟨delivered, -, found⟩ | ⟨kept, -, lost⟩ :=
    @deliver_counts network source destination frame chance
  · exact iff_of_true delivered found
  · exact iff_of_false (by omega) lost

/-- A datagram finds its way to an endpoint just when its destination leads there, the endpoint is
not left to itself, nothing is out of order in between, and chance does not lose it. -/
theorem route?_after_eq_some_iff (throw : Throw) :
    (after past).route? throw.value source destination = some index ↔
      (Registers past index destination ∧ IsAttended past index destination) ∧
        Passes past source destination ∧ ¬(after past).isLost throw.value := by
  have attends (leads : (after past).indexAt? destination = some index) :=
    (registers_iff.2 leads).isAttended_iff.symm
  rw [passes_iff past, registers_iff]
  unfold route?
  cases (after past).isBlocked source destination with
  | true => simp
  | false =>
    cases (after past).isLost throw.value with
    | true => simp
    | false => simpa [Option.filter_eq_some_iff] using fun leads => by simpa using attends leads

theorem pending_adjust (change : Endpoint → Endpoint) :
    (network.adjust sender change).pending index =
      if sender = index then
        ((network.endpoints[index]?.map change).elim [] (·.inbox)).map
          fun (frame, source) => .ofFrame frame source
      else network.pending index := by
  rw [pending, getElem?_adjust]
  split
  · rfl
  · rfl

theorem ofFrame_of_encode (encodes : letter.message.encode = .ok frame) :
    Arrival.ofFrame frame source = .ok (arrived (letter.message, source)) := by
  rw [Arrival.ofFrame, Message.decode_exact.2.2.2 _ _ encodes, arrived]

theorem pending_deliver (sound : network.Sound) (chance : Float) :
    (network.deliver chance source destination frame).pending index =
      network.pending index ++
        if network.route? chance source destination = some index then [.ofFrame frame source]
        else [] := by
  unfold deliver
  cases found : network.route? chance source destination with
  | none => simp [pending]
  | some target =>
    change (network.adjust target _).pending index = _
    rw [pending_adjust]
    by_cases same : target = index
    · subst same
      obtain ⟨endpoint, there, -, -⟩ := sound.exists_of_indexAt? (indexAt?_of_route? found)
      simp [pending, there]
    · simp [same]

/-- What is sent is delivered to where it finds its way. -/
theorem delivery_send_eq (throw : Throw) (there : network.endpoints[sender]? = some endpoint)
    (isOpen : endpoint.isClosed = false) (encodes : letter.message.encode = .ok frame) :
    network.delivery index (.send sender throw letter) =
      if network.route? throw.value endpoint.address letter.destination = some index then
        [(letter.message, endpoint.address)]
      else [] := by
  simp only [delivery, send_eq_deliver there isOpen encodes, delivered_deliver_iff, addressOf?,
    there, Option.map_some, Option.toList_some, List.map_singleton]
  refine if_congr ⟨?_, fun routed => ?_⟩ rfl rfl
  · rintro ⟨routed, leads⟩
    obtain ⟨target, found⟩ := Option.isSome_iff_exists.1 routed
    rw [found, ← indexAt?_of_route? found, leads]
  · exact ⟨Option.isSome_of_eq_some routed, indexAt?_of_route? routed⟩

/-- What is sent waits where it is delivered to, behind all that waited there. -/
theorem pending_send (sound : network.Sound) (throw : Throw) :
    (network.send sender throw.value letter).2.pending index =
      network.pending index ++ (network.delivery index (.send sender throw letter)).map
        fun sent => .ok (arrived sent) := by
  have refused (same : (network.send sender throw.value letter).2 = network) :
      (network.send sender throw.value letter).2.pending index =
        network.pending index ++ (network.delivery index (.send sender throw letter)).map
          fun sent => .ok (arrived sent) := by
    have none : network.delivery index (.send sender throw letter) = [] :=
      if_neg fun counted => by simp [same] at counted
    rw [none, same]
    exact (List.append_nil _).symm
  cases there : network.endpoints[sender]? with
  | none => exact refused (by rw [send, there])
  | some endpoint =>
    by_cases closed : endpoint.isClosed
    · exact refused (by simp [send, there, closed])
    · cases encodes : letter.message.encode with
      | error fault => exact refused (by simp [send, there, closed, encodes])
      | ok frame =>
        have isOpen := Bool.eq_false_iff.2 closed
        rw [delivery_send_eq throw there isOpen encodes,
          send_eq_deliver there isOpen encodes, pending_deliver sound]
        split
        · rw [List.map_singleton, ofFrame_of_encode encodes]
        · rfl

/-! ## Receiving -/

/-- What is received is what waited longest, and the rest goes on waiting. -/
theorem receipt_append_pending
    (codes : ∀ arrival ∈ network.pending index, ∃ sent, arrival = .ok sent)
    (receiver patience : Nat) :
    (network.receipt index (.receive receiver patience)).map .ok ++
        (network.await receiver patience).2.2.pending index =
      network.pending index := by
  rw [receipt]
  obtain ⟨endpoint, frame, source, rest, there, -, waits, taken⟩ | failed | idle :=
    @await_cases network receiver patience
  · rw [taken, pending_adjust]
    by_cases same : receiver = index
    · subst same
      have all : network.pending receiver =
          .ofFrame frame source :: rest.map fun (frame, source) => .ofFrame frame source := by
        rw [pending, there, Option.elim_some, waits]
        rfl
      obtain ⟨sent, reads⟩ := codes (.ofFrame frame source) (by rw [all]; exact List.mem_cons_self)
      rw [all, there, reads, if_pos rfl, if_pos rfl]
      rfl
    · rw [if_neg same, if_neg same]
      rfl
  · rw [failed, ite_self]
    rfl
  · rw [idle, ite_self]
    rfl

/-- What waited longest is received next, as long as the endpoint is open. -/
theorem await_of_pending (there : network.endpoints[index]? = some endpoint)
    (isOpen : endpoint.isClosed = false) {next : Arrival} {rest : List Arrival}
    (waits : network.pending index = next :: rest) (patience : Nat) :
    (network.await index patience).1 = some next := by
  rw [pending, there, Option.elim_some] at waits
  obtain ⟨⟨frame, source⟩, others, inbox, first, -⟩ := List.map_eq_cons_iff.1 waits
  rw [← first]
  unfold await take?
  simp [there, isOpen, inbox]

/-! ## Every operation -/

theorem pending_extended (address : Address) :
    (network.extended address).pending index = network.pending index := by
  unfold pending extended
  rw [List.getElem?_append]
  split
  · rfl
  · rename_i beyond
    rw [List.getElem?_eq_none (Nat.le_of_not_lt beyond)]
    cases index - network.endpoints.length with
    | zero => rfl
    | succ _ => rfl

theorem pending_adjust_of_inbox {changed : Nat} {change : Endpoint → Endpoint}
    (keeps : ∀ endpoint, (change endpoint).inbox = endpoint.inbox) :
    (network.adjust changed change).pending index = network.pending index := by
  rw [pending_adjust, pending]
  split
  · cases network.endpoints[index]? with
    | none => rfl
    | some endpoint => exact congrArg (List.map _) (keeps endpoint)
  · rfl

theorem pending_close (closed : Nat) :
    (network.close closed).pending index = network.pending index := by
  rw [pending, endpoints_close]
  exact pending_adjust_of_inbox fun _ => rfl

theorem pending_abandon (left : Nat) :
    (network.abandon left).pending index = network.pending index :=
  pending_adjust_of_inbox fun _ => rfl

/-- What an operation hands over was the first to wait, and what it delivers is the last. -/
theorem pending_perform (sound : network.Sound)
    (codes : ∀ arrival ∈ network.pending index, ∃ sent, arrival = .ok sent)
    (operation : Operation) :
    (network.receipt index operation).map .ok ++ (network.perform operation).pending index =
      network.pending index ++
        (network.delivery index operation).map fun sent => .ok (arrived sent) := by
  cases operation with
  | bind address =>
    rw [perform_bind]
    split
    · exact (List.append_nil _).symm
    · exact (pending_extended address).trans (List.append_nil _).symm
  | send sender throw letter => exact pending_send sound throw
  | receive receiver patience =>
    exact (receipt_append_pending codes receiver patience).trans (List.append_nil _).symm
  | close closed => exact (pending_close closed).trans (List.append_nil _).symm
  | abandon left => exact (pending_abandon left).trans (List.append_nil _).symm
  | _ => exact (List.append_nil _).symm

/-- What an endpoint received and what waits there is what was delivered to it. -/
theorem receipts_append_pending (past : List Operation) (index : Nat) :
    (receipts index past).map .ok ++ (after past).pending index =
      (deliveries index past).map fun sent => .ok (arrived sent) := by
  induction past with
  | nil => rfl
  | cons operation past hypothesis =>
    -- Nothing that waits fails to be read, for all of it was delivered.
    have codes : ∀ arrival ∈ (after past).pending index, ∃ sent, arrival = .ok sent := by
      intro arrival waits
      have listed := List.mem_append_right ((receipts index past).map .ok) waits
      rw [hypothesis] at listed
      obtain ⟨sent, -, same⟩ := List.mem_map.1 listed
      exact ⟨arrived sent, same.symm⟩
    rw [receipts, deliveries, after, List.map_append, List.map_append, List.append_assoc,
      pending_perform (sound_after past) codes, ← List.append_assoc, hypothesis]

/-- What an endpoint received is the beginning of what was delivered to it. -/
theorem receipts_begin_deliveries (past : List Operation) (index : Nat) :
    receipts index past <+: (deliveries index past).map arrived := by
  obtain ⟨begun, rest, split, same, -⟩ :=
    List.map_eq_append_iff.1 (receipts_append_pending past index).symm
  have received : begun.map arrived = receipts index past := by
    apply List.map_injective_iff.2 (@Except.ok.inj ClusterError (Message × Address))
    rw [List.map_map, ← same]
    rfl
  exact ⟨rest.map arrived, by rw [← received, split, List.map_append]⟩

/-- What was delivered to an endpoint and not received waits for it. -/
theorem pending_of_deliveries {next : Message × Address} {rest : List (Message × Address)}
    (left : (deliveries index past).map arrived = receipts index past ++ next :: rest) :
    (after past).pending index = .ok next :: rest.map .ok := by
  have whole := receipts_append_pending past index
  have split := congrArg (List.map (@Except.ok ClusterError _)) left
  rw [List.map_map, List.map_append] at split
  exact List.append_cancel_left (whole.trans split)

/-- After whatever was done, a message that an open endpoint sends counts once, as delivered if its
destination leads to an endpoint that is not left to itself and nothing is out of order in between,
and else as dropped.  An endpoint receives what is delivered to it in the order in which it was
sent, each message once, with the address of its sender, and without the scopes and flow labels of
the addresses that it lists.  Unless it is closed, it goes on to receive what was delivered. -/
theorem deliveries_exact (past : List Operation) :
    (∀ (sender : Nat) (source : Address) (throw : Throw) (letter : Letter) (frame : Wire.Bytes),
      IsOpen past sender source → letter.message.encode = .ok frame →
      let sent := (after past).send sender throw.value letter
      sent.1 = .ok () ∧
      (sent.2.delivered = (after past).delivered + 1 ∧ sent.2.dropped = (after past).dropped ∨
        sent.2.delivered = (after past).delivered ∧
          sent.2.dropped = (after past).dropped + 1) ∧
      ((∀ probability, .lose probability ∈ past → probability = 0.0 ∨ probability = 1.0) →
        (sent.2.delivered = (after past).delivered + 1 ↔
          (∃ index, Registers past index letter.destination ∧
            IsAttended past index letter.destination) ∧
          Passes past source letter.destination ∧ ¬Loses past))) ∧
    ∀ index, receipts index past <+: (deliveries index past).map arrived ∧
      (∀ sent ∈ deliveries index past, sent.1.Unlabelled →
        arrived sent = (sent.1.unscoped, sent.2)) ∧
      ∀ (address : Address) (next : Message × Address) (rest : List (Message × Address)),
        IsOpen past index address →
        (deliveries index past).map arrived = receipts index past ++ next :: rest →
        ∀ patience, ((after past).await index patience).1 = some (.ok next) := by
  refine ⟨fun sender source throw letter frame opened encodes => ?_, fun index =>
    ⟨receipts_begin_deliveries past index, fun sent _ plain => ?_,
      fun address next rest opened left => ?_⟩⟩
  · obtain ⟨endpoint, there, rfl, isOpen⟩ := isOpen_iff.1 opened
    rw [send_eq_deliver there isOpen encodes]
    refine ⟨rfl, ?_, fun extreme => ?_⟩
    · obtain ⟨delivered, kept, -⟩ | ⟨kept, dropped, -⟩ := @deliver_counts (after past)
        endpoint.address letter.destination frame throw.value
      · exact .inl ⟨delivered, kept⟩
      · exact .inr ⟨kept, dropped⟩
    · rw [delivered_deliver_iff, Option.isSome_iff_exists, ← isLost_after_iff extreme throw,
        ← exists_and_right]
      exact exists_congr fun index => route?_after_eq_some_iff throw
  · rw [arrived, Message.bare_eq_unscoped plain]
  · obtain ⟨endpoint, there, -, isOpen⟩ := isOpen_iff.1 opened
    exact await_of_pending there isOpen (pending_of_deliveries left)

/-- Of five messages the first and the last arrive, and the others run into a cut link, an isolated
address and a loss of everything, each of which is undone.  The first one lists an address with a
scope.  A third address is bound, freed and bound anew, and its endpoint is left to itself. -/
theorem deliveries_exact_healed :
    let a : Address := .v4 ⟨10, 0, 0, 1⟩ 1
    let b : Address := .v4 ⟨10, 0, 0, 1⟩ 2
    let c : Address := .v4 ⟨10, 0, 0, 1⟩ 3
    let table (scope : UInt32) : Message :=
      .replicaList 1 none [⟨2, .v6 ⟨0xFE80, 0, 0, 0, 0, 0, 0, 1⟩ 7000 0 scope, true, 250⟩]
    let throw : Throw := ⟨0.5, by decide, by decide⟩
    let past : List Operation :=
      [.abandon 3, .bind c, .close 2, .bind c, .receive 1 100, .send 0 throw ⟨b, .stateAck 1 5⟩,
        .lose 0.0, .send 0 throw ⟨b, .stateAck 1 4⟩, .lose 1.0, .reconnect b,
        .send 0 throw ⟨b, .stateAck 1 3⟩, .isolate b, .heal b a, .send 0 throw ⟨b, .stateAck 1 2⟩,
        .partition a b, .send 0 throw ⟨b, table 4⟩, .bind b, .bind a]
    ((after past).send 0 throw.value ⟨b, .stateAck 1 6⟩).1 = .ok () ∧
      ((after past).send 0 throw.value ⟨b, .stateAck 1 6⟩).2.delivered =
        (after past).delivered + 1 ∧
      ((after past).send 0 throw.value ⟨b, .stateAck 1 6⟩).2.dropped = (after past).dropped ∧
      ((after past).send 0 throw.value ⟨c, .stateAck 1 6⟩).1 = .ok () ∧
      ((after past).send 0 throw.value ⟨c, .stateAck 1 6⟩).2.delivered = (after past).delivered ∧
      ((after past).send 0 throw.value ⟨c, .stateAck 1 6⟩).2.dropped = (after past).dropped + 1 ∧
      receipts 1 past = [((table 4).unscoped, a)] ∧
      receipts 1 past <+: (deliveries 1 past).map arrived ∧
      arrived (table 4, a) = ((table 4).unscoped, a) ∧
      ((after past).await 1 100).1 = some (.ok (.stateAck 1 5, a)) := by
  intro a b c table throw past
  have extreme (probability : Float) (set : .lose probability ∈ past) :
      probability = 0.0 ∨ probability = 1.0 := by
    simp [past] at set
    exact set
  have here : Registers past 0 a := registers_iff.2 (by decide +kernel)
  have there : Registers past 1 b := registers_iff.2 (by decide +kernel)
  have left : Registers past 3 c := registers_iff.2 (by decide +kernel)
  have attended : IsAttended past 1 b := there.isAttended_iff.2 (by decide +kernel)
  have passes : Passes past a b := (passes_iff past).2 (by decide +kernel)
  have lossless : ¬Loses past := by
    rw [← isLost_after_iff extreme throw]
    decide +kernel
  obtain ⟨counts, received⟩ := deliveries_exact past
  obtain ⟨order, scopes, goesOn⟩ := received 1
  obtain ⟨accepted, once, iff⟩ := counts 0 a throw ⟨b, .stateAck 1 6⟩ _ here.isOpen rfl
  have delivered := (iff extreme).2 ⟨⟨1, there, attended⟩, passes, lossless⟩
  obtain ⟨-, kept⟩ := once.resolve_right fun lost => by omega
  obtain ⟨refused, once, iff⟩ := counts 0 a throw ⟨c, .stateAck 1 6⟩ _ here.isOpen rfl
  have unattended : ¬IsAttended past 3 c := mt left.isAttended_iff.1 (by decide +kernel)
  obtain ⟨same, dropped⟩ := once.resolve_left fun found => by
    obtain ⟨⟨index, leads, attends⟩, -⟩ := (iff extreme).1 found.1
    have one := (registers_iff.1 left).symm.trans (registers_iff.1 leads)
    exact unattended (Option.some.inj one ▸ attends)
  have unlabelled : (table 4).Unlabelled := by simp [table, Message.Unlabelled, Address.flow]
  exact ⟨accepted, delivered, kept, refused, same, dropped, by decide +kernel, order,
    scopes (table 4, a) (by decide +kernel) unlabelled,
    goesOn b _ [] there.isOpen (by decide +kernel) 100⟩

/-- A flow label does not arrive, so that what is received is not what was sent.  And an address
whose endpoint is left to itself stays registered, but what is sent there is dropped. -/
theorem labels_and_listeners_lost :
    let a : Address := .v4 ⟨10, 0, 0, 1⟩ 1
    let b : Address := .v4 ⟨10, 0, 0, 1⟩ 2
    let table (flow : UInt32) : Message :=
      .replicaList 1 none [⟨2, .v6 ⟨0xFE80, 0, 0, 0, 0, 0, 0, 1⟩ 7000 flow 0, true, 250⟩]
    let throw : Throw := ⟨0.5, by decide, by decide⟩
    let labelled : List Operation :=
      [.receive 1 100, .send 0 throw ⟨b, table 5⟩, .lose 0.0, .bind b, .bind a]
    let unheard : List Operation := [.abandon 1, .lose 0.0, .bind b, .bind a]
    (deliveries 1 labelled = [(table 5, a)] ∧ receipts 1 labelled = [(table 0, a)] ∧
        (table 0).unscoped ≠ (table 5).unscoped) ∧
      IsOpen unheard 0 a ∧ Registers unheard 1 b ∧ Passes unheard a b ∧ ¬Loses unheard ∧
        ((after unheard).send 0 throw.value ⟨b, .stateAck 1 1⟩).1 = .ok () ∧
        ((after unheard).send 0 throw.value ⟨b, .stateAck 1 1⟩).2.delivered =
          (after unheard).delivered ∧
        ((after unheard).send 0 throw.value ⟨b, .stateAck 1 1⟩).2.dropped =
          (after unheard).dropped + 1 := by
  intro a b table throw labelled unheard
  have here : Registers unheard 0 a := registers_iff.2 (by decide +kernel)
  refine ⟨⟨by decide +kernel, by decide +kernel, by decide +kernel⟩, here.isOpen,
    registers_iff.2 (by decide +kernel), (passes_iff unheard).2 (by decide +kernel), ?_,
    by with_unfolding_all rfl, by decide +kernel, by decide +kernel⟩
  rw [← isLost_after_iff (by simp [unheard]) throw]
  decide +kernel

end Network

end SumCluster
