import SumCluster.Proofs.Carrier.Delivery

/-!
# Closing endpoints of the network in memory

To close an endpoint frees its address, also if somebody else has been bound to it in between.  So
an endpoint is registered as long as none of its address is closed (`Network.registered_iff`), be it
itself or one that had the address before it, and where no endpoint is closed twice the others do
not matter (`Network.ClosesOnce.registered`).
-/

namespace SumCluster

namespace Network

/-- Whether no endpoint is closed twice. -/
def ClosesOnce (past : List Operation) : Prop :=
  ∀ index before, .close index :: before <:+ past → .close index ∉ before

variable {network : Network} {past later earlier : List Operation} {index sender : Nat}
  {address : Address} {endpoint : Endpoint} {letter : Letter} {frame : Wire.Bytes}

/-! ## Closing once -/

theorem ClosesOnce.of_cons {operation : Operation} (once : ClosesOnce (operation :: past)) :
    ClosesOnce past :=
  fun other before closed => once other before (closed.trans (List.suffix_cons ..))

/-- If no endpoint is closed twice, all that are never closed are registered. -/
theorem ClosesOnce.indexAt?_eq (once : ClosesOnce past)
    (has : (after past).addressOf? index = some address) (spared : .close index ∉ past) :
    (after past).indexAt? address = some index := by
  induction past generalizing index address with
  | nil => simp [after, addressOf?] at has
  | cons operation past hypothesis =>
    have before := once.of_cons
    have sparedBefore := mt (List.mem_cons_of_mem operation) spared
    rcases (addressOf?_perform_iff operation).1 has with old | new
    · have registered := hypothesis before old sparedBefore
      refine ((sound_after past).indexAt?_perform_iff operation).2 (.inl ⟨registered, ?_⟩)
      -- An endpoint that is closed for the first time is registered: no other has its address.
      rintro ⟨other, rfl, vacates⟩
      have same := hypothesis before vacates (once other past List.suffix_rfl)
      rw [registered, Option.some.injEq] at same
      exact spared (same ▸ List.mem_cons_self)
    · exact ((sound_after past).indexAt?_perform_iff operation).2 (.inr new)

/-- If no endpoint is closed twice, one that is not closed after it was bound is registered. -/
theorem ClosesOnce.registered (free : (after earlier).indexAt? address = none)
    (once : ClosesOnce (later ++ .bind address :: earlier))
    (spared : .close (after earlier).endpoints.length ∉ later) :
    (after (later ++ .bind address :: earlier)).indexAt? address =
      some (after earlier).endpoints.length := by
  induction later with
  | nil => exact indexAt?_bound free
  | cons operation later hypothesis =>
    have before : ClosesOnce (later ++ .bind address :: earlier) := once.of_cons
    have registered := hypothesis before (mt (List.mem_cons_of_mem operation) spared)
    refine ((sound_after _).indexAt?_perform_iff operation).2 (.inl ⟨registered, ?_⟩)
    rintro ⟨other, rfl, vacates⟩
    have same := before.indexAt?_eq vacates (once other _ List.suffix_rfl)
    rw [registered, Option.some.injEq] at same
    exact spared (same ▸ List.mem_cons_self)

/-! ## What registration is good for -/

theorem Sound.isBound_iff (sound : network.Sound) (has : network.addressOf? index = some address) :
    network.isBound index ↔ network.indexAt? address = some index := by
  simp only [isBound, List.any_eq_true, beq_iff_eq]
  constructor
  · rintro ⟨⟨found, other⟩, listed, rfl⟩
    have leads := sound.indexAt?_eq_some_iff.2 listed
    rw [sound.addressOf?_of_indexAt? leads, Option.some.injEq] at has
    exact has ▸ leads
  · exact fun leads => ⟨_, sound.indexAt?_eq_some_iff.1 leads, rfl⟩

theorem ofFrame_ne_shutdown (frame : Wire.Bytes) (source : Address) :
    Arrival.ofFrame frame source ≠ .error .shutdown := by
  unfold Arrival.ofFrame
  split
  · exact nofun
  · exact nofun

/-- Nothing but its own being closed shuts down an endpoint that is registered. -/
theorem Sound.await_ne_shutdown (sound : network.Sound)
    (registered : network.indexAt? address = some index) (patience : Nat) :
    (network.await index patience).1 ≠ some (.error .shutdown) := by
  obtain ⟨endpoint, there, -, isOpen⟩ := sound.exists_of_indexAt? registered
  have bound := (sound.isBound_iff (sound.addressOf?_of_indexAt? registered)).2 registered
  unfold await take?
  cases waits : endpoint.inbox with
  | nil => simp [there, isOpen, waits, bound]
  | cons first rest => simpa [there, isOpen, waits] using ofFrame_ne_shutdown _ _

theorem await_eq_shutdown (unbound : network.isBound index = false)
    (empty : network.pending index = []) (patience : Nat) :
    (network.await index patience).1 = some (.error .shutdown) := by
  unfold await take?
  cases there : network.endpoints[index]? with
  | none => rfl
  | some endpoint =>
    have nothing : endpoint.inbox = [] := by simpa [pending, there] using empty
    cases closed : endpoint.isClosed with
    | true => simp [closed]
    | false => simp [closed, nothing, unbound]

/-- A registered endpoint that is not left to itself gets what is sent to its address while nothing
is out of order. -/
theorem delivery_of_registered (registers : Registers past index letter.destination)
    (attended : IsAttended past index letter.destination) (throw : Throw)
    (there : (after past).endpoints[sender]? = some endpoint)
    (isOpen : endpoint.isClosed = false) (encodes : letter.message.encode = .ok frame)
    (passes : Passes past endpoint.address letter.destination)
    (kept : (after past).isLost throw.value = false) :
    ((after past).send sender throw.value letter).2.dropped = (after past).dropped ∧
      (after past).delivery index (.send sender throw letter) =
        [(letter.message, endpoint.address)] := by
  have routed :
      (after past).route? throw.value endpoint.address letter.destination = some index :=
    (route?_after_eq_some_iff throw).2
      ⟨⟨registers, attended⟩, passes, Bool.eq_false_iff.1 kept⟩
  rw [delivery_send_eq throw there isOpen encodes, if_pos routed,
    send_eq_deliver there isOpen encodes]
  refine ⟨?_, rfl⟩
  rw [deliver, routed]
  rfl

/-- An endpoint that is not registered gets nothing. -/
theorem Sound.delivery_of_unregistered (sound : network.Sound)
    (has : network.addressOf? index = some address)
    (unregistered : network.indexAt? address ≠ some index) (operation : Operation) :
    network.delivery index operation = [] := by
  cases operation with
  | send sender throw letter =>
    refine if_neg fun counted => unregistered ?_
    rw [sound.addressOf?_of_indexAt? counted.2, Option.some.injEq] at has
    exact has ▸ counted.2
  | _ => rfl

/-- An endpoint that was bound and not closed is registered at its address until another one of
that address is closed, which never happens if none is closed twice.  As long as it is registered
it is not shut down, and it gets what is sent to its address while nothing is out of order, unless
it was left to itself; from then on it gets nothing more, and is shut down once its inbox is
empty. -/
theorem registration_lasts (later earlier : List Operation) (address : Address)
    (free : (after earlier).indexAt? address = none)
    (spared : .close (after earlier).endpoints.length ∉ later) :
    let index := (after earlier).endpoints.length
    let past := later ++ .bind address :: earlier
    ((after past).indexAt? address = some index ↔
      ∀ other before, .bind address :: earlier <:+ before → .close other :: before <:+ past →
        (after before).addressOf? other ≠ some address) ∧
    (ClosesOnce past → (after past).indexAt? address = some index) ∧
    ((after past).indexAt? address = some index →
      (.abandon index ∉ later → ∀ (sender : Nat) (endpoint : Endpoint) (throw : Throw)
        (message : Message) (frame : Wire.Bytes), (after past).endpoints[sender]? = some endpoint →
        endpoint.isClosed = false → message.encode = .ok frame →
        Passes past endpoint.address address → (after past).isLost throw.value = false →
        ((after past).send sender throw.value ⟨address, message⟩).2.dropped =
            (after past).dropped ∧
          (after past).delivery index (.send sender throw ⟨address, message⟩) =
            [(message, endpoint.address)]) ∧
      ∀ patience, ((after past).await index patience).1 ≠ some (.error .shutdown)) ∧
    ((after past).indexAt? address ≠ some index →
      (∀ operation, (after past).delivery index operation = []) ∧
      ((after past).pending index = [] →
        ∀ patience, ((after past).await index patience).1 = some (.error .shutdown))) := by
  intro index past
  have sound := sound_after past
  have has : (after past).addressOf? index = some address := addressOf?_bound free later
  refine ⟨registered_iff free later, fun once => once.registered free spared,
    fun registered => ⟨?_, sound.await_ne_shutdown registered⟩, fun unregistered => ?_⟩
  · intro unleft sender endpoint throw message frame there isOpen encodes passes kept
    have attended : IsAttended past index address := ⟨later, earlier, ⟨rfl, free, rfl⟩, unleft⟩
    exact delivery_of_registered (registers_iff.2 registered) attended throw there isOpen encodes
      passes kept
  · have unbound : (after past).isBound index = false :=
      Bool.eq_false_iff.2 (mt (sound.isBound_iff has).1 unregistered)
    exact ⟨sound.delivery_of_unregistered has unregistered, await_eq_shutdown unbound⟩

/-- An address is bound anew after it was closed once, and a link to it is cut and healed. -/
theorem registration_lasts_rebound :
    let a : Address := .v4 ⟨10, 0, 0, 1⟩ 1
    let c : Address := .v4 ⟨10, 0, 0, 1⟩ 2
    let throw : Throw := ⟨0.5, by decide, by decide⟩
    let earlier : List Operation := [.close 0, .bind c, .bind a]
    let past : List Operation := .heal a c :: .partition c a :: .bind a :: earlier
    (after past).indexAt? a = some 2 ∧
      (after past).delivery 2 (.send 1 throw ⟨a, .stateAck 1 7⟩) = [(.stateAck 1 7, c)] ∧
      ((after past).await 2 100).1 ≠ some (.error .shutdown) := by
  intro a c throw earlier past
  have length : (after earlier).endpoints.length = 2 := by decide
  have spared : Operation.close (after earlier).endpoints.length ∉
      [.heal a c, .partition c a] := by simp
  have closedOnce : ClosesOnce past := fun index before closed among => by
    simp [past, earlier, List.suffix_cons_iff] at closed
    simp [closed] at among
  obtain ⟨-, once, lasts, -⟩ :=
    registration_lasts [.heal a c, .partition c a] earlier a (by decide) spared
  have registered := once closedOnce
  obtain ⟨gets, runs⟩ := lasts registered
  rw [length] at registered gets runs
  obtain ⟨endpoint, there, address, isOpen⟩ :=
    (sound_after past).exists_of_indexAt? (by decide : (after past).indexAt? c = some 1)
  have passes : Passes past endpoint.address a := by
    rw [address, passes_iff]
    decide
  obtain ⟨-, delivered⟩ :=
    gets (by simp) 1 endpoint throw (.stateAck 1 7) _ there isOpen rfl passes (by decide)
  exact ⟨registered, address ▸ delivered, runs 100⟩

/-- An endpoint that is closed a second time takes its successor at the address with it, which is
itself not closed: what is sent to it is dropped, and it is shut down. -/
theorem registration_lost_by_predecessor :
    let a : Address := .v4 ⟨10, 0, 0, 1⟩ 1
    let c : Address := .v4 ⟨10, 0, 0, 1⟩ 2
    let throw : Throw := ⟨0.5, by decide, by decide⟩
    let past : List Operation := [.close 0, .bind a, .close 0, .bind c, .bind a]
    .close 2 ∉ past ∧ (after past).addressOf? 2 = some a ∧ (after past).indexAt? a = none ∧
      Passes past c a ∧
      ((after past).send 1 throw.value ⟨a, .stateAck 1 1⟩).1 = .ok () ∧
      ((after past).send 1 throw.value ⟨a, .stateAck 1 1⟩).2.dropped = (after past).dropped + 1 ∧
      ((after past).await 2 100).1 = some (.error .shutdown) := by
  intro a c throw past
  refine ⟨by simp [past], by decide, by decide, (passes_iff past).2 (by decide), ?_, ?_, ?_⟩
  · with_unfolding_all rfl
  · decide +kernel
  · with_unfolding_all rfl

end Network

end SumCluster
