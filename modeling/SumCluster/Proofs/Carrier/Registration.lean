import Mathlib.Data.List.Infix
import SumCluster.Proofs.Carrier.Operations

/-!
# Endpoints told by the history

The number of an endpoint stands for one place of a history, the operation that bound it
(`Network.Binds`).  What has become of the endpoint is told by what was done since.  It is open
unless it was closed (`Network.isOpen_iff`), somebody listens unless it was left to itself
(`Network.isAttended_iff`), and it is registered unless some endpoint of its address was closed, be
it itself or one that had the address before (`Network.registers_iff`).
-/

namespace SumCluster

namespace Network

/-- A history in which an endpoint was bound to an address, with what was done since and before. -/
structure Binds (past : List Operation) (index : Nat) (address : Address)
    (later earlier : List Operation) : Prop where
  split : past = later ++ .bind address :: earlier
  free : (after earlier).indexAt? address = none
  number : (after earlier).endpoints.length = index

/-- Whether an endpoint was bound to an address and is open. -/
def IsOpen (past : List Operation) (index : Nat) (address : Address) : Prop :=
  ∃ later earlier, Binds past index address later earlier ∧ .close index ∉ later

/-- Whether an endpoint was bound to an address and is not left to itself. -/
def IsAttended (past : List Operation) (index : Nat) (address : Address) : Prop :=
  ∃ later earlier, Binds past index address later earlier ∧ .abandon index ∉ later

/-- Whether an address leads to an endpoint: it was bound to the address, and none of that address
was closed since. -/
def Registers (past : List Operation) (index : Nat) (address : Address) : Prop :=
  ∃ later earlier, Binds past index address later earlier ∧
    ∀ other before, .bind address :: earlier <:+ before → .close other :: before <:+ past →
      (after before).addressOf? other ≠ some address

variable {network : Network} {past later earlier : List Operation} {index : Nat}
  {address : Address} {endpoint : Endpoint}

/-! ## Addresses of endpoints -/

theorem addressOf?_extended_iff {other : Address} :
    (network.extended other).addressOf? index = some address ↔
      network.addressOf? index = some address ∨
        other = address ∧ index = network.endpoints.length := by
  unfold addressOf? extended
  rcases Nat.lt_trichotomy index network.endpoints.length with old | rfl | beyond
  · rw [List.getElem?_append_left old]
    simp [Nat.ne_of_lt old]
  · simp
  · have outside : (network.endpoints ++ [({ address := other } : Endpoint)]).length ≤ index := by
      rw [List.length_append]
      exact beyond
    rw [List.getElem?_eq_none outside, List.getElem?_eq_none (Nat.le_of_lt beyond)]
    simp [Nat.ne_of_gt beyond]

theorem addressOf?_adjust {changed : Nat} {change : Endpoint → Endpoint}
    (keeps : ∀ endpoint, (change endpoint).address = endpoint.address) :
    (network.adjust changed change).addressOf? index = network.addressOf? index := by
  rw [addressOf?, getElem?_adjust, addressOf?]
  split
  · rw [Option.map_map]
    exact congrArg (Option.map · _) (funext keeps)
  · rfl

theorem addressOf?_close (closed : Nat) :
    (network.close closed).addressOf? index = network.addressOf? index := by
  rw [addressOf?, endpoints_close]
  exact addressOf?_adjust fun _ => rfl

theorem addressOf?_abandon (left : Nat) :
    (network.abandon left).addressOf? index = network.addressOf? index :=
  addressOf?_adjust fun _ => rfl

/-- An endpoint keeps its address, and a new one has that which it is bound to. -/
theorem addressOf?_perform_iff (operation : Operation) :
    (network.perform operation).addressOf? index = some address ↔
      network.addressOf? index = some address ∨
        operation = .bind address ∧ network.indexAt? address = none ∧
          index = network.endpoints.length := by
  cases operation with
  | bind other =>
    rw [perform_bind]
    split
    · rename_i taken
      refine ⟨.inl, fun found => found.resolve_right ?_⟩
      rintro ⟨same, free, -⟩
      cases same
      exact Option.isSome_iff_ne_none.1 taken free
    · rename_i free
      have free := Option.not_isSome_iff_eq_none.1 free
      rw [addressOf?_extended_iff]
      refine or_congr_right ⟨?_, ?_⟩
      · rintro ⟨rfl, new⟩
        exact ⟨rfl, free, new⟩
      · rintro ⟨same, -, new⟩
        cases same
        exact ⟨rfl, new⟩
  | send sender throw letter =>
    rw [perform, (alike_send sender throw.value letter).addressOf?_eq]
    simp
  | receive receiver patience =>
    rw [perform, (alike_await receiver patience).addressOf?_eq]
    simp
  | close closed =>
    rw [perform, addressOf?_close]
    simp
  | abandon left =>
    rw [perform, addressOf?_abandon]
    simp
  | _ =>
    change network.addressOf? index = some address ↔ _
    simp

theorem length_ne_of_addressOf? (has : network.addressOf? index = some address) :
    index ≠ network.endpoints.length := by
  rintro rfl
  simp [addressOf?] at has

/-- An endpoint that is bound has its address ever after. -/
theorem addressOf?_bound (free : (after earlier).indexAt? address = none)
    (later : List Operation) :
    (after (later ++ .bind address :: earlier)).addressOf? (after earlier).endpoints.length =
      some address := by
  induction later with
  | nil => exact (addressOf?_perform_iff _).2 (.inr ⟨rfl, free, rfl⟩)
  | cons operation later hypothesis => exact (addressOf?_perform_iff _).2 (.inl hypothesis)

/-! ## Registration -/

theorem indexAt?_bound (free : (after earlier).indexAt? address = none) :
    (after (.bind address :: earlier)).indexAt? address = some (after earlier).endpoints.length :=
  ((sound_after earlier).indexAt?_perform_iff _).2 (.inr ⟨rfl, free, rfl⟩)

/-- An endpoint is registered just when none of its address was closed since it was bound. -/
theorem registered_iff (free : (after earlier).indexAt? address = none) (later : List Operation) :
    (after (later ++ .bind address :: earlier)).indexAt? address =
        some (after earlier).endpoints.length ↔
      ∀ other before, .bind address :: earlier <:+ before →
        .close other :: before <:+ later ++ .bind address :: earlier →
          (after before).addressOf? other ≠ some address := by
  induction later with
  | nil =>
    refine iff_of_true (indexAt?_bound free) fun other before since closed => ?_
    have short := closed.length_le
    have long := since.length_le
    simp at short long
    omega
  | cons operation later hypothesis =>
    have kept := length_ne_of_addressOf? (addressOf?_bound free later)
    rw [List.cons_append, after, (sound_after _).indexAt?_perform_iff, hypothesis]
    constructor
    · rintro (⟨spared, stays⟩ | ⟨-, -, new⟩)
      · intro other before since closed vacates
        rcases List.suffix_cons_iff.1 closed with same | within
        · obtain ⟨rfl, rfl⟩ := List.cons.inj same
          exact stays ⟨other, rfl, vacates⟩
        · exact spared other before since within vacates
      · exact absurd new kept
    · intro spared
      refine .inl ⟨fun other before since closed =>
        spared other before since (closed.trans (List.suffix_cons ..)), ?_⟩
      rintro ⟨other, rfl, vacates⟩
      exact spared other _ (List.suffix_append ..) List.suffix_rfl vacates

/-! ## What has become of an endpoint -/

/-- An operation leaves an endpoint its address.  Only to close it closes it, and only to leave it
to itself does that. -/
theorem exists_endpoint_perform (there : network.endpoints[index]? = some endpoint)
    (operation : Operation) :
    ∃ next, (network.perform operation).endpoints[index]? = some next ∧
      next.address = endpoint.address ∧
      (next.isClosed ↔ operation = .close index ∨ endpoint.isClosed) ∧
      (next.isAttended ↔ operation ≠ .abandon index ∧ endpoint.isAttended) := by
  cases operation with
  | bind other =>
    rw [perform_bind]
    split
    · exact ⟨endpoint, there, rfl, by simp, by simp⟩
    · have inside := (List.getElem?_eq_some_iff.1 there).1
      exact ⟨endpoint, (List.getElem?_append_left inside).trans there, rfl, by simp, by simp⟩
  | send sender throw letter =>
    obtain ⟨next, found, same, closed, attended⟩ :=
      (alike_send sender throw.value letter).exists_next there
    exact ⟨next, found, same, by simp [closed], by simp [attended]⟩
  | receive receiver patience =>
    obtain ⟨next, found, same, closed, attended⟩ :=
      (alike_await receiver patience).exists_next there
    exact ⟨next, found, same, by simp [closed], by simp [attended]⟩
  | close other =>
    rw [perform, getElem?_close, there]
    split
    · rename_i same
      exact ⟨_, rfl, rfl, by simp [same], by simp⟩
    · rename_i differs
      exact ⟨endpoint, rfl, rfl, by simp [differs], by simp⟩
  | abandon other =>
    rw [perform, abandon, getElem?_adjust, there]
    split
    · rename_i same
      exact ⟨_, rfl, rfl, by simp, by simp [same]⟩
    · rename_i differs
      exact ⟨endpoint, rfl, rfl, by simp, by simp [differs]⟩
  | _ => exact ⟨endpoint, there, rfl, by simp, by simp⟩

/-- What has become of an endpoint since it was bound. -/
theorem Binds.exists_endpoint (binds : Binds past index address later earlier) :
    ∃ endpoint, (after past).endpoints[index]? = some endpoint ∧ endpoint.address = address ∧
      (endpoint.isClosed ↔ .close index ∈ later) ∧
      (endpoint.isAttended ↔ .abandon index ∉ later) := by
  obtain ⟨rfl, free, rfl⟩ := binds
  induction later with
  | nil =>
    refine ⟨{ address }, ?_, rfl, by simp, by simp⟩
    rw [List.nil_append, after, perform_bind, if_neg (by simp [free])]
    exact List.getElem?_concat_length
  | cons operation later hypothesis =>
    obtain ⟨endpoint, there, same, closed, attended⟩ := hypothesis
    obtain ⟨next, found, sameNext, closedNext, attendedNext⟩ :=
      exists_endpoint_perform there operation
    refine ⟨next, found, sameNext.trans same, ?_, ?_⟩
    · rw [closedNext, closed, List.mem_cons, eq_comm]
    · rw [attendedNext, attended, List.mem_cons, not_or, ne_eq, eq_comm]

/-- Whatever has an address was bound to it. -/
theorem exists_binds (has : (after past).addressOf? index = some address) :
    ∃ later earlier, Binds past index address later earlier := by
  induction past with
  | nil => simp [after, addressOf?] at has
  | cons operation past hypothesis =>
    rcases (addressOf?_perform_iff operation).1 has with old | ⟨rfl, free, number⟩
    · obtain ⟨later, earlier, split, free, number⟩ := hypothesis old
      exact ⟨operation :: later, earlier, by rw [split, List.cons_append], free, number⟩
    · exact ⟨[], past, rfl, free, number.symm⟩

theorem exists_binds_of_endpoint (there : (after past).endpoints[index]? = some endpoint) :
    ∃ later earlier, Binds past index endpoint.address later earlier ∧
      (endpoint.isClosed ↔ .close index ∈ later) ∧
      (endpoint.isAttended ↔ .abandon index ∉ later) := by
  obtain ⟨later, earlier, binds⟩ := exists_binds (by rw [addressOf?, there, Option.map_some])
  obtain ⟨found, again, -, told⟩ := binds.exists_endpoint
  obtain rfl := Option.some.inj (there.symm.trans again)
  exact ⟨later, earlier, binds, told⟩

/-! ## What the network knows is what the history tells -/

theorem isOpen_iff :
    IsOpen past index address ↔
      ∃ endpoint, (after past).endpoints[index]? = some endpoint ∧ endpoint.address = address ∧
        endpoint.isClosed = false := by
  constructor
  · rintro ⟨later, earlier, binds, spared⟩
    obtain ⟨endpoint, there, same, closed, -⟩ := binds.exists_endpoint
    exact ⟨endpoint, there, same, Bool.eq_false_iff.2 (mt closed.1 spared)⟩
  · rintro ⟨endpoint, there, rfl, isOpen⟩
    obtain ⟨later, earlier, binds, closed, -⟩ := exists_binds_of_endpoint there
    exact ⟨later, earlier, binds, mt closed.2 (Bool.eq_false_iff.1 isOpen)⟩

theorem isAttended_iff :
    IsAttended past index address ↔
      ∃ endpoint, (after past).endpoints[index]? = some endpoint ∧ endpoint.address = address ∧
        endpoint.isAttended = true := by
  constructor
  · rintro ⟨later, earlier, binds, spared⟩
    obtain ⟨endpoint, there, same, -, attended⟩ := binds.exists_endpoint
    exact ⟨endpoint, there, same, attended.2 spared⟩
  · rintro ⟨endpoint, there, rfl, attends⟩
    obtain ⟨later, earlier, binds, -, attended⟩ := exists_binds_of_endpoint there
    exact ⟨later, earlier, binds, attended.1 attends⟩

theorem registers_iff :
    Registers past index address ↔ (after past).indexAt? address = some index := by
  constructor
  · rintro ⟨later, earlier, ⟨rfl, free, rfl⟩, spared⟩
    exact (registered_iff free later).2 spared
  · intro leads
    obtain ⟨later, earlier, binds⟩ := exists_binds ((sound_after past).addressOf?_of_indexAt? leads)
    refine ⟨later, earlier, binds, ?_⟩
    obtain ⟨rfl, free, rfl⟩ := binds
    exact (registered_iff free later).1 leads

/-- What is registered is open, and is left to itself just if the network says so. -/
theorem Registers.isOpen (registers : Registers past index address) : IsOpen past index address :=
  isOpen_iff.2 ((sound_after past).exists_of_indexAt? (registers_iff.1 registers))

theorem Registers.isAttended_iff (registers : Registers past index address) :
    IsAttended past index address ↔ (after past).endpoints[index]?.any (·.isAttended) := by
  obtain ⟨endpoint, there, same, -⟩ :=
    (sound_after past).exists_of_indexAt? (registers_iff.1 registers)
  simp [Network.isAttended_iff, there, same]

end Network

end SumCluster
