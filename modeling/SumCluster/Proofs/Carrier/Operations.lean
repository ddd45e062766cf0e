import Mathlib.Data.List.Nodup
import SumCluster.Carrier.Network

/-!
# Operations on the network in memory

A history is a list of the operations that were done on a network, the latest first, and
`Network.after` is what they lead to.  Which links are cut, which addresses are isolated and whether
everything is lost is told by the history alone: what was done and not undone since (`Since`).  Two
invariants carry what is said about endpoints.  An address that is registered leads to an open
endpoint of that address (`Network.Sound`), and to send and to receive changes nothing but inboxes
and counters (`Network.Alike`).

An endpoint may also be left to itself, without being closed.  Its address stays registered, but
nobody takes what arrives there.
-/

namespace SumCluster

/-- A throw of chance: a number from zero on and below one. -/
structure Throw where
  value : Float
  nonneg : 0.0 ≤ value
  lt_one : value < 1.0

namespace Network

/-- What can be done with a network and its endpoints. -/
inductive Operation
  | bind (address : Address)
  | send (index : Nat) (throw : Throw) (letter : Letter)
  | receive (index patience : Nat)
  | close (index : Nat)
  /-- An endpoint is left to itself, without being closed. -/
  | abandon (index : Nat)
  | partition (a b : Address)
  | heal (a b : Address)
  | isolate (address : Address)
  | reconnect (address : Address)
  | healAll
  /-- From now on datagrams are lost with a probability. -/
  | lose (probability : Float)

/-- The network after an operation.  One that fails leaves it as it is. -/
def perform (network : Network) : Operation → Network
  | .bind address => (network.bind address).toOption.elim network (·.2)
  | .send index throw letter => (network.send index throw.value letter).2
  | .receive index patience => (network.await index patience).2.2
  | .close index => network.close index
  | .abandon index => network.abandon index
  | .partition a b => network.partition a b
  | .heal a b => network.heal a b
  | .isolate address => network.isolate address
  | .reconnect address => network.reconnect address
  | .healAll => network.healAll
  | .lose probability => network.withDropProbability probability

/-- The network after a history. -/
def after : List Operation → Network
  | [] => {}
  | operation :: past => (after past).perform operation

/-- The address of an endpoint. -/
def addressOf? (network : Network) (index : Nat) : Option Address :=
  network.endpoints[index]?.map (·.address)

/-! ## Faults told by the history -/

/-- Whether something was begun and not ended since. -/
def Since (begins ends : Operation → Prop) (past : List Operation) : Prop :=
  ∃ later operation earlier, past = later ++ operation :: earlier ∧ begins operation ∧
    ∀ other ∈ later, ¬ends other

/-- Whether a link between two addresses is cut. -/
def Cuts (past : List Operation) (a b : Address) : Prop :=
  Since (fun operation => operation = .partition a b ∨ operation = .partition b a)
    (fun operation => operation = .heal a b ∨ operation = .heal b a ∨ operation = .healAll) past

/-- Whether an address is isolated. -/
def Isolates (past : List Operation) (address : Address) : Prop :=
  Since (· = .isolate address)
    (fun operation => operation = .reconnect address ∨ operation = .healAll) past

/-- Whether nothing is out of order between two addresses. -/
structure Passes (past : List Operation) (source destination : Address) : Prop where
  linked : ¬Cuts past source destination
  source : ¬Isolates past source
  destination : ¬Isolates past destination

/-- Whether everything is lost, where nothing or everything may be. -/
def Loses (past : List Operation) : Prop :=
  Since (· = .lose 1.0) (· = .lose 0.0) past

variable {begins ends : Operation → Prop} {operation : Operation} {past : List Operation}

theorem not_since_nil : ¬Since begins ends [] := by
  rintro ⟨later, operation, earlier, split, -⟩
  exact absurd split.symm (List.append_ne_nil_of_right_ne_nil _ (List.cons_ne_nil _ _))

theorem since_cons_iff :
    Since begins ends (operation :: past) ↔
      begins operation ∨ ¬ends operation ∧ Since begins ends past := by
  constructor
  · rintro ⟨later, first, earlier, split, begun, lasts⟩
    cases later with
    | nil =>
      obtain ⟨rfl, rfl⟩ := List.cons.inj split
      exact .inl begun
    | cons other later =>
      obtain ⟨rfl, rfl⟩ := List.cons.inj split
      exact .inr ⟨lasts operation List.mem_cons_self, later, first, earlier, rfl, begun,
        fun other among => lasts other (List.mem_cons_of_mem _ among)⟩
  · rintro (begun | ⟨lasts, later, first, earlier, rfl, begun, still⟩)
    · exact ⟨[], operation, past, rfl, begun, by simp⟩
    · exact ⟨operation :: later, first, earlier, rfl, begun, List.forall_mem_cons.2 ⟨lasts, still⟩⟩

/-! ## Inboxes and counters -/

end Network

/-- An endpoint with nothing in its inbox. -/
def Endpoint.emptied (endpoint : Endpoint) : Endpoint :=
  { endpoint with inbox := [] }

namespace Network

/-- Whether the same is out of order in two networks. -/
structure SameFaults (network next : Network) : Prop where
  cutLinks : next.cutLinks = network.cutLinks
  isolated : next.isolated = network.isolated
  dropProbability : next.dropProbability = network.dropProbability

/-- Whether one network becomes the other if no more than inboxes and counters change. -/
structure Alike (network next : Network) : Prop extends SameFaults network next where
  endpoints : next.endpoints.map Endpoint.emptied = network.endpoints.map Endpoint.emptied
  registry : next.registry = network.registry

variable {network next : Network} {index other : Nat} {address a b : Address} {endpoint : Endpoint}

theorem Alike.refl (network : Network) : Alike network network :=
  ⟨⟨rfl, rfl, rfl⟩, rfl, rfl⟩

theorem getElem?_adjust (change : Endpoint → Endpoint) (other : Nat) :
    (network.adjust index change).endpoints[other]? =
      if index = other then network.endpoints[other]?.map change
      else network.endpoints[other]? := by
  rw [adjust, List.getElem?_modify]
  split
  · rfl
  · exact congrFun Option.map_id _

theorem emptied_adjust {change : Endpoint → Endpoint}
    (harmless : ∀ endpoint, (change endpoint).emptied = endpoint.emptied) :
    (network.adjust index change).endpoints.map Endpoint.emptied =
      network.endpoints.map Endpoint.emptied := by
  apply List.ext_getElem?
  intro other
  rw [List.getElem?_map, List.getElem?_map, getElem?_adjust]
  split
  · rw [Option.map_map]
    exact congrArg (Option.map · _) (funext harmless)
  · rfl

theorem alike_deliver (chance : Float) (source destination : Address) (frame : Wire.Bytes) :
    Alike network (network.deliver chance source destination frame) := by
  unfold deliver
  split
  · exact ⟨⟨rfl, rfl, rfl⟩, rfl, rfl⟩
  · exact ⟨⟨rfl, rfl, rfl⟩, emptied_adjust fun _ => rfl, rfl⟩

theorem alike_send (index : Nat) (chance : Float) (letter : Letter) :
    Alike network (network.send index chance letter).2 := by
  unfold send
  split
  · exact .refl network
  · split
    · exact .refl network
    · split
      · exact .refl network
      · exact alike_deliver chance _ _ _

/-- An attempt to receive gives the oldest of the inbox, fails, or gives nothing in time. -/
theorem await_cases (index patience : Nat) :
    (∃ endpoint frame source rest, network.endpoints[index]? = some endpoint ∧
        endpoint.isClosed = false ∧ endpoint.inbox = (frame, source) :: rest ∧
        network.await index patience =
          (some (.ofFrame frame source), 0, network.adjust index ({ · with inbox := rest }))) ∨
      network.await index patience = (some (.error .shutdown), 0, network) ∨
      network.await index patience = (none, patience, network) := by
  unfold await take?
  cases there : network.endpoints[index]? with
  | none => exact .inr (.inl rfl)
  | some endpoint =>
    cases closed : endpoint.isClosed with
    | true => exact .inr (.inl (by simp [closed]))
    | false =>
      cases waits : endpoint.inbox with
      | nil =>
        cases network.isBound index with
        | true => exact .inr (.inr (by simp [closed, waits]))
        | false => exact .inr (.inl (by simp [closed, waits]))
      | cons first rest =>
        exact .inl ⟨endpoint, first.1, first.2, rest, rfl, closed, waits, by simp [closed, waits]⟩

theorem alike_await (index patience : Nat) :
    Alike network (network.await index patience).2.2 := by
  obtain ⟨endpoint, frame, source, rest, -, -, -, taken⟩ | failed | idle :=
    @await_cases network index patience
  · rw [taken]
    exact ⟨⟨rfl, rfl, rfl⟩, emptied_adjust fun _ => rfl, rfl⟩
  · rw [failed]
    exact .refl network
  · rw [idle]
    exact .refl network

/-- An endpoint stays as it is, but for its inbox. -/
theorem Alike.exists_next (alike : Alike network next)
    (there : network.endpoints[index]? = some endpoint) :
    ∃ after, next.endpoints[index]? = some after ∧ after.address = endpoint.address ∧
      after.isClosed = endpoint.isClosed ∧ after.isAttended = endpoint.isAttended := by
  have same := congrArg (·[index]?) alike.endpoints
  simp only [List.getElem?_map, there, Option.map_some] at same
  obtain ⟨after, found, emptied⟩ := Option.map_eq_some_iff.1 same
  obtain ⟨address, _, closed, attended⟩ := (Endpoint.mk.injEq ..).mp emptied
  exact ⟨after, found, address, closed, attended⟩

theorem Alike.addressOf?_eq (alike : Alike network next) (index : Nat) :
    next.addressOf? index = network.addressOf? index := by
  have same := congrArg (fun endpoints => endpoints[index]?.map Endpoint.address) alike.endpoints
  simp only [List.getElem?_map, Option.map_map] at same
  exact same

theorem Alike.indexAt?_eq (alike : Alike network next) (address : Address) :
    next.indexAt? address = network.indexAt? address := by
  rw [indexAt?, indexAt?, alike.registry]

/-! ## Binding and closing -/

/-- The network with a new endpoint at an address. -/
def extended (network : Network) (address : Address) : Network :=
  { network with
    endpoints := network.endpoints ++ [{ address }]
    registry := network.registry ++ [(address, network.endpoints.length)] }

theorem perform_bind :
    network.perform (.bind address) =
      if (network.indexAt? address).isSome then network else network.extended address := by
  change (network.bind address).toOption.elim network (·.2) = _
  unfold bind
  split
  · rfl
  · rfl

theorem sameFaults_close (index : Nat) : SameFaults network (network.close index) := by
  unfold close
  split
  · exact ⟨rfl, rfl, rfl⟩
  · exact ⟨rfl, rfl, rfl⟩

theorem mem_registry_close_iff {entry : Address × Nat} :
    entry ∈ (network.close index).registry ↔
      entry ∈ network.registry ∧ network.addressOf? index ≠ some entry.1 := by
  unfold close addressOf?
  cases network.endpoints[index]? with
  | none => simp
  | some endpoint =>
    simp only [List.mem_filter, bne_iff_ne, Option.map_some, ne_eq, Option.some.injEq]
    exact and_congr_right fun _ => not_congr eq_comm

theorem endpoints_close (index : Nat) :
    (network.close index).endpoints =
      (network.adjust index ({ · with isClosed := true })).endpoints := by
  unfold close
  split
  · rename_i absent
    exact (List.modify_eq_self (List.getElem?_eq_none_iff.1 absent)).symm
  · rfl

theorem getElem?_close (index other : Nat) :
    (network.close index).endpoints[other]? =
      if index = other then network.endpoints[other]?.map ({ · with isClosed := true })
      else network.endpoints[other]? := by
  rw [endpoints_close]
  exact getElem?_adjust _ other

/-! ## Faults in the network -/

/-- Whether an operation is about an endpoint, not about what is out of order. -/
def Operation.IsTraffic : Operation → Prop
  | .bind _ | .send .. | .receive .. | .close _ | .abandon _ => True
  | _ => False

theorem sameFaults_perform (traffic : operation.IsTraffic) :
    SameFaults network (network.perform operation) := by
  cases operation with
  | bind address =>
    rw [perform_bind]
    split
    · exact ⟨rfl, rfl, rfl⟩
    · exact ⟨rfl, rfl, rfl⟩
  | send index throw letter => exact (alike_send index throw.value letter).toSameFaults
  | receive index patience => exact (alike_await index patience).toSameFaults
  | close index => exact sameFaults_close index
  | abandon index => exact ⟨rfl, rfl, rfl⟩
  | _ => exact traffic.elim

theorem mem_cutLinks_perform_iff (operation : Operation) :
    (a, b) ∈ (network.perform operation).cutLinks ↔
      (operation = .partition a b ∨ operation = .partition b a) ∨
        ¬(operation = .heal a b ∨ operation = .heal b a ∨ operation = .healAll) ∧
          (a, b) ∈ network.cutLinks := by
  have faults := @sameFaults_perform network operation
  cases operation with
  | partition c d =>
    simp only [perform, partition, List.mem_cons, Prod.mk.injEq, Operation.partition.injEq,
      reduceCtorEq, or_self, not_false_eq_true, true_and]
    tauto
  | heal c d =>
    simp only [perform, heal, List.mem_filter, Bool.and_eq_true, bne_iff_ne, ne_eq,
      Prod.mk.injEq, not_and, reduceCtorEq, or_self, Operation.heal.injEq, or_false, not_or,
      false_or]
    tauto
  | isolate | reconnect | lose => simp [perform, isolate, reconnect, withDropProbability]
  | healAll => simp [perform, healAll]
  | _ =>
    rw [(faults trivial).cutLinks]
    simp

theorem mem_isolated_perform_iff (operation : Operation) :
    address ∈ (network.perform operation).isolated ↔
      operation = .isolate address ∨
        ¬(operation = .reconnect address ∨ operation = .healAll) ∧ address ∈ network.isolated := by
  have faults := @sameFaults_perform network operation
  cases operation with
  | isolate other =>
    simp only [perform, isolate, List.mem_cons, Operation.isolate.injEq, reduceCtorEq, or_self,
      not_false_eq_true, true_and]
    tauto
  | reconnect other =>
    simp only [perform, reconnect, List.mem_filter, bne_iff_ne, ne_eq, reduceCtorEq,
      Operation.reconnect.injEq, or_false, false_or]
    tauto
  | partition | heal | lose => simp [perform, partition, heal, withDropProbability]
  | healAll => simp [perform, healAll]
  | _ =>
    rw [(faults trivial).isolated]
    simp

theorem withDropProbability_all : (network.withDropProbability 1.0).dropProbability = 1.0 := by
  rw [withDropProbability, if_neg (by decide), if_neg (by decide)]

theorem withDropProbability_none : (network.withDropProbability 0.0).dropProbability = 0.0 := by
  rw [withDropProbability, if_neg (by decide), if_neg (by decide)]

theorem dropProbability_perform (other : ∀ probability, operation ≠ .lose probability) :
    (network.perform operation).dropProbability = network.dropProbability := by
  have faults := @sameFaults_perform network operation
  cases operation with
  | lose probability => exact absurd rfl (other probability)
  | partition | heal | isolate | reconnect | healAll => rfl
  | _ => exact (faults trivial).dropProbability

theorem mem_cutLinks_after_iff (past : List Operation) :
    (a, b) ∈ (after past).cutLinks ↔ Cuts past a b := by
  induction past with
  | nil => exact iff_of_false List.not_mem_nil not_since_nil
  | cons operation past hypothesis =>
    rw [after, mem_cutLinks_perform_iff, hypothesis, Cuts, Cuts, since_cons_iff]

theorem mem_isolated_after_iff (past : List Operation) :
    address ∈ (after past).isolated ↔ Isolates past address := by
  induction past with
  | nil => exact iff_of_false List.not_mem_nil not_since_nil
  | cons operation past hypothesis =>
    rw [after, mem_isolated_perform_iff, hypothesis, Isolates, Isolates, since_cons_iff]

/-- If nothing or everything may be lost, a datagram is lost by chance just when everything is. -/
theorem isLost_after_iff
    (extreme : ∀ probability, .lose probability ∈ past → probability = 0.0 ∨ probability = 1.0)
    (throw : Throw) : (after past).isLost throw.value ↔ Loses past := by
  suffices (after past).dropProbability = 1.0 ∧ Loses past ∨
      (after past).dropProbability = 0.0 ∧ ¬Loses past by
    unfold isLost
    rcases this with ⟨all, loses⟩ | ⟨none, lossless⟩
    · rw [all]
      exact iff_of_true (by simp [throw.lt_one]; decide) loses
    · rw [none]
      exact iff_of_false (by rw [decide_eq_false (by decide)]; simp) lossless
  induction past with
  | nil => exact .inr ⟨rfl, not_since_nil⟩
  | cons operation past hypothesis =>
    have before := hypothesis fun probability set =>
      extreme probability (List.mem_cons_of_mem operation set)
    rw [after, Loses, since_cons_iff, ← Loses]
    by_cases set : ∃ probability, operation = .lose probability
    · obtain ⟨probability, rfl⟩ := set
      obtain rfl | rfl := extreme probability List.mem_cons_self
      · have other : (0.0 : Float) ≠ 1.0 := by decide
        exact .inr ⟨withDropProbability_none, by simp [other]⟩
      · exact .inl ⟨withDropProbability_all, .inl rfl⟩
    · have other := not_exists.1 set
      rw [dropProbability_perform other]
      simpa [other] using before

/-- What is in order is told by the history. -/
theorem passes_iff (past : List Operation) :
    Passes past a b ↔ (after past).isBlocked a b = false := by
  have blocked : (after past).isBlocked a b ↔
      Isolates past a ∨ Isolates past b ∨ Cuts past a b := by
    simp only [isBlocked, Bool.or_eq_true, List.contains_iff_mem, mem_isolated_after_iff,
      mem_cutLinks_after_iff, or_assoc]
  rw [← Bool.not_eq_true, blocked]
  constructor
  · rintro ⟨linked, source, destination⟩
    tauto
  · intro clear
    exact ⟨by tauto, by tauto, by tauto⟩

/-! ## Where addresses lead -/

/-- An address that is registered leads to one open endpoint of that address. -/
structure Sound (network : Network) : Prop where
  registered : ∀ entry ∈ network.registry, ∃ endpoint,
    network.endpoints[entry.2]? = some endpoint ∧ endpoint.address = entry.1 ∧
      endpoint.isClosed = false
  distinct : (network.registry.map (·.1)).Nodup

theorem Sound.alike (sound : network.Sound) (alike : Alike network next) : next.Sound := by
  refine ⟨fun entry among => ?_, ?_⟩
  · rw [alike.registry] at among
    obtain ⟨before, there, address, isOpen⟩ := sound.registered entry among
    obtain ⟨endpoint, found, sameAddress, sameOpen, -⟩ := alike.exists_next there
    exact ⟨endpoint, found, sameAddress.trans address, sameOpen.trans isOpen⟩
  · rw [alike.registry]
    exact sound.distinct

theorem indexAt?_eq_none_iff :
    network.indexAt? address = none ↔ ∀ index, (address, index) ∉ network.registry := by
  simp only [indexAt?, Option.map_eq_none_iff, List.find?_eq_none, beq_iff_eq, Prod.forall]
  exact ⟨fun free index among => free address index among rfl,
    fun free other index among same => free index (same ▸ among)⟩

theorem Sound.indexAt?_eq_some_iff (sound : network.Sound) :
    network.indexAt? address = some index ↔ (address, index) ∈ network.registry := by
  rw [indexAt?, Option.map_eq_some_iff]
  constructor
  · rintro ⟨⟨found, index⟩, first, rfl⟩
    have same : found = address := by simpa using List.find?_some first
    exact same ▸ List.mem_of_find?_eq_some first
  · intro among
    cases first : network.registry.find? (·.1 == address) with
    | none => exact absurd (List.find?_eq_none.1 first _ among) (by simp)
    | some entry =>
      have same : entry.1 = address := by simpa using List.find?_some first
      have listed := List.mem_of_find?_eq_some first
      have one := List.inj_on_of_nodup_map sound.distinct listed among same
      exact ⟨entry, rfl, congrArg Prod.snd one⟩

/-- What is registered at an address is an open endpoint of that address. -/
theorem Sound.exists_of_indexAt? (sound : network.Sound)
    (found : network.indexAt? address = some index) :
    ∃ endpoint, network.endpoints[index]? = some endpoint ∧ endpoint.address = address ∧
      endpoint.isClosed = false :=
  sound.registered _ (sound.indexAt?_eq_some_iff.1 found)

theorem Sound.addressOf?_of_indexAt? (sound : network.Sound)
    (found : network.indexAt? address = some index) : network.addressOf? index = some address := by
  obtain ⟨endpoint, there, same, -⟩ := sound.exists_of_indexAt? found
  rw [addressOf?, there, Option.map_some, same]

theorem Sound.extended (sound : network.Sound) (free : network.indexAt? address = none) :
    (network.extended address).Sound := by
  refine ⟨fun entry among => ?_, ?_⟩
  · rcases List.mem_append.1 among with old | new
    · obtain ⟨endpoint, there, rest⟩ := sound.registered entry old
      have inside := (List.getElem?_eq_some_iff.1 there).1
      exact ⟨endpoint, (List.getElem?_append_left inside).trans there, rest⟩
    · rw [List.mem_singleton.1 new]
      exact ⟨{ address }, List.getElem?_concat_length, rfl, rfl⟩
  · rw [Network.extended, List.map_append, List.nodup_append]
    refine ⟨sound.distinct, by simp, ?_⟩
    intro taken old new listed same
    obtain ⟨⟨found, index⟩, among, rfl⟩ := List.mem_map.1 old
    obtain rfl : found = address := same.trans (List.mem_singleton.1 listed)
    exact indexAt?_eq_none_iff.1 free index among

theorem Sound.close (sound : network.Sound) (index : Nat) : (network.close index).Sound := by
  refine ⟨fun entry among => ?_, ?_⟩
  · obtain ⟨old, stays⟩ := mem_registry_close_iff.1 among
    obtain ⟨endpoint, there, address, isOpen⟩ := sound.registered entry old
    refine ⟨endpoint, ?_, address, isOpen⟩
    rw [getElem?_close, if_neg, there]
    rintro rfl
    exact stays (by rw [addressOf?, there, Option.map_some, address])
  · unfold Network.close
    split
    · exact sound.distinct
    · exact sound.distinct.sublist (List.filter_sublist.map _)

theorem Sound.abandon (sound : network.Sound) (index : Nat) : (network.abandon index).Sound := by
  refine ⟨fun entry among => ?_, sound.distinct⟩
  obtain ⟨endpoint, there, address, isOpen⟩ := sound.registered entry among
  rw [Network.abandon, getElem?_adjust, there]
  split
  · exact ⟨_, rfl, address, isOpen⟩
  · exact ⟨endpoint, rfl, address, isOpen⟩

theorem sound_after (past : List Operation) : (after past).Sound := by
  induction past with
  | nil => exact ⟨by simp [after], by simp [after]⟩
  | cons operation past sound =>
    cases operation with
    | bind address =>
      rw [after, perform_bind]
      split
      · exact sound
      · rename_i free
        exact sound.extended (Option.not_isSome_iff_eq_none.1 free)
    | send index throw letter => exact sound.alike (alike_send index throw.value letter)
    | receive index patience => exact sound.alike (alike_await index patience)
    | close index => exact sound.close index
    | abandon index => exact sound.abandon index
    | _ => exact ⟨sound.registered, sound.distinct⟩

/-- Whether an operation closes an endpoint of an address. -/
def Vacates (network : Network) (address : Address) (operation : Operation) : Prop :=
  ∃ index, operation = .close index ∧ network.addressOf? index = some address

/-- An address leads where it led before, unless an endpoint of it is closed, and a free one leads
to an endpoint that is bound to it. -/
theorem Sound.indexAt?_perform_iff (sound : network.Sound) (operation : Operation) :
    (network.perform operation).indexAt? address = some index ↔
      network.indexAt? address = some index ∧ ¬network.Vacates address operation ∨
        operation = .bind address ∧ network.indexAt? address = none ∧
          index = network.endpoints.length := by
  cases operation with
  | bind other =>
    rw [perform_bind]
    split
    · rename_i taken
      have busy : other = address → network.indexAt? address ≠ none := by
        rintro rfl
        exact Option.isSome_iff_ne_none.1 taken
      simpa [Vacates] using fun same free => (busy same free).elim
    · rename_i free
      have free := Option.not_isSome_iff_eq_none.1 free
      rw [(sound.extended free).indexAt?_eq_some_iff, sound.indexAt?_eq_some_iff, Network.extended]
      simp only [Vacates, List.mem_append, List.mem_singleton, Prod.mk.injEq, reduceCtorEq,
        false_and, exists_false, not_false_iff, and_true, Operation.bind.injEq]
      refine or_congr_right ⟨?_, ?_⟩
      · rintro ⟨rfl, rfl⟩
        exact ⟨rfl, free, rfl⟩
      · rintro ⟨rfl, -, rfl⟩
        exact ⟨rfl, rfl⟩
  | close other =>
    simp [perform, (sound.close other).indexAt?_eq_some_iff, sound.indexAt?_eq_some_iff,
      mem_registry_close_iff, Vacates]
  | send other throw letter =>
    rw [perform, (alike_send other throw.value letter).indexAt?_eq]
    simp [Vacates]
  | receive other patience =>
    rw [perform, (alike_await other patience).indexAt?_eq]
    simp [Vacates]
  | _ =>
    change network.indexAt? address = some index ↔ _
    simp [Vacates]

end Network

end SumCluster
