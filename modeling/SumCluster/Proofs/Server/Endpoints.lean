import SumCluster.Server.Config

/-!
# The endpoints of a server

A server listens at two endpoints.  Which pairs a configuration stands for is said by
`ServerConfig.Pairs`, and why it may stand for none by `ServerConfig.Refuses`; a configuration gets
exactly these (`ServerConfig.endpoints_paired`).  An endpoint that is not given is derived from the
other one.  It has the same IP address and a port two away, but neither scope nor flow label, so it
differs in more than the port from an endpoint that has one.
-/

namespace SumCluster

namespace Address

/-- The same address with another port, everything else kept. -/
def withPort (port : UInt16) : Address → Address
  | v4 ip _ => v4 ip port
  | v6 ip _ flow scope => v6 ip port flow scope

@[simp] theorem port_atPort (port : UInt16) (address : Address) :
    (address.atPort port).port = port := by
  cases address <;> rfl

theorem atPort_eq (port : UInt16) (address : Address) :
    address.atPort port = address.bare.withPort port := by
  cases address <;> rfl

/-- Nothing but the port changes just when there is nothing else to lose. -/
theorem withPort_eq_bare_withPort_iff {address : Address} {port : UInt16} :
    address.withPort port = address.bare.withPort port ↔ address.IsBare := by
  cases address with
  | v4 => exact iff_of_true rfl rfl
  | v6 => simp [withPort, bare, IsBare, eq_comm]

/-- An address that is derived from a given one: the same IP address with another port, and no scope
and no flow label. -/
def DerivesFrom (derived given : Address) : Prop :=
  derived = given.bare.withPort derived.port

theorem derivesFrom_iff {derived given : Address} {port : UInt16} :
    derived.DerivesFrom given ∧ derived.port = port ↔ derived = given.atPort port := by
  constructor
  · rintro ⟨derives, rfl⟩
    exact derives.trans (atPort_eq ..).symm
  · rintro rfl
    exact ⟨by rw [DerivesFrom, port_atPort, atPort_eq], port_atPort ..⟩

/-- What is derived differs in the port alone just when the given address is bare. -/
theorem DerivesFrom.withPort_eq_iff {derived given : Address} (derives : derived.DerivesFrom given) :
    derived = given.withPort derived.port ↔ given.IsBare := by
  rw [← withPort_eq_bare_withPort_iff, ← derives, eq_comm]

end Address

namespace ServerConfig

variable {config : ServerConfig} {client replication given : Address} {fault : Fault}

/-- Which endpoints, one for clients and one for replication, the given ones make up. -/
inductive Pairs : Option Address → Option Address → Address → Address → Prop
  | both (client replication : Address) :
    Pairs (some client) (some replication) client replication
  | above (client replication : Address) :
    replication.DerivesFrom client → replication.port.toNat = client.port.toNat + portOffset →
      Pairs (some client) none client replication
  | below (client replication : Address) :
    client.DerivesFrom replication → client.port.toNat + portOffset = replication.port.toNat →
      Pairs none (some replication) client replication
  | neither : Pairs none none (.v4 ⟨127, 0, 0, 1⟩ 2000) (.v4 ⟨127, 0, 0, 1⟩ 2002)

/-- Why no endpoint can be derived from the given one. -/
inductive LacksRoom : Option Address → Option Address → Fault → Prop
  | above (client : Address) :
    65535 < client.port.toNat + portOffset →
      LacksRoom (some client) none (.noReplicationPort client.port)
  | below (replication : Address) :
    replication.port.toNat < portOffset →
      LacksRoom none (some replication) (.noClientPort replication.port)

/-! ## Pairs that are made up -/

theorem eq_atPort_iff {derived : Address} {port : Nat} (fits : port < 65536) :
    given.atPort (UInt16.ofNat port) = derived ↔
      derived.DerivesFrom given ∧ derived.port.toNat = port := by
  rw [eq_comm, ← Address.derivesFrom_iff, ← UInt16.toNat_inj, UInt16.toNat_ofNat_of_lt' fits]

theorem pairEndpoints_eq_ok_iff {clientGiven bindGiven : Option Address} :
    pairEndpoints clientGiven bindGiven = .ok ⟨client, replication⟩ ↔
      Pairs clientGiven bindGiven client replication := by
  unfold pairEndpoints
  split
  · rename_i given bind
    rw [Except.ok.injEq, Endpoints.mk.injEq]
    constructor
    · rintro ⟨rfl, rfl⟩
      exact .both ..
    · rintro ⟨⟩
      exact ⟨rfl, rfl⟩
  · rename_i given
    split
    · rename_i room
      rw [Except.ok.injEq, Endpoints.mk.injEq, eq_atPort_iff room]
      constructor
      · rintro ⟨rfl, derives, port⟩
        exact .above _ _ derives port
      · rintro (_ | ⟨_, _, derives, port⟩)
        exact ⟨rfl, derives, port⟩
    · rename_i crowded
      refine iff_of_false nofun ?_
      rintro (_ | ⟨_, _, -, port⟩)
      exact crowded (port ▸ replication.port.toNat_lt)
  · rename_i bind
    split
    · rename_i room
      have difference (port : Nat) :
          port = bind.port.toNat - portOffset ↔ port + portOffset = bind.port.toNat := by omega
      rw [Except.ok.injEq, Endpoints.mk.injEq,
        eq_atPort_iff (Nat.lt_of_le_of_lt (Nat.sub_le ..) bind.port.toNat_lt), difference]
      constructor
      · rintro ⟨⟨derives, port⟩, rfl⟩
        exact .below _ _ derives port
      · rintro (_ | _ | ⟨_, _, derives, port⟩)
        exact ⟨⟨derives, port⟩, rfl⟩
    · rename_i crowded
      refine iff_of_false nofun ?_
      rintro (_ | _ | ⟨_, _, -, port⟩)
      exact crowded (port ▸ Nat.le_add_left ..)
  · rw [Except.ok.injEq, Endpoints.mk.injEq]
    constructor
    · rintro ⟨rfl, rfl⟩
      exact .neither
    · rintro ⟨⟩
      exact ⟨rfl, rfl⟩

theorem pairEndpoints_eq_error_iff {clientGiven bindGiven : Option Address} :
    pairEndpoints clientGiven bindGiven = .error fault ↔ LacksRoom clientGiven bindGiven fault := by
  unfold pairEndpoints
  split
  · exact iff_of_false nofun nofun
  · split
    · rename_i room
      refine iff_of_false nofun ?_
      rintro ⟨_, crowded⟩
      exact absurd room (Nat.not_lt.2 crowded)
    · rename_i crowded
      rw [Except.error.injEq]
      constructor
      · rintro rfl
        exact .above _ (Nat.not_lt.1 crowded)
      · rintro ⟨⟩
        rfl
  · split
    · rename_i room
      refine iff_of_false nofun ?_
      rintro (_ | ⟨_, crowded⟩)
      exact absurd room (Nat.not_le.2 crowded)
    · rename_i crowded
      rw [Except.error.injEq]
      constructor
      · rintro rfl
        exact .below _ (Nat.not_le.1 crowded)
      · rintro ⟨⟩
        rfl
  · exact iff_of_false nofun nofun

/-- A pair of one endpoint with itself is given as such. -/
theorem pairs_self_iff {clientGiven bindGiven : Option Address} {address : Address} :
    Pairs clientGiven bindGiven address address ↔
      clientGiven = some address ∧ bindGiven = some address := by
  constructor
  · intro pairs
    cases pairs with
    | both => exact ⟨rfl, rfl⟩
    | above _ _ _ port => exact absurd port (by simp [portOffset])
    | below _ _ _ port => exact absurd port (by simp [portOffset])
  · rintro ⟨rfl, rfl⟩
    exact .both ..

/-! ## Pairs that are accepted -/

theorem endpoints_of_ok
    (makes : pairEndpoints config.clientAddress config.bindAddress = .ok ⟨client, replication⟩) :
    config.endpoints =
      if client = replication ∧ client.port ≠ 0 then .error (.sameEndpoints client)
      else .ok ⟨client, replication⟩ := by
  unfold endpoints
  rw [makes]
  show (if client = replication ∧ client.port ≠ 0 then _ else _) = _
  split <;> rfl

theorem endpoints_of_error
    (fails : pairEndpoints config.clientAddress config.bindAddress = .error fault) :
    config.endpoints = .error fault := by
  unfold endpoints
  rw [fails]
  rfl

theorem endpoints_eq_ok_iff :
    config.endpoints = .ok ⟨client, replication⟩ ↔
      Pairs config.clientAddress config.bindAddress client replication ∧
        (client = replication → client.port = 0) := by
  rw [← pairEndpoints_eq_ok_iff]
  cases makes : pairEndpoints config.clientAddress config.bindAddress with
  | error =>
    rw [endpoints_of_error makes]
    exact iff_of_false nofun nofun
  | ok made =>
    rw [endpoints_of_ok makes]
    constructor
    · intro accepted
      split at accepted
      · exact nomatch accepted
      · rename_i fine
        cases accepted
        exact ⟨rfl, fun same => Decidable.of_not_not fun busy => fine ⟨same, busy⟩⟩
    · rintro ⟨same, fine⟩
      cases same
      exact if_neg fun ⟨same, busy⟩ => busy (fine same)

theorem endpoints_eq_error_iff :
    config.endpoints = .error fault ↔
      LacksRoom config.clientAddress config.bindAddress fault ∨
        ∃ address, Pairs config.clientAddress config.bindAddress address address ∧
          address.port ≠ 0 ∧ fault = .sameEndpoints address := by
  simp only [← pairEndpoints_eq_error_iff, ← pairEndpoints_eq_ok_iff]
  cases makes : pairEndpoints config.clientAddress config.bindAddress with
  | error => simp [endpoints_of_error makes]
  | ok made =>
    obtain ⟨client, replication⟩ := made
    rw [endpoints_of_ok makes]
    constructor
    · intro refused
      split at refused
      · rename_i clash
        obtain ⟨rfl, busy⟩ := clash
        exact .inr ⟨client, rfl, busy, (Except.error.inj refused).symm⟩
      · exact nomatch refused
    · rintro (none | ⟨address, same, busy, rfl⟩)
      · exact nomatch none
      · cases same
        exact if_pos ⟨rfl, busy⟩

/-- A configuration gets the endpoints that it stands for, unless both are one address with a port
of its own; so it never gets such a pair.  It gets none just when the port of an endpoint leaves no
room for the other one, or when it names such an address twice.  An endpoint that is derived has the
IP address of the given one, at a port two away; it agrees with it in everything else just when the
given one has neither scope nor flow label. -/
theorem endpoints_paired (config : ServerConfig) :
    (∀ client replication, config.endpoints = .ok ⟨client, replication⟩ ↔
      Pairs config.clientAddress config.bindAddress client replication ∧
        (client = replication → client.port = 0)) ∧
    (∀ fault, config.endpoints = .error fault ↔
      LacksRoom config.clientAddress config.bindAddress fault ∨
        ∃ address, config.clientAddress = some address ∧ config.bindAddress = some address ∧
          address.port ≠ 0 ∧ fault = .sameEndpoints address) ∧
    ∀ derived given : Address, derived.DerivesFrom given →
      (derived = given.withPort derived.port ↔ given.IsBare) := by
  refine ⟨fun _ _ => endpoints_eq_ok_iff, fun fault => ?_,
    fun _ _ => Address.DerivesFrom.withPort_eq_iff⟩
  rw [endpoints_eq_error_iff]
  simp only [pairs_self_iff, and_assoc]

/-- Clients are served at a link-local address, of the interface with the number three. -/
def linkLocal : ServerConfig where
  clientAddress := some (.v6 ⟨0xFE80, 0, 0, 0, 0, 0, 0, 1⟩ 2000 0 3)
  id := some 1
  bindAddress := none
  primary := none
  peers := []
  replication := none

theorem endpoints_paired_linkLocal :
    ∃ given derived : Address, linkLocal.clientAddress = some given ∧
      linkLocal.bindAddress = none ∧ derived = .v6 ⟨0xFE80, 0, 0, 0, 0, 0, 0, 1⟩ 2002 0 0 ∧
      linkLocal.endpoints = .ok ⟨given, derived⟩ ∧ derived.DerivesFrom given ∧
      derived ≠ given.withPort derived.port := by
  obtain ⟨accepts, -, agrees⟩ := endpoints_paired linkLocal
  let given : Address := .v6 ⟨0xFE80, 0, 0, 0, 0, 0, 0, 1⟩ 2000 0 3
  let derived : Address := .v6 ⟨0xFE80, 0, 0, 0, 0, 0, 0, 1⟩ 2002 0 0
  have derives : derived.DerivesFrom given := rfl
  have pairs : linkLocal.endpoints = .ok ⟨given, derived⟩ :=
    (accepts given derived).2 ⟨.above _ _ derives (by decide), fun same => absurd same (by decide)⟩
  exact ⟨given, derived, rfl, rfl, rfl, pairs, derives,
    mt (agrees derived given derives).1 (by decide)⟩

/-- The replication endpoint of such a server has another scope than its client endpoint. -/
theorem endpoints_lose_scope :
    ∃ client replication : Address, linkLocal.clientAddress = some client ∧
      linkLocal.bindAddress = none ∧ linkLocal.endpoints = .ok ⟨client, replication⟩ ∧
      replication ≠ client.withPort 2002 :=
  ⟨_, _, rfl, rfl, rfl, by decide⟩

end ServerConfig

end SumCluster
