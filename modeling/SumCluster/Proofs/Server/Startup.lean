import SumCluster.Proofs.Config
import SumCluster.Proofs.Node.Boot
import SumCluster.Proofs.Node.Room
import SumCluster.Server.Config

/-!
# Servers that start

A node with a valid configuration can be created, since its directory has room for itself and its
peers (`Node.exists_create_of_isValid`).  The configuration that a server makes for its node is
valid but for capacity and timing: its role, its primary and its peers fit together however the
server's configuration names them, repeats them or contradicts itself
(`ServerConfig.isValid_nodeConfig_iff`).  So a server with an identifier, two endpoints, enough room
and sound timing can start (`ServerConfig.toConfig_startable`).
-/

namespace SumCluster

/-! ## Peers one after the other -/

section Peers

variable {α : Type} {same : α → α → Bool} {a : α}

theorem mem_of_mem_eraseDupsBy_loop {as kept : List α}
    (mem : a ∈ List.eraseDupsBy.loop same as kept) : a ∈ as ∨ a ∈ kept := by
  induction as generalizing kept with
  | nil => exact .inr (List.mem_reverse.1 mem)
  | cons head rest ih =>
    unfold List.eraseDupsBy.loop at mem
    split at mem
    · exact (ih mem).imp_left (List.mem_cons_of_mem _)
    · rcases ih mem with mem | mem
      · exact .inl (List.mem_cons_of_mem _ mem)
      · rcases List.mem_cons.1 mem with rfl | mem
        · exact .inl (List.mem_cons_self ..)
        · exact .inr mem

theorem mem_of_mem_eraseDupsBy {as : List α} (mem : a ∈ List.eraseDupsBy same as) : a ∈ as :=
  (mem_of_mem_eraseDupsBy_loop mem).resolve_right List.not_mem_nil

/-- Peers that are added one after the other are added once each. -/
theorem Config.foldl_withPeer (peers : List Peer) (config : Config) :
    peers.foldl withPeer config =
      { config with
        peers := List.eraseDupsBy.loop (·.id == ·.id) peers config.peers.reverse } := by
  induction peers generalizing config with
  | nil => simp [List.eraseDupsBy.loop]
  | cons peer rest ih =>
    have known : config.peers.reverse.any (peer.id == ·.id) =
        config.peers.any (·.id == peer.id) := by
      rw [List.any_reverse]
      simp only [BEq.comm]
    rw [List.foldl_cons, ih, withPeer, List.eraseDupsBy.loop, known]
    cases config.peers.any (·.id == peer.id) <;> simp

end Peers

/-! ## Nodes that can be created -/

namespace Node

theorem exists_registerAll {peers : List Peer} {directory : Directory} {ids : List NodeId}
    (room : directory.HasRoom ids) (listed : ∀ peer ∈ peers, peer.id ∈ ids) (now : Int) :
    ∃ directory', registerAll peers directory now = .ok directory' := by
  induction peers generalizing directory with
  | nil => exact ⟨directory, rfl⟩
  | cons peer rest ih =>
    obtain ⟨own, others⟩ := List.forall_mem_cons.1 listed
    obtain ⟨middle, registered, room⟩ := room.register own peer.address now
    obtain ⟨directory', registers⟩ := ih room others
    refine ⟨directory', ?_⟩
    unfold registerAll
    rw [List.foldlM_cons, registered]
    exact registers

/-- A node with a valid configuration has room for itself and its peers. -/
theorem exists_create_of_isValid {config : Config} (valid : config.IsValid) (address : Address)
    (now : Int) : ∃ node, create config address now = .ok node := by
  have sound : config.defect? = none := valid
  have fits := (Config.isValid_iff.1 valid).2.2.1
  let ids := config.id :: config.peers.map (·.id)
  have room : (Directory.empty config.maxReplicas).HasRoom ids := by
    calc ((Directory.empty config.maxReplicas).members ∪ ids.toFinset).card
        = ids.toFinset.card := by simp [Directory.members, Directory.empty]
      _ ≤ ids.length := List.toFinset_card_le ids
      _ = config.peers.length + 1 := by simp [ids]
      _ ≤ config.maxReplicas := fits
  have listed : ∀ peer ∈ (⟨config.id, address⟩ : Peer) :: config.peers, peer.id ∈ ids := by
    intro peer mem
    rcases List.mem_cons.1 mem with rfl | mem
    · exact List.mem_cons_self ..
    · exact List.mem_cons_of_mem _ (List.mem_map_of_mem mem)
  obtain ⟨directory, registered⟩ := exists_registerAll room listed now
  refine ⟨⟨config, address,
    { State.boot config.id config.role config.primary config.maxReplicas with directory }, {}⟩, ?_⟩
  unfold create
  rw [sound]
  show (registerAll _ (Directory.empty config.maxReplicas) now >>= _) = _
  rw [registered]
  rfl

end Node

/-! ## The configuration of the node of a server -/

namespace ServerConfig

variable {config : ServerConfig} {id : NodeId} {bindAddress : Address} {node : Config}

/-- Where timing and capacity come from. -/
def table (config : ServerConfig) : Config :=
  config.replication.getD .standard

/-- The peers that the node starts with: the primary in front, and then the others, without the node
itself and without repetitions. -/
def seeds (config : ServerConfig) (id : NodeId) : List Peer :=
  List.eraseDupsBy (·.id == ·.id)
    ((config.primary.toList ++ config.peers).filter (·.id ≠ id))

theorem ne_of_mem_seeds {peer : Peer} (mem : peer ∈ config.seeds id) : peer.id ≠ id :=
  of_decide_eq_true (List.mem_filter.1 (mem_of_mem_eraseDupsBy mem)).2

theorem seeds_eq (config : ServerConfig) (id : NodeId) :
    config.seeds id = List.eraseDupsBy (·.id == ·.id)
      ((config.foreignPrimary? id).toList ++ config.peers.filter (·.id != id)) := by
  unfold seeds foreignPrimary?
  rw [List.filter_append, Option.toList_filter]
  simp only [bne, decide_not, beq_eq_decide]

/-- Another node that leads is a peer. -/
theorem mem_seeds_of_foreign {primary : Peer} (foreign : config.foreignPrimary? id = some primary) :
    primary ∈ config.seeds id := by
  rw [seeds_eq, foreign, Option.toList_some, List.singleton_append, List.eraseDupsBy_cons]
  exact List.mem_cons_self ..

/-- What the node is at boot: a backup with another node for its primary, or else the primary. -/
theorem nodeConfig_eq (config : ServerConfig) (id : NodeId) (bindAddress : Address) :
    config.nodeConfig id bindAddress =
      { config.table with
        id, bindAddress
        role := if (config.foreignPrimary? id).isSome then .backup else .primary
        primary := some (((config.foreignPrimary? id).map (·.id)).getD id)
        peers := config.seeds id } := by
  rw [seeds_eq]
  unfold nodeConfig
  simp only [Config.foldl_withPeer]
  cases config.foreignPrimary? id <;> rfl

/-- Role, primary and peers are never at odds, so the other rules decide. -/
theorem isValid_nodeConfig_iff :
    (config.nodeConfig id bindAddress).IsValid ↔
      (config.seeds id).length < config.table.maxReplicas ∧
      (∀ interval ∈ config.table.intervals, interval.2 ≠ 0) ∧
      config.table.heartbeatInterval < config.table.primaryTimeout := by
  have role : (config.nodeConfig id bindAddress).roleDefect? = none := by
    rw [nodeConfig_eq]
    unfold Config.roleDefect?
    cases foreign : config.foreignPrimary? id with
    | none => simp
    | some primary =>
      have mem := mem_seeds_of_foreign foreign
      have listed : (config.seeds id).any (·.id == primary.id) = true :=
        List.any_eq_true.2 ⟨primary, mem, beq_self_eq_true _⟩
      simp [ne_of_mem_seeds mem, listed]
  rw [Config.isValid_iff]
  rw [nodeConfig_eq] at role ⊢
  exact ⟨fun rules => rules.2.2, fun rules => ⟨role, fun _ => ne_of_mem_seeds, rules⟩⟩

theorem toConfig_eq_ok_iff :
    config.toConfig = .ok node ↔
      ∃ id endpoints, config.id = some id ∧ config.endpoints = .ok endpoints ∧
        (config.nodeConfig id endpoints.replication).IsValid ∧
        config.nodeConfig id endpoints.replication = node := by
  unfold toConfig
  cases config.endpoints with
  | error fault => simp [bind, Except.bind]
  | ok endpoints =>
    cases config.id with
    | none => simp [bind, Except.bind, throw, throwThe, MonadExceptOf.throw]
    | some id =>
      simp only [bind, Except.bind, Option.some.injEq, Except.ok.injEq, exists_and_left,
        exists_eq_left', Config.IsValid]
      cases (config.nodeConfig id endpoints.replication).defect? with
      | none => simp [pure, Except.pure]
      | some defect => simp [throw, throwThe, MonadExceptOf.throw]

/-- What the table of timing and capacity says of anything else has no influence. -/
theorem toConfig_of_table (config : ServerConfig) (table : Config) (id : NodeId)
    (bindAddress : Address) (role : Role) (primary : Option NodeId) (peers : List Peer) :
    ({ config with
      replication := some { table with id, bindAddress, role, primary, peers } } :
        ServerConfig).toConfig =
      ({ config with replication := some table } : ServerConfig).toConfig := by
  unfold toConfig
  simp only [nodeConfig_eq]
  rfl

/-- A server has a configuration for its node just when it has an identifier and two endpoints, the
seeds and the node itself fit into the directory, and the timing is sound.  The node can then be
created.  It has the identifier and the endpoint of the server; it leads if no other node is named
as primary, and otherwise follows that one; and its peers are the seeds.  Timing and capacity are
those of the table, whose other entries have no influence. -/
theorem toConfig_startable (config : ServerConfig) :
    ((∃ node, config.toConfig = .ok node) ↔
      ∃ id endpoints, config.id = some id ∧ config.endpoints = .ok endpoints ∧
        (config.seeds id).length < config.table.maxReplicas ∧
        (∀ interval ∈ config.table.intervals, interval.2 ≠ 0) ∧
        config.table.heartbeatInterval < config.table.primaryTimeout) ∧
    (∀ node, config.toConfig = .ok node →
      (∀ address now, ∃ created, Node.create node address now = .ok created) ∧
      config.id = some node.id ∧
      (∃ client, config.endpoints = .ok ⟨client, node.bindAddress⟩) ∧
      ((∀ primary, config.primary = some primary → primary.id = node.id) →
        node.role = .primary ∧ node.primary = some node.id) ∧
      (∀ primary, config.primary = some primary → primary.id ≠ node.id →
        node.role = .backup ∧ node.primary = some primary.id) ∧
      node.peers = config.seeds node.id ∧
      node = { config.table with
        id := node.id, bindAddress := node.bindAddress, role := node.role
        primary := node.primary, peers := node.peers }) ∧
    ∀ (table : Config) id bindAddress role primary peers,
      ({ config with
        replication := some { table with id, bindAddress, role, primary, peers } } :
          ServerConfig).toConfig =
        ({ config with replication := some table } : ServerConfig).toConfig := by
  refine ⟨?_, fun node converts => ?_, config.toConfig_of_table⟩
  · simp only [toConfig_eq_ok_iff, isValid_nodeConfig_iff]
    constructor
    · rintro ⟨_, id, endpoints, named, pairs, rules, -⟩
      exact ⟨id, endpoints, named, pairs, rules⟩
    · rintro ⟨id, endpoints, named, pairs, rules⟩
      exact ⟨_, id, endpoints, named, pairs, rules, rfl⟩
  · obtain ⟨id, endpoints, named, pairs, valid, rfl⟩ := toConfig_eq_ok_iff.1 converts
    refine ⟨Node.exists_create_of_isValid valid, ?_⟩
    rw [nodeConfig_eq]
    refine ⟨named, ⟨endpoints.client, pairs⟩, fun own => ?_, fun primary other foreign => ?_, rfl,
      rfl⟩
    · have none : config.foreignPrimary? id = none := by
        rw [foreignPrimary?, Option.filter_eq_none_iff]
        intro primary mem
        simp [own primary mem]
      simp [none]
    · have some : config.foreignPrimary? id = some primary := by
        rw [foreignPrimary?, Option.filter_eq_some_iff]
        exact ⟨other, by simpa using foreign⟩
      simp [some]

/-- The second node of a cluster.  It is listed among its own peers, others are listed twice, its
table makes it another node, and the directory has room for three. -/
def contradicted : ServerConfig where
  clientAddress := none
  id := some 2
  bindAddress := some (.v4 ⟨10, 0, 0, 2⟩ 7002)
  primary := some ⟨1, .v4 ⟨10, 0, 0, 1⟩ 7002⟩
  peers :=
    [⟨3, .v4 ⟨10, 0, 0, 3⟩ 7002⟩, ⟨2, .v4 ⟨10, 0, 0, 2⟩ 7002⟩, ⟨1, .v4 ⟨10, 0, 0, 9⟩ 7002⟩,
      ⟨3, .v4 ⟨10, 0, 0, 8⟩ 7002⟩]
  replication := some
    { Config.ofPrimary 9 (.v4 ⟨10, 0, 0, 7⟩ 1) with
      primary := some 8
      peers := [⟨9, .v4 ⟨10, 0, 0, 7⟩ 1⟩]
      maxReplicas := 3 }

theorem toConfig_startable_contradicted :
    ∃ node created, contradicted.toConfig = .ok node ∧
      Node.create node node.bindAddress 0 = .ok created ∧ node.id = 2 ∧
      node.bindAddress = .v4 ⟨10, 0, 0, 2⟩ 7002 ∧ node.role = .backup ∧ node.primary = some 1 ∧
      node.peers = [⟨1, .v4 ⟨10, 0, 0, 1⟩ 7002⟩, ⟨3, .v4 ⟨10, 0, 0, 3⟩ 7002⟩] := by
  obtain ⟨converts, holds, -⟩ := contradicted.toConfig_startable
  have room : (contradicted.seeds 2).length < contradicted.table.maxReplicas := by decide
  obtain ⟨node, made⟩ := converts.2 ⟨2, _, rfl, rfl, room, by decide, by decide⟩
  obtain ⟨creates, named, ⟨_, pairs⟩, -, follows, peers, -⟩ := holds node made
  obtain ⟨created, creation⟩ := creates node.bindAddress 0
  have own : node.id = 2 := (Option.some.inj named).symm
  have bound : node.bindAddress = .v4 ⟨10, 0, 0, 2⟩ 7002 :=
    (congrArg Endpoints.replication (Except.ok.inj pairs)).symm
  obtain ⟨role, primary⟩ := follows ⟨1, .v4 ⟨10, 0, 0, 1⟩ 7002⟩ rfl (by rw [own]; decide)
  rw [own] at peers
  exact ⟨node, created, made, creation, own, bound, role, primary, peers.trans (by decide)⟩

end ServerConfig

end SumCluster
