import SumCluster.Proofs.Directory.Records
import SumCluster.Proofs.Node.Acks
import SumCluster.Proofs.Node.Held

/-!
# Nodes that boot

What `Node.create` yields: a node with its configured identifier and role, the sum zero under the
number zero, no running election, nothing counted, and a directory without acknowledgements that
holds the node itself and its configured peers.
-/

namespace SumCluster

namespace Node

/-- Registers nodes one after the other, if there is room for all of them. -/
def registerAll (peers : List Peer) (directory : Directory) (now : Int) :
    Except ClusterError Directory :=
  peers.foldlM (fun directory peer => directory.register peer.id peer.address now) directory

section RegisterAll

variable {peers : List Peer} {directory directory' : Directory} {now : Int}

theorem registerAll_cons {peer : Peer}
    (registered : registerAll (peer :: peers) directory now = .ok directory') :
    ∃ middle, directory.register peer.id peer.address now = .ok middle ∧
      registerAll peers middle now = .ok directory' := by
  unfold registerAll at registered
  rw [List.foldlM_cons] at registered
  cases first : directory.register peer.id peer.address now with
  | error error =>
    rw [first] at registered
    simp [bind, Except.bind] at registered
  | ok middle =>
    rw [first] at registered
    exact ⟨middle, rfl, registered⟩

theorem learns_registerAll (registered : registerAll peers directory now = .ok directory') :
    directory.Learns directory' := by
  induction peers generalizing directory with
  | nil =>
    obtain rfl := Except.ok.inj registered
    exact .refl directory
  | cons peer rest ih =>
    obtain ⟨middle, first, others⟩ := registerAll_cons registered
    exact (Directory.learns_register first).trans (ih others)

theorem contains_registerAll (registered : registerAll peers directory now = .ok directory')
    {peer : Peer} (mem : peer ∈ peers) : directory'.contains peer.id = true := by
  induction peers generalizing directory with
  | nil => exact nomatch mem
  | cons head rest ih =>
    obtain ⟨middle, first, others⟩ := registerAll_cons registered
    rcases List.mem_cons.1 mem with rfl | mem
    · obtain ⟨record, found, -⟩ := Directory.find?_register first
      exact (learns_registerAll others).extends _ (Option.isSome_iff_exists.2 ⟨record, found⟩)
    · exact ih others mem

end RegisterAll

/-- A created node is its configuration, its address and a state at boot with a directory in which
the node itself and its peers have been registered. -/
theorem of_create {config : Config} {address : Address} {now : Int} {node : Node}
    (created : create config address now = .ok node) :
    ∃ directory : Directory,
      node = ⟨config, address,
        { State.boot config.id config.role config.primary config.maxReplicas with directory },
        {}⟩ ∧
      registerAll (⟨config.id, address⟩ :: config.peers) (.empty config.maxReplicas) now =
        .ok directory := by
  unfold create at created
  split at created
  · simp at created
  · simp only [bind, Except.bind] at created
    split at created
    · simp at created
    · rename_i directory registered
      obtain rfl := Except.ok.inj created
      exact ⟨directory, rfl, registered⟩

section

variable {config : Config} {address : Address} {now : Int} {node : Node}
  (created : create config address now = .ok node)

include created

/-- A configuration with a defect is refused. -/
theorem isValid_of_create : config.IsValid := by
  unfold create at created
  split at created
  · simp at created
  · assumption

theorem id_of_create : node.id = config.id := by
  obtain ⟨directory, rfl, -⟩ := of_create created
  rfl

theorem address_of_create : node.address = address := by
  obtain ⟨directory, rfl, -⟩ := of_create created
  rfl

theorem stats_of_create : node.stats = {} := by
  obtain ⟨directory, rfl, -⟩ := of_create created
  rfl

theorem held_of_create : node.held = (0, 0) := by
  obtain ⟨directory, rfl, -⟩ := of_create created
  rfl

theorem acksSatisfy_of_create {P : NodeId → Seqn → Prop} (zero : ∀ id, P id 0) :
    node.AcksSatisfy P := by
  obtain ⟨directory, rfl, registered⟩ := of_create created
  exact (learns_registerAll registered).acksSatisfy zero (Directory.acksSatisfy_empty _)

/-- The node itself is on record. -/
theorem contains_id_of_create : node.state.directory.contains node.id = true := by
  obtain ⟨directory, rfl, registered⟩ := of_create created
  exact contains_registerAll registered (List.mem_cons_self ..)

/-- The configured peers are on record. -/
theorem contains_peer_of_create {peer : Peer} (mem : peer ∈ config.peers) :
    node.state.directory.contains peer.id = true := by
  obtain ⟨directory, rfl, registered⟩ := of_create created
  exact contains_registerAll registered (List.mem_cons_of_mem _ mem)

end

end Node

end SumCluster
