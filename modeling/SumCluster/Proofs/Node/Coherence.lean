import SumCluster.Proofs.Config
import SumCluster.Proofs.Node.Integrity

/-!
# Role, primary, election and state

The role of a node, the primary that it believes in, its election and the state that it holds are
changed in many places.  They always fit together (`Node.Coherent`): a node leads if and only if it
takes itself for the primary, it runs no election then, and a node that has not heard of the state
holds the sum zero under the number zero.  Nothing that happens to a node changes that
(`Node.Deed.coherent`), and a lead ends in one way only (`Node.role_coherent`).
-/

namespace SumCluster

namespace Node

/-- If the node takes itself for the primary, it leads. -/
def FollowsOthers (node : Node) : Prop :=
  node.state.primary = some node.id → node.state.isPrimary = true

/-- The role of a node, its primary, its election and its state fit together. -/
structure Coherent (node : Node) : Prop where
  itself : node.LeadsItself
  others : node.FollowsOthers
  /-- A node that leads runs no election. -/
  atRest : node.state.isPrimary = true → node.state.election.isElecting = false
  /-- A node that leads has the state. -/
  informed : node.state.isPrimary = true → node.state.hasInitial = true
  /-- A node without the state is as it was at boot. -/
  blank : node.state.hasInitial = false → node.held = (0, 0)

/-! ## At boot -/

section Boot

variable {config : Config} {address : Address} {now : Int} {node : Node}
  (created : create config address now = .ok node)

include created

theorem followsOthers_of_create : node.FollowsOthers := by
  have valid := isValid_of_create created
  obtain ⟨directory, rfl, -⟩ := of_create created
  intro same
  cases role : config.role with
  | primary => simp [State.boot, State.isPrimary]
  | backup =>
    have follows : config.primary = some config.id := by
      simpa [State.boot, role, id] using same
    exact absurd rfl (valid.exists_peer role follows).1

theorem coherent_of_create : node.Coherent where
  itself := leadsItself_of_create created
  others := followsOthers_of_create created
  atRest _ := by
    obtain ⟨directory, rfl, -⟩ := of_create created
    rfl
  informed leads := by
    obtain ⟨directory, rfl, -⟩ := of_create created
    exact leads
  blank _ := held_of_create created

end Boot

/-! ## What is heard -/

section Heard

variable {node : Node} (now : Int)

/-- A list that names the node itself as the primary changes nobody's place. -/
theorem keeps_of_own_list (sender : NodeId) (entries : List PeerEntry) :
    node.Keeps (node.hearReplicaList now sender (some node.id) entries).1 := by
  have learns : (node.mergeEntries entries now).learnPrimary? now sender node.id = none :=
    if_pos (.inl rfl)
  simp only [hearReplicaList, learns]
  exact ⟨rfl, rfl, rfl⟩

theorem followsOthers_hear (others : node.FollowsOthers) (isNew : Bool) {message : Message}
    (other : message.sender ≠ node.id) :
    (node.hear now isNew message).1.FollowsOthers := by
  have id : (node.hear now isNew message).1.id = node.id :=
    congrArg (·.1) (changes_hear node now isNew message).standing_eq
  unfold FollowsOthers
  rw [id]
  intro same
  have keeps : ∀ {next : Node}, node.Keeps next → next.state.primary = some node.id →
      next.state.isPrimary = true :=
    fun keeps same => keeps.leads.trans (others (keeps.primary.symm.trans same))
  cases place_hear node now isNew message with
  | kept kept => exact keeps kept same
  | behindSender yields | behindFirst _ _ yields | behindAnnounced _ yields =>
    exact absurd (Option.some.inj (yields.primary.symm.trans same)) other
  | @behindNamed primary entries list _ _ _ yields =>
    obtain rfl := Option.some.inj (yields.primary.symm.trans same)
    rw [list] at same ⊢
    exact keeps (keeps_of_own_list now _ entries) same

theorem followsOthers_handle (others : node.FollowsOthers) (message : Message)
    (source : Address) : (node.handle now message source).1.FollowsOthers := by
  unfold handle
  split
  · exact others
  · rename_i other
    exact @followsOthers_hear (node.meet now message.sender source) now others _ message other

/-- A message begins no election and makes no node lead. -/
theorem atRest_handle
    (atRest : node.state.isPrimary = true → node.state.election.isElecting = false)
    (message : Message) (source : Address)
    (leads : (node.handle now message source).1.state.isPrimary = true) :
    (node.handle now message source).1.state.election.isElecting = false := by
  cases stands_handle node now message source with
  | kept election same => exact election ▸ atRest (same.symm.trans leads)
  | ended idle => exact idle

end Heard

/-! ## The state -/

section State

variable {node next : Node} {cause : Cause}

theorem Change.hasInitial (change : Change cause node next)
    (informed : node.state.hasInitial = true) : next.state.hasInitial = true := by
  cases change with
  | adopt => rfl
  | _ => exact informed

theorem Changes.hasInitial (changes : Changes cause node next)
    (informed : node.state.hasInitial = true) : next.state.hasInitial = true := by
  induction changes with
  | refl => exact informed
  | tail _ change ih => exact change.hasInitial ih

/-- Whoever takes over a state has one. -/
theorem Change.blank (change : Change cause node next)
    (blank : node.state.hasInitial = false → node.held = (0, 0)) :
    next.state.hasInitial = false → next.held = (0, 0) := by
  cases change with
  | adopt => exact nofun
  | _ => exact blank

theorem Changes.blank (changes : Changes cause node next)
    (blank : node.state.hasInitial = false → node.held = (0, 0)) :
    next.state.hasInitial = false → next.held = (0, 0) := by
  induction changes with
  | refl => exact blank
  | tail _ change ih => exact change.blank ih

end State

/-! ## Deeds -/

section Deeds

variable {node next : Node} {now : Int} {cause : Cause} {letters : List Letter}
  (deed : node.Deed now cause next letters)

include deed

/-- A node that has the state keeps one. -/
theorem Deed.hasInitial (informed : node.state.hasInitial = true) :
    next.state.hasInitial = true := by
  cases deed.outcome with
  | heard changes => exact changes.hasInitial informed
  | own changes => exact changes.hasInitial informed
  | claimed => rfl
  | wrote => exact informed

theorem Deed.followsOthers (others : node.FollowsOthers) : next.FollowsOthers := by
  cases deed.move with
  | hears message source => exact followsOthers_handle now others message source
  | stays keeps =>
    intro same
    rw [keeps.primary, deed.id_eq] at same
    exact keeps.leads.trans (others same)
  | contends | rests => exact others
  | leads => exact fun _ => rfl

theorem Deed.atRest
    (atRest : node.state.isPrimary = true → node.state.election.isElecting = false)
    (leads : next.state.isPrimary = true) : next.state.election.isElecting = false := by
  cases deed.move with
  | hears message source => exact atRest_handle now atRest message source leads
  | stays keeps election => exact election ▸ atRest (keeps.leads.symm.trans leads)
  | contends backup =>
    have leads : node.state.isPrimary = true := leads
    simp [backup] at leads
  | leads => rfl
  | rests => rfl

theorem Deed.informed (informed : node.state.isPrimary = true → node.state.hasInitial = true)
    (leads : next.state.isPrimary = true) : next.state.hasInitial = true := by
  cases deed.outcome with
  | heard changes => exact changes.hasInitial (informed (changes.leads leads))
  | own changes => exact changes.hasInitial (informed (changes.leads leads))
  | claimed => rfl
  | wrote _ led => exact informed led

theorem Deed.blank (coherent : node.Coherent) :
    next.state.hasInitial = false → next.held = (0, 0) := by
  cases deed.outcome with
  | heard changes => exact changes.blank coherent.blank
  | own changes => exact changes.blank coherent.blank
  | claimed => exact nofun
  | wrote _ leads =>
    -- only a node that leads writes, and that one has the state
    intro uninformed
    exact absurd (coherent.informed leads) (Bool.eq_false_iff.1 uninformed)

theorem Deed.coherent (coherent : node.Coherent) : next.Coherent where
  itself := deed.leadsItself coherent.itself
  others := deed.followsOthers coherent.others
  atRest := deed.atRest coherent.atRest
  informed := deed.informed coherent.informed
  blank := deed.blank coherent

end Deeds

theorem Deeds.coherent {node next : Node} (deeds : node.Deeds next) (coherent : node.Coherent) :
    next.Coherent :=
  deeds.invariant (fun coherent deed => deed.coherent coherent) coherent

/-! ## Every run -/

theorem idle_of_not_isElecting {election : Election} (idle : election.isElecting = false) :
    election = .idle := by
  cases election with
  | idle => rfl
  | electing => exact nomatch idle

theorem isPrimary_iff (state : State) : state.isPrimary = true ↔ state.role = .primary :=
  decide_eq_true_iff

/-- Whatever has happened to a node since it booted: it leads if and only if it takes itself for the
primary; while it leads, it runs no election and has the state; without the state, it holds the sum
zero under the number zero.  Whatever happens next, it keeps the state if it has it, and a lead ends
only when a heartbeat, a claim or a list of a higher node is heard, which is then the primary. -/
theorem role_coherent {config : Config} {address : Address} {since : Int} {first node : Node}
    (created : create config address since = .ok first) (deeds : first.Deeds node) :
    (node.state.role = .primary ↔ node.state.primary = some node.id) ∧
    (node.state.role = .primary →
      node.state.election = .idle ∧ node.state.hasInitial = true) ∧
    (node.state.hasInitial = false → node.state.sum = 0 ∧ node.state.seqn = 0) ∧
    ∀ now cause next letters, node.Deed now cause next letters →
      (node.state.hasInitial = true → next.state.hasInitial = true) ∧
      (node.state.role = .primary → next.state.role = .backup →
        ∃ message, cause = .heard message ∧
          (message.kind = .heartbeat ∨ message.kind = .victory ∨ message.kind = .replicaList) ∧
          node.id < message.sender ∧ next.state.primary = some message.sender) := by
  have coherent := deeds.coherent (coherent_of_create created)
  rw [← isPrimary_iff]
  refine ⟨⟨coherent.itself, coherent.others⟩, fun leads => ?_, fun uninformed => ?_,
    fun now cause next letters deed => ⟨deed.hasInitial, fun leads backup => ?_⟩⟩
  · exact ⟨idle_of_not_isElecting (coherent.atRest leads), coherent.informed leads⟩
  · exact Prod.mk.inj (coherent.blank uninformed)
  · refine deed.superseded leads ?_
    simp [State.isPrimary, backup]

/-- A backup that wins an election, and then hears the heartbeat of a higher node. -/
theorem role_coherent_superseded :
    ∃ first node next, create followerConfig followerConfig.bindAddress 0 = .ok first ∧
      first.Deeds node ∧ node.state.role = .primary ∧ node.state.primary = some node.id ∧
      node.state.election = .idle ∧ node.state.hasInitial = true ∧
      (node.handle 2 (.heartbeat 3 4 2 0) (.v4 ⟨10, 0, 0, 3⟩ 1)).1 = next ∧
      next.state.role = .backup ∧ next.state.primary = some 3 := by
  let first := ((create followerConfig followerConfig.bindAddress 0).toOption).getD default
  have created : create followerConfig followerConfig.bindAddress 0 = .ok first := rfl
  have opens : first.openElection? 0 = some (first.contend 0, first.rivals 0) := rfl
  have claims : (first.contend 0).claimVictory? 1 =
      some ((first.contend 0).lead, ((first.contend 0).lead.victory 1).toEach
        (first.contend 0).others) := rfl
  have deeds : first.Deeds (first.contend 0).lead :=
    (Deeds.single (.contend opens)).trans (.single (.claim claims))
  obtain ⟨leads_iff, atRest, -, ends⟩ := role_coherent created deeds
  have leads : (first.contend 0).lead.state.role = .primary := rfl
  obtain ⟨-, superseded⟩ := ends 2 _ _ _ (.hear (.heartbeat 3 4 2 0) (.v4 ⟨10, 0, 0, 3⟩ 1))
  obtain ⟨message, heard, -, -, primary⟩ := superseded leads (by decide)
  obtain rfl := Cause.heard.inj heard
  exact ⟨_, _, _, created, deeds, leads, leads_iff.1 leads, (atRest leads).1, (atRest leads).2,
    rfl, by decide, primary⟩

end Node

end SumCluster
