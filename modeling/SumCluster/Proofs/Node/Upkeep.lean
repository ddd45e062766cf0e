import SumCluster.Proofs.Directory.Operations
import SumCluster.Proofs.Node.Hearsay

/-!
# How a node keeps its table

Whatever makes a node act, it does a few things to its table (`Node.Undertakes`), so that a property
which these keep holds after every deed (`Node.Deed.induction`).  None of them takes a word from
others about the node itself: its own record changes only when it answers a request to join, and
then it says that the node lives (`Node.Deed.own_record`).
-/

namespace SumCluster

open Directory (Operation)

namespace Node

/-- What a node may do to its table when it has a cause to act. -/
inductive Undertakes (node : Node) : Cause → Operation → Prop
  /-- A message of another node is a sign of life of it. -/
  | meet {message : Message} (other : message.sender ≠ node.id) (source : Address) :
    Undertakes node (.heard message) (.register message.sender source)
  | ack {message : Message} (other : message.sender ≠ node.id) (seqn : Seqn) :
    Undertakes node (.heard message) (.recordAck message.sender seqn)
  | join {message : Message} (other : message.sender ≠ node.id)
    (kind : message.kind = .joinRequest) :
    Undertakes node (.heard message) (.recordJoin message.sender (joinWindow node.config))
  /-- To answer a request to join is a sign of life of the node itself. -/
  | refresh {message : Message} (other : message.sender ≠ node.id)
    (kind : message.kind = .joinRequest) :
    Undertakes node (.heard message) (.markAlive node.id)
  | merge {message : Message} (kind : message.kind = .replicaList) :
    Undertakes node (.heard message) (.merge node.id message.entries)
  | expire : Undertakes node .own (.expire node.id node.config.primaryTimeout)

section Induction

variable {node next : Node} {now : Int} {cause : Cause} {letters : List Letter}
  {P : Directory → Prop}

theorem perform_meet (node : Node) (now : Int) (sender : NodeId) (source : Address) :
    (node.meet now sender source).state.directory =
      (Operation.register sender source).perform node.state.directory now := by
  unfold meet Operation.perform
  simp only
  cases node.state.directory.register sender source now <;> rfl

/-- What is kept by all that a message makes a node do to its table is kept when it is heard. -/
theorem handle_induction {message : Message} {source : Address} (holds : P node.state.directory)
    (keeps : ∀ directory operation, node.Undertakes (.heard message) operation → P directory →
      P (operation.perform directory now)) :
    P (node.handle now message source).1.state.directory := by
  unfold handle
  split
  · exact holds
  · rename_i other
    have meets : P (node.meet now message.sender source).state.directory := by
      rw [perform_meet]
      exact keeps _ _ (.meet other source) holds
    have notes := notes_hear (node.meet now message.sender source) now
      (!node.state.directory.contains message.sender) message
    generalize ((node.meet now message.sender source).hear now
      (!node.state.directory.contains message.sender) message).1.state.directory = later at notes ⊢
    cases notes with
    | nothing => exact meets
    | ack seqn => exact keeps _ _ (.ack other seqn) meets
    | @join joined kind joins =>
      have joins : (Operation.recordJoin message.sender (joinWindow node.config)).perform
          (node.meet now message.sender source).state.directory now = joined :=
        congrArg (Option.getD · _) joins
      have holds : P joined := joins ▸ keeps _ _ (.join other kind) meets
      exact keeps _ _ (.refresh other kind) holds
    | entries kind => exact keeps _ _ (.merge kind) meets

/-- What is kept by all that a node may do to its table is kept by its deeds. -/
theorem Deed.induction (deed : node.Deed now cause next letters) (holds : P node.state.directory)
    (keeps : ∀ directory operation, node.Undertakes cause operation → P directory →
      P (operation.perform directory now)) :
    P next.state.directory := by
  rcases deed.directory_cases with ⟨message, source, rfl, rfl⟩ | same | ⟨rfl, expires⟩
  · exact handle_induction holds keeps
  · exact same ▸ holds
  · exact expires ▸ keeps _ _ .expire holds

/-- What is kept when a node is registered is kept when several are. -/
theorem registerAll_induction {peers : List Peer} {directory directory' : Directory}
    (registered : registerAll peers directory now = .ok directory') (holds : P directory)
    (keeps : ∀ directory, ∀ peer ∈ peers, P directory →
      P ((Operation.register peer.id peer.address).perform directory now)) : P directory' := by
  induction peers generalizing directory with
  | nil =>
    obtain rfl := Except.ok.inj registered
    exact holds
  | cons peer rest ih =>
    obtain ⟨middle, first, others⟩ := registerAll_cons registered
    have performed : (Operation.register peer.id peer.address).perform directory now = middle := by
      simp [Operation.perform, first, Except.toOption]
    refine ih others ?_ fun directory other mem =>
      keeps directory other (List.mem_cons_of_mem peer mem)
    exact performed ▸ keeps directory peer (List.mem_cons_self ..) holds

end Induction

/-! ## What a node leaves alone -/

section Frame

variable {node next : Node} {now : Int} {cause : Cause} {letters : List Letter}
  {operation : Operation} {id : NodeId}

/-- Of itself a node notes nothing but that it lives, when it answers a request to join. -/
theorem Undertakes.of_own (undertakes : node.Undertakes cause operation)
    (own : operation.Concerns node.id) :
    operation = .markAlive node.id ∧
      ∃ joiner timestamp, cause = .heard (.joinRequest joiner timestamp) ∧ joiner ≠ node.id := by
  cases undertakes with
  | meet other | ack other | join other => exact absurd own other
  | @refresh message other kind =>
    cases message with
    | joinRequest joiner timestamp => exact ⟨rfl, joiner, timestamp, rfl, other⟩
    | _ => exact nomatch kind
  | merge | expire => exact absurd rfl own

theorem Undertakes.of_recordJoin {window : Nat}
    (undertakes : node.Undertakes cause (.recordJoin id window)) :
    ∃ timestamp, cause = .heard (.joinRequest id timestamp) := by
  cases undertakes with
  | @join message _ kind =>
    cases message with
    | joinRequest joiner timestamp => exact ⟨timestamp, rfl⟩
    | _ => exact nomatch kind

variable (deed : node.Deed now cause next letters)

include deed

theorem Deed.capacity_eq : next.state.directory.capacity = node.state.directory.capacity := by
  refine deed.induction (P := fun directory => directory.capacity = _) rfl
    fun directory operation _ same => ?_
  exact (Directory.effect_perform directory operation now).capacity_eq.trans same

/-- The own record of a node stays as it is, whatever others say, unless the node answers a request
to join; then it is on record as alive just now. -/
theorem Deed.own_record {record : Record}
    (found : node.state.directory.find? node.id = some record) :
    next.state.directory.find? node.id = some record ∨
      (∃ joiner timestamp, cause = .heard (.joinRequest joiner timestamp) ∧ joiner ≠ node.id) ∧
        next.state.directory.find? node.id =
          some { record with isAlive := true, lastHeard := now } := by
  refine deed.induction (P := fun directory => directory.find? node.id = some record ∨
    _ ∧ directory.find? node.id = _) (.inl found) fun directory operation undertakes holds => ?_
  by_cases own : operation.Concerns node.id
  · obtain ⟨rfl, answers⟩ := undertakes.of_own own
    refine .inr ⟨answers, ?_⟩
    rcases holds with same | ⟨-, same⟩
    · rw [Directory.find?_markAlive, same]
      rfl
    · rw [Directory.find?_markAlive, same]
      rfl
  · rw [Directory.find?_perform own]
    exact holds

/-- When a node last answered a request of another one changes with such a request only. -/
theorem Deed.lastJoin?_eq (other : ∀ timestamp, cause ≠ .heard (.joinRequest id timestamp)) :
    next.state.directory.lastJoin? id = node.state.directory.lastJoin? id := by
  refine deed.induction (P := fun directory => directory.lastJoin? id = _) rfl
    fun directory operation undertakes same => ?_
  refine ((Directory.effect_perform directory operation now).lastJoin?_eq ?_).trans same
  rintro window rfl
  obtain ⟨timestamp, request⟩ := undertakes.of_recordJoin
  exact other timestamp request

end Frame

end Node

end SumCluster
