import SumCluster.Proofs.Node.Change

/-!
# The state that a node holds

The sum of a node and its number belong together (`Node.held`).  They change in two ways only: a
message with a state is taken over, under a number that is not lower, or a write is applied, under a
higher number (`Node.Deed.follows`).  So the number never falls (`Node.Deed.seqn_le`).
-/

namespace SumCluster

/-- The state that a node is offered. -/
def Cause.offer? : Cause → Option (Int64 × Seqn)
  | .heard message => message.state?
  | _ => none

namespace Node

/-- The sum of a node with its number. -/
def held (node : Node) : Int64 × Seqn :=
  (node.state.sum, node.state.seqn)

/-- The held state is kept, or an offered one with a number that is not lower is taken over. -/
inductive Follows (node : Node) (offer : Option (Int64 × Seqn)) (next : Node) : Prop
  | kept (same : next.held = node.held)
  | taken (offered : offer = some next.held) (newer : node.state.seqn ≤ next.state.seqn)

section Follows

variable {node middle next : Node} {offer : Option (Int64 × Seqn)}

theorem Follows.seqn_le (follows : node.Follows offer next) :
    node.state.seqn ≤ next.state.seqn := by
  cases follows with
  | kept same =>
    have same : next.state.seqn = node.state.seqn := congrArg Prod.snd same
    rw [same]
    exact UInt64.le_refl _
  | taken _ newer => exact newer

theorem Follows.trans (first : node.Follows offer middle) (second : middle.Follows offer next) :
    node.Follows offer next := by
  cases second with
  | kept same =>
    cases first with
    | kept kept => exact .kept (same.trans kept)
    | taken offered newer =>
      have seqn_eq : next.state.seqn = middle.state.seqn := congrArg Prod.snd same
      exact .taken (same ▸ offered) (seqn_eq ▸ newer)
  | taken offered newer => exact .taken offered (UInt64.le_trans first.seqn_le newer)

end Follows

/-! ## Changes -/

section Changes

variable {node next : Node} {cause : Cause}

theorem Change.follows (change : Change cause node next) : node.Follows cause.offer? next := by
  cases change with
  | adopt heard offered notLower =>
    subst heard
    exact .taken offered notLower
  | _ => exact .kept rfl

theorem Changes.follows (changes : Changes cause node next) :
    node.Follows cause.offer? next := by
  induction changes with
  | refl => exact .kept rfl
  | tail _ change ih => exact ih.trans change.follows

end Changes

/-! ## Deeds -/

/-- How a deed with a cause may change the held state. -/
def Follows.By (node : Node) (next : Node) : Cause → Prop
  | .heard message => node.Follows message.state? next
  | .own => next.held = node.held
  | .wrote sum seqn => next.held = (sum, seqn) ∧ node.state.seqn < seqn

section Deeds

variable {node next : Node} {now : Int} {cause : Cause} {letters : List Letter}

/-- The held state changes with a message that carries one or with a write. -/
theorem Deed.follows (deed : node.Deed now cause next letters) : Follows.By node next cause := by
  cases deed.outcome with
  | heard changes => exact changes.follows
  | own changes =>
    cases changes.follows with
    | kept same => exact same
    | taken offered => exact nomatch offered
  | claimed => exact rfl
  | wrote _ _ higher => exact ⟨rfl, higher⟩

/-- The number of a node never falls. -/
theorem Deed.seqn_le (deed : node.Deed now cause next letters) :
    node.state.seqn ≤ next.state.seqn := by
  cases deed.outcome with
  | heard changes => exact changes.follows.seqn_le
  | own changes => exact changes.follows.seqn_le
  | claimed => exact UInt64.le_refl _
  | wrote _ _ higher => exact UInt64.le_of_lt higher

end Deeds

end Node

end SumCluster
