import SumCluster.Carrier.Basic

/-!
# Sites

Where work is done: one member of the cluster with its carrier, at one moment. Work that takes time
is done in steps. A step goes as far as it can at its moment, and leaves either the rest of the work
or its result.
-/

namespace SumCluster

/-- A node that is in use. -/
structure Member where
  node : Node
  /-- Its endpoint of the carrier. -/
  endpoint : Nat
  isRunning : Bool := false
  /-- Whether its work is to end. -/
  isCancelled : Bool := false
  deriving Inhabited

/-- What a step leaves. -/
inductive Progress (α β : Type)
  /-- The rest of the work. -/
  | going (work : α)
  /-- The work is done. -/
  | done (result : β)
  deriving Repr, Inhabited

/-- Changes what is left of the work. -/
def Progress.mapWork {α α' β : Type} (change : α → α') : Progress α β → Progress α' β
  | going work => going (change work)
  | done result => done result

/-- Changes the result. -/
def Progress.mapResult {α β β' : Type} (change : β → β') : Progress α β → Progress α β'
  | going work => going work
  | done result => done (change result)

/-- One member at one moment. -/
structure Site (C : Type) where
  moment : Moment
  carrier : C
  member : Member

namespace Site

variable {C : Type}

/-- The time. -/
def now (site : Site C) : Int :=
  site.moment.now

/-- The node at work. -/
def node (site : Site C) : Node :=
  site.member.node

/-- Whether the work is to end. -/
def isCancelled (site : Site C) : Bool :=
  site.member.isCancelled

/-- Replaces the node. -/
def withNode (site : Site C) (node : Node) : Site C :=
  { site with member.node := node }

/-- Replaces the carrier. -/
def withCarrier (site : Site C) (carrier : C) : Site C :=
  { site with carrier }

/-- Sends one copy of a letter. -/
def send [Carrier C] (site : Site C) (letter : Letter) : Except ClusterError Unit × Site C :=
  let (result, carrier) := Carrier.send site.carrier site.member.endpoint site.moment letter
  (result, site.withCarrier carrier)

end Site

/-- The earlier of two instants that may be missing. -/
def earlier? (a b : Option Int) : Option Int :=
  match a, b with
  | none, b => b
  | a, none => a
  | some a, some b => some (min a b)

/-- The earliest of several instants, if there is one. -/
def earliest? (instants : List (Option Int)) : Option Int :=
  instants.foldr earlier? none

end SumCluster
