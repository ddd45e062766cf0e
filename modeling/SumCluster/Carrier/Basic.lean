import SumCluster.Node.Basic
import SumCluster.Wire.Frame

/-!
# Carriers

A carrier takes datagrams from endpoints to addresses, and promises nothing. Endpoints are numbered.
-/

namespace SumCluster

/-- The circumstances of a step. -/
structure Moment where
  now : Int
  /-- What every throw of chance gives, from zero to one. -/
  chance : Float
  deriving Repr, Inhabited

/-- What arrives at an endpoint: a message with the address that it came from, or a failure. -/
abbrev Arrival : Type := Except ClusterError (Message × Address)

/-- What a frame is to the one who takes it. -/
def Arrival.ofFrame (frame : Wire.Bytes) (source : Address) : Arrival :=
  match Message.decode frame with
  | .ok message => .ok (message, source)
  | .error fault => .error (.codec fault.message)

/-- Something that carries datagrams. -/
class Carrier (C : Type) where
  /-- Takes a letter from an endpoint. Success does not mean that it arrives. -/
  send : C → Nat → Moment → Letter → Except ClusterError Unit × C
  /-- Whether an endpoint has something to take. -/
  isReadable : C → Nat → Bool
  /-- Hands over all that has arrived at an endpoint, oldest first. -/
  drain : C → Nat → List Arrival × C
  /-- Closes an endpoint. -/
  close : C → Nat → C

end SumCluster
