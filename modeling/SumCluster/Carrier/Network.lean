import SumCluster.Carrier.Basic
import SumCluster.Address.Printer

/-!
# The network in memory

A carrier between the endpoints of one process. Messages travel as frames and arrive at once, in
order. Links between two addresses can be cut, addresses isolated, and datagrams lost at random; a
datagram to an address where nobody listens is lost too.
-/

namespace SumCluster

/-- One end of the network. -/
structure Endpoint where
  address : Address
  /-- Frames that arrived, with their sources, oldest first. -/
  inbox : List (Wire.Bytes × Address) := []
  isClosed : Bool := false
  /-- Whether somebody will ever look into the inbox. -/
  isAttended : Bool := true
  deriving Repr, Inhabited

/-- A network with its endpoints, which are numbered in the order in which they were bound. -/
structure Network where
  endpoints : List Endpoint := []
  /-- Which endpoint an address leads to. -/
  registry : List (Address × Nat) := []
  /-- Links, from one address to another, that lose everything. -/
  cutLinks : List (Address × Address) := []
  /-- Addresses that nothing comes from or goes to. -/
  isolated : List Address := []
  /-- How likely a datagram is lost otherwise, from zero to one. -/
  dropProbability : Float := 0.0
  delivered : Nat := 0
  dropped : Nat := 0
  deriving Repr, Inhabited

namespace Network

/-! ## Endpoints -/

/-- The endpoint registered at an address. -/
def indexAt? (network : Network) (address : Address) : Option Nat :=
  (network.registry.find? (·.1 == address)).map (·.2)

/-- Binds a new endpoint to an address, and gives its number. -/
def bind (network : Network) (address : Address) : Except ClusterError (Nat × Network) :=
  if (network.indexAt? address).isSome then
    .error (.transport s!"Address {address} already in use")
  else
    let index := network.endpoints.length
    .ok (index,
      { network with
        endpoints := network.endpoints ++ [{ address }]
        registry := network.registry ++ [(address, index)] })

/-- Changes one endpoint. -/
def adjust (network : Network) (index : Nat) (change : Endpoint → Endpoint) : Network :=
  { network with endpoints := network.endpoints.modify index change }

/-- Closes an endpoint, and frees its address. -/
def close (network : Network) (index : Nat) : Network :=
  match network.endpoints[index]? with
  | none => network
  | some endpoint =>
    { network.adjust index ({ · with isClosed := true }) with
      registry := network.registry.filter (·.1 != endpoint.address) }

/-- Leaves an endpoint to itself: it stays bound, but nobody listens any more. -/
def abandon (network : Network) (index : Nat) : Network :=
  network.adjust index ({ · with isAttended := false })

/-- Binds an endpoint in place of an old one, which is left to itself. -/
def bindInstead (network : Network) (old : Option Nat) (address : Address) :
    Except ClusterError (Nat × Network) :=
  (network.bind address).map fun (index, network) => (index, old.elim network network.abandon)

/-! ## Faults -/

/-- Cuts the link between two addresses in both directions. -/
def partition (network : Network) (a b : Address) : Network :=
  { network with cutLinks := (a, b) :: (b, a) :: network.cutLinks }

/-- Restores the link between two addresses. -/
def heal (network : Network) (a b : Address) : Network :=
  { network with cutLinks := network.cutLinks.filter fun link => link != (a, b) && link != (b, a) }

/-- Cuts an address off from all others. -/
def isolate (network : Network) (address : Address) : Network :=
  { network with isolated := address :: network.isolated }

/-- Undoes the isolation of an address. -/
def reconnect (network : Network) (address : Address) : Network :=
  { network with isolated := network.isolated.filter (· != address) }

/-- Restores all links and addresses. -/
def healAll (network : Network) : Network :=
  { network with cutLinks := [], isolated := [] }

/-- Sets how likely a datagram is lost; values beyond zero and one count as these. -/
def withDropProbability (network : Network) (probability : Float) : Network :=
  { network with
    dropProbability :=
      if probability < 0.0 then 0.0 else if 1.0 < probability then 1.0 else probability }

/-- Whether a link or one of its ends is out of order. -/
def isBlocked (network : Network) (source destination : Address) : Bool :=
  network.isolated.contains source || network.isolated.contains destination ||
    network.cutLinks.contains (source, destination)

/-- Whether a throw of chance loses a datagram. -/
def isLost (network : Network) (chance : Float) : Bool :=
  decide (0.0 < network.dropProbability) && decide (chance < network.dropProbability)

/-! ## Datagrams -/

/-- The endpoint that a datagram reaches, if it does not get lost. -/
def route? (network : Network) (chance : Float) (source destination : Address) : Option Nat :=
  if network.isBlocked source destination || network.isLost chance then none
  else (network.indexAt? destination).filter fun index =>
    network.endpoints[index]?.any (·.isAttended)

/-- Takes a frame to an address, or loses it. -/
def deliver (network : Network) (chance : Float) (source destination : Address)
    (frame : Wire.Bytes) : Network :=
  match network.route? chance source destination with
  | none => { network with dropped := network.dropped + 1 }
  | some index =>
    { network.adjust index fun endpoint =>
        { endpoint with inbox := endpoint.inbox ++ [(frame, source)] } with
      delivered := network.delivered + 1 }

/-- Sends a letter from an endpoint. -/
def send (network : Network) (index : Nat) (chance : Float) (letter : Letter) :
    Except ClusterError Unit × Network :=
  match network.endpoints[index]? with
  | none => (.error .shutdown, network)
  | some endpoint =>
    if endpoint.isClosed then (.error .shutdown, network)
    else
      match letter.message.encode with
      | .error fault => (.error (.codec fault.message), network)
      | .ok frame => (.ok (), network.deliver chance endpoint.address letter.destination frame)

/-- Whether something may still arrive at an endpoint. -/
def isBound (network : Network) (index : Nat) : Bool :=
  network.registry.any (·.2 == index)

/-- Whether an endpoint has something to take. -/
def isReadable (network : Network) (index : Nat) : Bool :=
  network.endpoints[index]?.all fun endpoint =>
    endpoint.isClosed || !endpoint.inbox.isEmpty || !network.isBound index

/-- Takes what arrived next at an endpoint, if anything did. -/
def take? (network : Network) (index : Nat) : Option (Arrival × Network) :=
  match network.endpoints[index]? with
  | none => some (.error .shutdown, network)
  | some endpoint =>
    if endpoint.isClosed then some (.error .shutdown, network)
    else
      match endpoint.inbox with
      | (frame, source) :: rest =>
        some (.ofFrame frame source, network.adjust index ({ · with inbox := rest }))
      | [] => if network.isBound index then none else some (.error .shutdown, network)

/-- Takes all that arrived at an endpoint. The last of it tells if nothing more can come. -/
def drain (network : Network) (index : Nat) : List Arrival × Network :=
  match network.endpoints[index]? with
  | none => ([.error .shutdown], network)
  | some endpoint =>
    if endpoint.isClosed then ([.error .shutdown], network)
    else
      (endpoint.inbox.map (fun (frame, source) => .ofFrame frame source) ++
          if network.isBound index then [] else [.error .shutdown],
        network.adjust index ({ · with inbox := [] }))

/-- Waits for an arrival at an endpoint while nobody sends: what arrived, if anything did before
`patience` was over, and how long it took. -/
def await (network : Network) (index patience : Nat) : Option Arrival × Nat × Network :=
  match network.take? index with
  | some (arrival, network) => (some arrival, 0, network)
  | none => (none, patience, network)

instance : Carrier Network where
  send network index moment letter := network.send index moment.chance letter
  isReadable := isReadable
  drain := drain
  close := close

end Network

end SumCluster
