import SumCluster.Wire.Layout

/-!
# Client datagrams

A client asks a node to add a value; the node answers with the sum after it and what became of the
request. Both are laid out bare, without frame or checksum.
-/

namespace SumCluster

/-- What became of a request. -/
inductive RequestStatus
  /-- Applied, and held by every live backup. -/
  | ok
  /-- Refused, since the node does not lead. -/
  | notPrimary
  /-- Not known to be held by every live backup. -/
  | replicationIncomplete
  deriving DecidableEq, Repr, Inhabited

namespace RequestStatus

/-- The number of a status. -/
def code : RequestStatus → Nat
  | ok => 0
  | notPrimary => 1
  | replicationIncomplete => 2

/-- All statuses, in the order of their numbers. -/
def all : List RequestStatus :=
  [ok, notPrimary, replicationIncomplete]

/-- The name of a status. -/
def name : RequestStatus → String
  | ok => "Ok"
  | notPrimary => "NotPrimary"
  | replicationIncomplete => "ReplicationIncomplete"

@[simp] theorem getElem?_code (status : RequestStatus) : all[status.code]? = some status := by
  cases status <;> rfl

end RequestStatus

/-- A request to add a value to the sum. -/
structure ClientRequest where
  /-- Chosen by the client; the response repeats it. -/
  requestId : UInt64
  value : Int64
  deriving DecidableEq, Repr, Inhabited

/-- The answer to a request. -/
structure ClientResponse where
  requestId : UInt64
  sum : Int64
  seqn : Seqn
  status : RequestStatus
  /-- Where the primary listens, if this node does not lead. -/
  primaryHint : Option Address
  deriving DecidableEq, Repr, Inhabited

namespace Wire

/-- The four bytes of a status. -/
def status : Layout RequestStatus where
  write status := writeWord 4 status.code
  read bytes := do
    let (index, bytes) ← readWord 4 bytes
    match RequestStatus.all[index]? with
    | none => .error (.variant index RequestStatus.all.length)
    | some status => return (status, bytes)

/-- The datagram of a request. -/
def clientRequest : Layout ClientRequest :=
  (Layout.word64.pair Layout.int64).via
    (fun request => (request.requestId, request.value))
    (fun (requestId, value) => ⟨requestId, value⟩)

/-- The datagram of a response. -/
def clientResponse : Layout ClientResponse :=
  (Layout.word64.pair (Layout.int64.pair (Layout.word64.pair
      (status.pair Layout.address.option)))).via
    (fun response => (response.requestId, response.sum, response.seqn, response.status,
      response.primaryHint))
    (fun (requestId, sum, seqn, status, primaryHint) =>
      ⟨requestId, sum, seqn, status, primaryHint⟩)

end Wire

namespace ClientRequest

/-- The request at the start of a datagram; what follows it is ignored. -/
def decode (bytes : Wire.Bytes) : Except Wire.Fault ClientRequest :=
  (Wire.clientRequest.read bytes).map (·.1)

/-- The datagram of a request. -/
def encode (request : ClientRequest) : Wire.Bytes :=
  Wire.clientRequest.write request

end ClientRequest

namespace ClientResponse

/-- The response at the start of a datagram; what follows it is ignored. -/
def decode (bytes : Wire.Bytes) : Except Wire.Fault ClientResponse :=
  (Wire.clientResponse.read bytes).map (·.1)

/-- The datagram of a response. -/
def encode (response : ClientResponse) : Wire.Bytes :=
  Wire.clientResponse.write response

end ClientResponse

end SumCluster
