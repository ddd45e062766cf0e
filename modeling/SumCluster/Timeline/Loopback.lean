import SumCluster.Timeline.Call
import SumCluster.Carrier.Recorder

/-!
# One node on a machine

A started node and one partner that sends it datagrams over the sockets of a single machine. The
partner waits until the node has answered before it sends the next one. Whether the machine can send
to itself at all is up to its network.
-/

namespace SumCluster

/-- The state of the network of a machine. -/
inductive Link
  | up
  /-- There is no route, not even to the machine itself. -/
  | down
  deriving DecidableEq, Repr

/-- Lets a datagram out, or gives the reason of the system why not. -/
def Link.pass : Link → Except String Unit
  | up => .ok ()
  | down => .error "Network is unreachable (os error 101)"

/-- A started node with its partner. -/
structure Loopback where
  link : Link
  timeline : Timeline Recorder

namespace Loopback

/-- Where the partner listens. -/
def partner : Address :=
  .v4 ⟨127, 0, 0, 1⟩ 1

/-- Starts a node. -/
def start (link : Link) (config : Config) (moment : Moment) : Except ClusterError Loopback := do
  let node ← Node.create config config.bindAddress moment.now
  let timeline ← (Timeline.addMember { carrier := {}, moment } node 0).start 0
  return ⟨link, timeline⟩

/-- The node. -/
def node? (loopback : Loopback) : Option Node :=
  loopback.timeline.node? 0

/-- How long a burst of the node may take. -/
def burstTime (config : Config) (chance : Float) : Nat :=
  config.retry.copies * config.retry.waitAfter chance 0 + 1

/-- Does what is asked for to its end, in a number of turns at most. -/
def perform (loopback : Loopback) (turns : Nat) (demand : Demand) :
    Except String (Outcome × Loopback) :=
  let timeline := loopback.timeline
  match (Call.start timeline demand [] : Call Recorder Unit).run? timeline turns with
  | none => .error "the call does not end"
  | some report => .ok (report.outcome, { loopback with timeline := report.timeline })

/-- What was sent to the partner, in order; it counts as taken. -/
def takeAnswers (loopback : Loopback) : List Message × Loopback :=
  let recorder := loopback.timeline.carrier
  let answers := recorder.log.reverse.filter fun (_, letter) => letter.destination = partner
  (answers.map fun (_, letter) => letter.message,
    { loopback with
      timeline := { loopback.timeline with carrier := { recorder with log := [] } } })

/-- Sends the node a datagram and takes its answers. -/
def exchange (loopback : Loopback) (turns : Nat) (frame : Wire.Bytes) :
    Except String (List Message × Loopback) := do
  loopback.link.pass
  let recorder := loopback.timeline.carrier.receive (.ofFrame frame partner)
  let loopback := { loopback with timeline := { loopback.timeline with carrier := recorder } }
  let wait := (loopback.node?.map fun node =>
    burstTime node.config loopback.timeline.moment.chance).getD 0
  let (_, loopback) ← loopback.perform turns (.pause (Time.after loopback.timeline.now wait))
  return loopback.takeAnswers

/-- Sends the node a datagram of a client. One that is no request is not answered. -/
def ask (loopback : Loopback) (turns : Nat) (datagram : Wire.Bytes) :
    Except String (Option ClientResponse × Loopback) := do
  loopback.link.pass
  match ClientRequest.decode datagram with
  | .error _ => return (none, loopback)
  | .ok request =>
    let activity := Activity.serving request (.opening request.value none)
    match ← loopback.perform turns (.perform 0 activity) with
    | (.responded (.ok response), loopback) => return (some response, loopback)
    | (_, loopback) => return (none, loopback)

end Loopback

end SumCluster
