import SumCluster.Work.Duty
import SumCluster.Work.Joining
import SumCluster.Work.Replication
import SumCluster.Node.Handling

/-!
# Activities

Everything that goes on at a member: its duties, what messages ask for, and the calls of its users.
All activities of a member work on the same node, one step at a time.
-/

namespace SumCluster

/-- Something that goes on at a member. -/
inductive Activity
  /-- Messages are taken and handled. -/
  | receiving
  | beating (beating : Beating)
  | watching (watching : Watching)
  | joining (joining : Joining)
  | sending (bursts : List Burst)
  | contesting (contest : Contest)
  /-- A write. -/
  | writing (replication : Replication)
  /-- A write that a client asked for. -/
  | serving (request : ClientRequest) (replication : Replication)
  /-- The member is stopped; `isAsked` says whether its activities know. -/
  | stopping (isAsked : Bool)
  deriving Inhabited

/-- What an activity ends with. -/
inductive Outcome
  | nothing
  | elected (outcome : ElectionOutcome)
  | written (result : Replication.Result)
  | responded (response : Except ClusterError ClientResponse)
  deriving Inhabited

/-- What a step of an activity leaves: the member, the rest or the result, and the activities that
it started. -/
structure Turn (C : Type) where
  site : Site C
  progress : Progress Activity Outcome
  started : List Activity := []

namespace Activity

variable {C : Type} [Carrier C]

/-- Tells somebody who may be a member that the node is there, unless it is the node itself. -/
def discovering (node : Node) (now : Int) (address : Address) : Activity :=
  .sending <|
    if address = node.address then []
    else [Burst.starting node.config.retry now ⟨address, node.joinRequest now⟩]

/-! ## Receiving -/

/-- The activities that carry out what a node asks for. -/
def ofEffects (node : Node) (now : Int) (effects : Effects) : List Activity :=
  let bursts :=
    effects.sends.map (Burst.starting node.config.retry now) ++
      effects.replies.map (Burst.starting .single now)
  (if bursts.isEmpty then [] else [.sending bursts]) ++
    if effects.elects then [.contesting .opening] else []

/-- Handles arrivals in order. Gives the node after it, the activities that were started, and whether
more can arrive: the closing of the endpoint ends it. -/
def handleAll (now : Int) (node : Node) : List Arrival → Node × List Activity × Bool
  | [] => (node, [], true)
  | .ok (message, source) :: rest =>
    let (node, effects) := node.handle now message source
    let started := ofEffects node now effects
    let (node, more, isOpen) := handleAll now node rest
    (node, started ++ more, isOpen)
  | .error .shutdown :: _ => (node, [], false)
  | .error (.codec _) :: rest => handleAll now node.countUnreadable rest
  | .error _ :: rest => handleAll now node rest

/-- Takes and handles what arrived. -/
def receive (site : Site C) : Turn C :=
  if site.isCancelled then ⟨site, .done .nothing, []⟩
  else
    let (arrivals, carrier) := Carrier.drain site.carrier site.member.endpoint
    let (node, started, isOpen) := handleAll site.now site.node arrivals
    let site := (site.withCarrier carrier).withNode node
    ⟨site, if isOpen then .going .receiving else .done .nothing, started⟩

/-! ## Stopping -/

/-- Tells the activities of a member to end. -/
def stop (site : Site C) : Site C :=
  { site with
    carrier := Carrier.close site.carrier site.member.endpoint
    member := { site.member with isRunning := false, isCancelled := true } }

/-! ## Steps -/

/-- Goes on with an activity. `hasCompany` says whether activities of the member are left that a
stop has to wait for. -/
def advance (site : Site C) (hasCompany : Bool) : Activity → Turn C
  | receiving => receive site
  | beating work =>
    let (site, progress) := work.advance site
    ⟨site, (progress.mapWork beating).mapResult fun _ => .nothing, []⟩
  | watching work =>
    let (site, progress) := work.advance site
    ⟨site, (progress.mapWork watching).mapResult fun _ => .nothing, []⟩
  | joining work =>
    let (site, progress) := work.advance site
    ⟨site, (progress.mapWork joining).mapResult fun _ => .nothing, []⟩
  | sending bursts =>
    let (site, progress) := Burst.run site bursts
    ⟨site, (progress.mapWork sending).mapResult fun _ => .nothing, []⟩
  | contesting work =>
    let (site, progress) := work.advance site
    ⟨site, (progress.mapWork contesting).mapResult .elected, []⟩
  | writing work =>
    let (site, progress) := work.advance site
    ⟨site, (progress.mapWork writing).mapResult .written, []⟩
  | serving request work =>
    let (site, progress) := work.advance site
    ⟨site, (progress.mapWork (serving request)).mapResult fun result =>
      .responded (site.node.respond request result), []⟩
  | stopping isAsked =>
    if !isAsked && !site.member.isRunning then ⟨site, .done .nothing, []⟩
    else
      let site := if isAsked then site else stop site
      ⟨site, if hasCompany then .going (.stopping true) else .done .nothing, []⟩

/-- When an activity can go on; `none` while it waits for something else than the time. -/
def due? (site : Site C) (hasCompany : Bool) : Activity → Option Int
  | receiving =>
    if site.isCancelled || Carrier.isReadable site.carrier site.member.endpoint then some site.now
    else none
  | beating work => work.due? site
  | watching work => work.due? site
  | joining work => work.due? site
  | sending bursts => if bursts.isEmpty then some site.now else Burst.nextDue? bursts
  | contesting work => work.due? site
  | writing work | serving _ work => work.due? site
  | stopping isAsked => if isAsked && hasCompany then none else some site.now

end Activity

end SumCluster
