import SumCluster.Work.Activity

/-!
# Timelines

Members of one carrier on a clock that moves only when nothing else can. All that goes on beside the
call of a user is kept as tasks.
-/

namespace SumCluster

/-- An activity that goes on beside the calls of users. -/
structure Task where
  /-- The number of its member. -/
  member : Nat
  activity : Activity
  /-- Whether stopping the member waits for it. -/
  isAwaited : Bool := false
  deriving Inhabited

/-- Members of one carrier, and what goes on at them. -/
structure Timeline (C : Type) where
  carrier : C
  moment : Moment
  /-- The members, numbered in the order in which they came. -/
  members : List Member := []
  /-- The tasks; the first that can go on is the next to do so. -/
  tasks : List Task := []

namespace Timeline

variable {C : Type}

/-- The time. -/
def now (timeline : Timeline C) : Int :=
  timeline.moment.now

/-- The member with a number, at the present moment. -/
def site? (timeline : Timeline C) (member : Nat) : Option (Site C) :=
  timeline.members[member]?.map fun found => ⟨timeline.moment, timeline.carrier, found⟩

/-- Takes over what happened at a member. -/
def withSite (timeline : Timeline C) (member : Nat) (site : Site C) : Timeline C :=
  { timeline with
    carrier := site.carrier
    members := timeline.members.set member site.member }

/-- Whether tasks are left that stopping a member waits for. -/
def hasAwaited (timeline : Timeline C) (member : Nat) : Bool :=
  timeline.tasks.any fun task => task.member == member && task.isAwaited

/-- Adds tasks at the end. -/
def addTasks (timeline : Timeline C) (tasks : List Task) : Timeline C :=
  { timeline with tasks := timeline.tasks ++ tasks }

/-- Lets something go on at a member. -/
def spawn (timeline : Timeline C) (member : Nat) (activities : List Activity) : Timeline C :=
  timeline.addTasks (activities.map fun activity => { member, activity })

/-! ## Members -/

/-- Adds a member with an endpoint. -/
def addMember (timeline : Timeline C) (node : Node) (endpoint : Nat) : Timeline C :=
  { timeline with members := timeline.members ++ [{ node, endpoint }] }

/-- The node of a member. -/
def node? (timeline : Timeline C) (member : Nat) : Option Node :=
  timeline.members[member]?.map (·.node)

/-- Changes a member. -/
def adjust (timeline : Timeline C) (member : Nat) (change : Member → Member) : Timeline C :=
  { timeline with members := timeline.members.modify member change }

/-- Replaces the node of a member. -/
def withNode (timeline : Timeline C) (member : Nat) (node : Node) : Timeline C :=
  timeline.adjust member ({ · with node })

/-- Tells the activities of a member to end. -/
def cancel (timeline : Timeline C) (member : Nat) : Timeline C :=
  timeline.adjust member ({ · with isCancelled := true })

/-- The activities of a started member: it takes messages, sends heartbeats and watches its primary,
and a backup joins. -/
def duties (node : Node) (now : Int) : List Activity :=
  [.receiving, .beating { due := now }, .watching (.looking now)] ++
    match node.state.role with
    | .primary => []
    | .backup => [.joining (.fresh node.config)]

/-- Starts a member, unless it is running. -/
def start (timeline : Timeline C) (member : Nat) : Except ClusterError (Timeline C) :=
  match timeline.members[member]? with
  | none => .ok timeline
  | some found =>
    if found.isRunning then .error (.config "Node already started")
    else
      .ok <| (timeline.adjust member ({ · with isRunning := true })).addTasks <|
        (duties found.node timeline.now).map fun activity =>
          { member, activity, isAwaited := true }

/-- Lets a member handle a message, and hands over what it asks for. -/
def handle (timeline : Timeline C) (member : Nat) (message : Message) (source : Address) :
    Effects × Timeline C :=
  match timeline.node? member with
  | none => (.none, timeline)
  | some node =>
    let (node, effects) := node.handle timeline.now message source
    (effects, timeline.withNode member node)

/-- Lets tasks carry out what a member asks for. -/
def carryOut (timeline : Timeline C) (member : Nat) (effects : Effects) : Timeline C :=
  match timeline.node? member with
  | none => timeline
  | some node => timeline.spawn member (Activity.ofEffects node timeline.now effects)

/-! ## Steps -/

variable [Carrier C]

/-- Goes on with an activity of a member. -/
def advance (timeline : Timeline C) (member : Nat) (activity : Activity) :
    Timeline C × Progress Activity Outcome :=
  match timeline.site? member with
  | none => (timeline, .done .nothing)
  | some site =>
    let turn := activity.advance site (timeline.hasAwaited member)
    ((timeline.withSite member turn.site).spawn member turn.started, turn.progress)

/-- When an activity of a member can go on. -/
def due? (timeline : Timeline C) (member : Nat) (activity : Activity) : Option Int :=
  (timeline.site? member).bind fun site => activity.due? site (timeline.hasAwaited member)

/-- Whether an instant has come. -/
def hasCome (timeline : Timeline C) (instant : Option Int) : Bool :=
  instant.any (· ≤ timeline.now)

/-- Whether a task can go on. -/
def isReady (timeline : Timeline C) (task : Task) : Bool :=
  timeline.hasCome (timeline.due? task.member task.activity)

/-- Goes on with the first task that can, and puts what is left of it behind the others. -/
def stepTask? (timeline : Timeline C) : Option (Timeline C) :=
  (timeline.tasks.find? timeline.isReady).map fun task =>
    let others := timeline.tasks.eraseP timeline.isReady
    let (timeline, progress) :=
      ({ timeline with tasks := others }).advance task.member task.activity
    match progress with
    | .done _ => timeline
    | .going activity => timeline.addTasks [{ task with activity }]

/-- When the first of the tasks can go on. -/
def nextTask? (timeline : Timeline C) : Option Int :=
  earliest? (timeline.tasks.map fun task => timeline.due? task.member task.activity)

/-- Moves the clock on, never back. -/
def moveTo (timeline : Timeline C) (instant : Int) : Timeline C :=
  { timeline with moment.now := max timeline.now instant }

end Timeline

end SumCluster
