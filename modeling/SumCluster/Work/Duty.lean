import SumCluster.Work.Contest
import SumCluster.Node.Duties

/-!
# Duties as work

The two duties that a node does at regular times until its work is to end: it sends heartbeats, and
it watches its primary.
-/

namespace SumCluster

namespace Ticker

/-- How late, in milliseconds, a tick may be taken without moving the ones after it. -/
def tolerance : Nat := 5

/-- When the tick after one is due that was due at `due` and is taken at `now`. -/
def next (period : Nat) (due now : Int) : Int :=
  if Time.after due tolerance < now then Time.after now period else Time.after due period

end Ticker

/-- The heartbeats of a node. -/
structure Beating where
  /-- When the next tick is due. -/
  due : Int
  /-- How many ticks there have been, whether the node led or not. -/
  ticks : Nat := 0
  deriving Repr, Inhabited

namespace Beating

variable {C : Type} [Carrier C]

/-- Takes a tick. Heartbeats are sent once: one that is lost is replaced by the next. -/
def tick (site : Site C) (beating : Beating) : Site C × Beating :=
  let ticks := beating.ticks + 1
  let (node, letters) := site.node.beat site.now ticks
  let (site, _) := (site.withNode node).startBursts .single letters
  (site, ⟨Ticker.next node.config.heartbeatInterval beating.due site.now, ticks⟩)

/-- Goes on with the heartbeats. -/
def advance (site : Site C) (beating : Beating) : Site C × Progress Beating Unit :=
  if site.isCancelled then (site, .done ())
  else if beating.due ≤ site.now then
    let (site, beating) := beating.tick site
    (site, .going beating)
  else (site, .going beating)

/-- When the heartbeats can go on. -/
def due? (site : Site C) (beating : Beating) : Option Int :=
  some (if site.isCancelled then site.now else beating.due)

end Beating

/-- What a node does while it watches its primary. -/
inductive Watching
  /-- The next look at the primary is due at an instant. -/
  | looking (due : Int)
  /-- The primary is suspected; others may be quicker to elect. -/
  | hesitating (due : Int) (wake : Int)
  /-- The node runs an election. -/
  | contesting (due : Int) (contest : Contest)
  deriving Repr, Inhabited

namespace Watching

variable {C : Type} [Carrier C]

/-- What a step of watching leaves. -/
abbrev Step (C : Type) : Type := Site C × Progress Watching Unit

/-- Goes on with an election, and watches on after it. -/
def contest (site : Site C) (due : Int) (contest : Contest) : Step C :=
  match contest.advance site with
  | (site, .going contest) => (site, .going (.contesting due contest))
  | (site, .done _) => (site, .going (.looking due))

/-- Elects after the hesitation, unless the suspicion is gone. -/
def decide (site : Site C) (due : Int) : Step C :=
  if site.node.suspectsPrimary site.now then contest site due .opening
  else (site, .going (.looking due))

/-- Looks at the primary. -/
def look (site : Site C) (due : Int) : Step C :=
  let config := site.node.config
  let due := Ticker.next config.checkInterval due site.now
  if !site.node.suspectsPrimary site.now then (site, .going (.looking due))
  else
    let wait := ElectionBackoff.wait config.id config.electionJitter site.moment.chance
    if wait = 0 then decide site due
    else (site, .going (.hesitating due (Time.after site.now wait)))

/-- Goes on with watching. An election that runs is brought to its end. -/
def advance (site : Site C) : Watching → Step C
  | .looking due =>
    if site.isCancelled then (site, .done ())
    else if due ≤ site.now then look site due
    else (site, .going (.looking due))
  | .hesitating due wake =>
    if site.isCancelled then (site, .done ())
    else if wake ≤ site.now then decide site due
    else (site, .going (.hesitating due wake))
  | .contesting due election => contest site due election

/-- When watching can go on. -/
def due? (site : Site C) : Watching → Option Int
  | .looking due => some (if site.isCancelled then site.now else due)
  | .hesitating _ wake => some (if site.isCancelled then site.now else wake)
  | .contesting _ contest => contest.due? site

end Watching

end SumCluster
