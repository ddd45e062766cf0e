import SumCluster.Work.Burst
import SumCluster.Node.Contest

/-!
# The run of an election

A contender challenges the higher nodes, looks now and then whether one has answered, and in the end
claims the lead or gives up. While it runs, messages handled in between may end the election.
-/

namespace SumCluster

/-- How far an election has come. -/
inductive Contest
  /-- Nothing has been done. -/
  | opening
  /-- The challenges are being sent. -/
  | challenging (started : Int) (bursts : List Burst)
  /-- The contender looks for answers again at an instant. -/
  | awaiting (started : Int) (again : Int)
  /-- The claim of the lead is being sent. -/
  | announcing (bursts : List Burst)
  deriving Repr, Inhabited

namespace Contest

variable {C : Type} [Carrier C]

/-- What a step of an election leaves. -/
abbrev Step (C : Type) : Type := Site C × Progress Contest ElectionOutcome

/-- Sends the claim of the lead. -/
def announce (site : Site C) (bursts : List Burst) : Step C :=
  let (site, bursts) := Burst.advanceAll site bursts
  (site, if bursts.isEmpty then .done .won else .going (.announcing bursts))

/-- Takes the lead, unless the election is over. -/
def claim (site : Site C) : Step C :=
  match site.node.claimVictory? site.now with
  | none => (site, .done site.node.verdict)
  | some (node, letters) =>
    announce (site.withNode node) (letters.map (Burst.starting node.config.retry site.now))

/-- Gives up because the work is to end. -/
def abandon (site : Site C) : Step C :=
  (site.withNode site.node.standDown, .done .lost)

/-- Looks for answers. -/
def look (site : Site C) (started : Int) : Step C :=
  match site.node.pollElection started site.now with
  | .over outcome => (site, .done outcome)
  | .unanswered => claim site
  | .again again =>
    if site.isCancelled then abandon site else (site, .going (.awaiting started again))

/-- Sends the challenges, and looks for answers when all are sent. -/
def challenge (site : Site C) (started : Int) (bursts : List Burst) : Step C :=
  let (site, bursts) := Burst.advanceAll site bursts
  if bursts.isEmpty then look site started else (site, .going (.challenging started bursts))

/-- Opens the election, if none is running. Without higher nodes it is won at once. -/
def begin (site : Site C) : Step C :=
  match site.node.openElection? site.now with
  | none => (site, .done .skipped)
  | some (node, []) => claim (site.withNode node)
  | some (node, higher) =>
    let letters := (node.challenge site.now).toEach higher
    challenge (site.withNode node) site.now
      (letters.map (Burst.starting node.config.retry site.now))

/-- Goes on with an election. -/
def advance (site : Site C) : Contest → Step C
  | .opening => begin site
  | .challenging started bursts => challenge site started bursts
  | .awaiting started _ => if site.isCancelled then abandon site else look site started
  | .announcing bursts => announce site bursts

/-- When the election can go on. -/
def due? (site : Site C) : Contest → Option Int
  | .opening => some site.now
  | .challenging _ bursts | .announcing bursts => Burst.nextDue? bursts
  | .awaiting _ again => some (if site.isCancelled then site.now else again)

end Contest

end SumCluster
