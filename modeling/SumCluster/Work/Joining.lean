import SumCluster.Work.Burst
import SumCluster.Node.Duties

/-!
# Joining

A node without the state asks its primary for it, and asks again if it has not come after a while,
for a number of rounds.
-/

namespace SumCluster

/-- How far joining has come. `left` counts the rounds after the current one. -/
inductive Joining
  /-- The next round is to start; this many are left with it. -/
  | starting (rounds : Nat)
  /-- The request is being sent. -/
  | asking (left : Nat) (bursts : List Burst)
  /-- The state is waited for until the deadline, and looked for again before. -/
  | waiting (left : Nat) (deadline again : Int)
  deriving Repr, Inhabited

namespace Joining

variable {C : Type} [Carrier C]

/-- What a step of joining leaves. -/
abbrev Step (C : Type) : Type := Site C × Progress Joining Unit

/-- Looks for the state, before the deadline. -/
def look (site : Site C) (left : Nat) (deadline : Int) : Step C :=
  if site.node.state.hasInitial || site.isCancelled then (site, .done ())
  else (site, .going (.waiting left deadline (Time.after site.now site.node.config.pollInterval)))

/-- Starts the next round, if there is a reason for it. -/
def startRounds (site : Site C) : (rounds : Nat) → Step C
  | 0 => (site, .done ())
  | left + 1 =>
    match site.node.joinTarget? with
    | none => (site, .done ())
    | some address =>
      let (site, bursts) := site.sendAll [⟨address, site.node.joinRequest site.now⟩]
      if !bursts.isEmpty then (site, .going (.asking left bursts))
      else
        let deadline := Time.after site.now site.node.config.joinTimeout
        if deadline ≤ site.now then startRounds site left else look site left deadline

/-- Waits after the request was sent. -/
def wait (site : Site C) (left : Nat) (deadline : Int) : Step C :=
  if deadline ≤ site.now then startRounds site left else look site left deadline

/-- Goes on with joining. -/
def advance (site : Site C) : Joining → Step C
  | .starting rounds => startRounds site rounds
  | .asking left bursts =>
    let (site, bursts) := Burst.advanceAll site bursts
    if bursts.isEmpty then wait site left (Time.after site.now site.node.config.joinTimeout)
    else (site, .going (.asking left bursts))
  | .waiting left deadline _ =>
    if site.isCancelled then (site, .done ()) else wait site left deadline

/-- When joining can go on. -/
def due? (site : Site C) : Joining → Option Int
  | .starting _ => some site.now
  | .asking _ bursts => Burst.nextDue? bursts
  | .waiting _ _ again => some (if site.isCancelled then site.now else again)

/-- Joining from the beginning, with as many rounds as the node is to try, at least one. -/
def fresh (config : Config) : Joining :=
  .starting (max config.joinAttempts 1)

end Joining

end SumCluster
