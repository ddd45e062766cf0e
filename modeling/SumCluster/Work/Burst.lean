import SumCluster.Work.Site

/-!
# Bursts

A letter is sent as a burst of copies with pauses between them. Several bursts run side by side.
-/

namespace SumCluster

/-- A burst of which some copies are still to be sent. -/
structure Burst where
  letter : Letter
  policy : RetryPolicy
  /-- The number of copies left. -/
  left : Nat
  /-- When the next copy is due. -/
  due : Int
  deriving Repr, Inhabited

namespace Burst

variable {C : Type} [Carrier C]

/-- A burst that starts now. -/
def starting (policy : RetryPolicy) (now : Int) (letter : Letter) : Burst :=
  ⟨letter, policy, policy.copies, now⟩

/-- Whether a burst ends with a copy that was sent with this result. Only a failure that may pass
lets it go on. -/
def isFinal : Except ClusterError Unit → Bool
  | .ok () => false
  | .error error => !error.isRetryable

/-- Sends copies until one is to be waited for; `left` is how many there are. -/
def sendCopies (site : Site C) (letter : Letter) (policy : RetryPolicy) :
    (left : Nat) → Site C × Option Burst
  | 0 => (site, none)
  | left + 1 =>
    let (result, site) := site.send letter
    if isFinal result then (site, none)
    else
      let wait := policy.waitAfter site.moment.chance (policy.copies - left)
      if wait = 0 then sendCopies site letter policy left
      else (site, some ⟨letter, policy, left, Time.after site.now wait⟩)

/-- Goes on with a burst, if its next copy is due. -/
def advance (site : Site C) (burst : Burst) : Site C × Option Burst :=
  if burst.due ≤ site.now then sendCopies site burst.letter burst.policy burst.left
  else (site, some burst)

/-- Goes on with several bursts, in order. -/
def advanceAll (site : Site C) : List Burst → Site C × List Burst
  | [] => (site, [])
  | burst :: rest =>
    let (site, burst) := burst.advance site
    let (site, rest) := advanceAll site rest
    (site, burst.toList ++ rest)

/-- When the next copy of several bursts is due. -/
def nextDue? (bursts : List Burst) : Option Int :=
  earliest? (bursts.map fun burst => some burst.due)

end Burst

namespace Site

variable {C : Type} [Carrier C]

/-- Starts a burst for each of several letters. -/
def startBursts (site : Site C) (policy : RetryPolicy) (letters : List Letter) :
    Site C × List Burst :=
  Burst.advanceAll site (letters.map (Burst.starting policy site.now))

/-- Starts bursts as the node repeats its messages. -/
def sendAll (site : Site C) (letters : List Letter) : Site C × List Burst :=
  site.startBursts site.node.config.retry letters

end Site

/-- Bursts at work; their result says nothing. -/
def Burst.run {C : Type} [Carrier C] (site : Site C) (bursts : List Burst) :
    Site C × Progress (List Burst) Unit :=
  let (site, bursts) := Burst.advanceAll site bursts
  (site, if bursts.isEmpty then .done () else .going bursts)

end SumCluster
