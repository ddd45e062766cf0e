import SumCluster.Work.Burst
import SumCluster.Node.Writing

/-!
# Replication of a write

A write is applied at once. Then its update is sent while the primary looks now and then for the
acknowledgements; the write is done when both have come to an end.
-/

namespace SumCluster

/-- How the wait for acknowledgements stands. -/
inductive AckWait
  /-- They are looked for again at an instant, and for the last time at or after the deadline. -/
  | waiting (deadline again : Int)
  | settled (result : Except ClusterError Unit)
  deriving Inhabited

/-- How far a write has come. -/
inductive Replication
  /-- Nothing has been done. Without a number, the write gets the next one. -/
  | opening (delta : Int64) (seqn : Option Seqn)
  /-- The write is applied, with this sum under this number. -/
  | replicating (sum : Int64) (seqn : Seqn) (bursts : List Burst) (acks : AckWait)
  deriving Inhabited

namespace Replication

variable {C : Type} [Carrier C]

/-- What a write ends with: the state after it. -/
abbrev Result : Type := Except ClusterError (Int64 × Seqn)

/-- What a step of a write leaves. -/
abbrev Step (C : Type) : Type := Site C × Progress Replication Result

/-- Looks for the acknowledgements. -/
def look (site : Site C) (seqn : Seqn) (deadline : Int) : Site C × AckWait :=
  match site.node.pollAcks site.now seqn deadline with
  | (node, some result) => (site.withNode node, .settled result)
  | (node, none) =>
    (site.withNode node,
      if site.isCancelled then .settled (.error .shutdown)
      else .waiting deadline (Time.after site.now node.config.pollInterval))

/-- Goes on with the wait, if it is time. -/
def advanceAcks (site : Site C) (seqn : Seqn) : AckWait → Site C × AckWait
  | .settled result => (site, .settled result)
  | .waiting deadline again =>
    if site.isCancelled then (site, .settled (.error .shutdown))
    else if again ≤ site.now then look site seqn deadline
    else (site, .waiting deadline again)

/-- What is left of a write that has been applied. -/
def remaining (site : Site C) (sum : Int64) (seqn : Seqn) (bursts : List Burst) (acks : AckWait) :
    Step C :=
  match bursts, acks with
  | [], .settled result => (site, .done (result.map fun _ => (sum, seqn)))
  | bursts, acks => (site, .going (.replicating sum seqn bursts acks))

/-- Applies the write and starts to replicate it. -/
def begin (site : Site C) (delta : Int64) (seqn : Option Seqn) : Step C :=
  match site.node.startWrite site.now delta seqn with
  | .refused error => (site, .done (.error error))
  | .repeated => (site, .done (.ok (site.node.state.sum, site.node.state.seqn)))
  | .applied node write =>
    let (site, bursts) := (site.withNode node).sendAll write.letters
    let (site, acks) := look site write.seqn (Time.after site.now node.config.ackTimeout)
    remaining site write.sum write.seqn bursts acks

/-- Goes on with a write. -/
def advance (site : Site C) : Replication → Step C
  | .opening delta seqn => begin site delta seqn
  | .replicating sum seqn bursts acks =>
    let (site, bursts) := Burst.advanceAll site bursts
    let (site, acks) := advanceAcks site seqn acks
    remaining site sum seqn bursts acks

/-- When a write can go on. -/
def due? (site : Site C) : Replication → Option Int
  | .opening .. => some site.now
  | .replicating _ _ bursts acks =>
    earlier? (Burst.nextDue? bursts) <|
      match acks with
      | .settled _ => none
      | .waiting _ again => some (if site.isCancelled then site.now else again)

end Replication

end SumCluster
