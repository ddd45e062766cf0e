import SumCluster.Message

/-!
# Repetition of datagrams

Datagrams get lost, so a message is sent as a burst of equal copies. A policy says how many copies
there are and how long to wait between them. The wait is spread at random around its base, and so is
the wait of a contender before it starts an election. Chance enters as a number from zero to one.
-/

namespace SumCluster

/-- How many copies of a message are sent, and how far apart. -/
structure RetryPolicy where
  /-- Number of copies; none counts as one. -/
  attempts : Nat
  /-- Milliseconds between two copies. -/
  delay : Nat
  /-- The largest part of the wait that chance adds or takes; none if not above zero. -/
  jitterFactor : Float
  deriving Repr, Inhabited

/-- Nanoseconds in a millisecond. -/
def nanosPerMilli : Nat := 1000000

/-- The double nearest to a natural number. -/
def nearestDouble (n : Nat) : Float :=
  Float.ofScientific n false 0

namespace RetryPolicy

/-- Three copies, about ten milliseconds apart. -/
def standard : RetryPolicy := ⟨3, 10, 0.1⟩

/-- One copy. -/
def single : RetryPolicy := ⟨1, 0, 0.0⟩

/-- Two copies, about two milliseconds apart. -/
def quick : RetryPolicy := ⟨2, 2, 0.1⟩

/-- The number of copies sent, at least one. -/
def copies (policy : RetryPolicy) : Nat :=
  max policy.attempts 1

/-- The base wait in nanoseconds. -/
def delayNanos (policy : RetryPolicy) : Nat :=
  policy.delay * nanosPerMilli

/-- The wait in nanoseconds for the number `chance` from zero to one, one half giving the base. It
is computed in doubles, cut to a whole number and held between zero and the greatest word. -/
def jittered (policy : RetryPolicy) (chance : Float) : Nat :=
  if policy.jitterFactor ≤ 0.0 || policy.delay == 0 then policy.delayNanos
  else
    let base := nearestDouble policy.delayNanos
    let spread := (chance - 0.5) * 2.0 * (base * policy.jitterFactor)
    (base + spread).toUInt64.toNat

/-- The wait in nanoseconds after a copy, the first copy being number one; none follows the last. -/
def delayAfter (policy : RetryPolicy) (chance : Float) (copy : Nat) : Nat :=
  if policy.copies ≤ copy then 0 else policy.jittered chance

/-- Whether a wait in nanoseconds lies within the spread around the base, and is nothing after the
last copy. -/
def isWithinJitter (policy : RetryPolicy) (copy nanos : Nat) : Bool :=
  if policy.copies ≤ copy then nanos == 0
  else
    let base := nearestDouble policy.delayNanos
    let wait := nearestDouble nanos
    let reach := base * policy.jitterFactor + 1.0
    decide (base - reach ≤ wait) && decide (wait ≤ base + reach)

/-- The same wait on a clock that counts whole milliseconds: it ends with the first one that is not
too early. -/
def waitAfter (policy : RetryPolicy) (chance : Float) (copy : Nat) : Nat :=
  (policy.delayAfter chance copy + (nanosPerMilli - 1)) / nanosPerMilli

end RetryPolicy

namespace ElectionBackoff

/-- The longest wait in milliseconds before an election: a quarter, half, three quarters or all of
`most`, by the identifier, so that nodes that see the same failure rarely contend together. -/
def bound (id : NodeId) (most : Nat) : Float :=
  nearestDouble most * (nearestDouble (id.toNat % 4) + 1.0) / 4.0

/-- The wait in nanoseconds for the number `chance` from zero to one. -/
def nanos (id : NodeId) (most : Nat) (chance : Float) : Nat :=
  if most = 0 then 0
  else (chance * bound id most * nearestDouble nanosPerMilli).toUInt64.toNat

/-- The same wait on a clock that counts whole milliseconds. -/
def wait (id : NodeId) (most : Nat) (chance : Float) : Nat :=
  (nanos id most chance + (nanosPerMilli - 1)) / nanosPerMilli

end ElectionBackoff

end SumCluster
