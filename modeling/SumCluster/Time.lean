/-!
# Time

An instant is an `Int`, the number of milliseconds since an arbitrary origin; a duration is a `Nat`,
a number of milliseconds.
-/

namespace SumCluster.Time

/-- How long ago an instant is; nothing for an instant that is still to come. -/
def elapsed (since now : Int) : Nat :=
  (now - since).toNat

/-- The instant after a duration. -/
def after (now : Int) (duration : Nat) : Int :=
  now + duration

/-- An instant as the word that a message carries. -/
def stamp (now : Int) : UInt64 :=
  UInt64.ofNat now.toNat

theorem elapsed_le_iff {since now : Int} {duration : Nat} :
    elapsed since now ≤ duration ↔ now ≤ after since duration := by
  unfold elapsed after
  omega

end SumCluster.Time
