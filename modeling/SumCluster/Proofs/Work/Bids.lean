import SumCluster.Proofs.Node.Bid
import SumCluster.Proofs.Work.Deeds

/-!
# Elections are made of goes

The run of an election at a site, unless its work is to end, is a call that goes on at the node
(`Contest.goes_advance`): each step makes a few goes, with nothing in between.
-/

namespace SumCluster

/-- Goes of one call, one right after the other. -/
def Bid.Goes (now : Int) : Node × Option Bid → Node × Option Bid → Prop :=
  Relation.ReflTransGen fun before after => ∃ bid, before.2 = some bid ∧
    after = ((bid.advance before.1 now).1, (bid.advance before.1 now).2.2)

namespace Contest

/-- How far the call has come that runs an election. -/
def bid : Contest → Bid
  | opening => .opening
  | challenging started _ | awaiting started _ => .contending started
  | announcing _ => .announcing

/-- How far the call has come after a step, unless it has returned. -/
def stage : Progress Contest ElectionOutcome → Option Bid
  | .going contest => some contest.bid
  | .done _ => none

theorem goes_single {bid : Bid} {now : Int} {node next : Node} {stage : Option Bid}
    (letters : List Letter) (advances : bid.advance node now = (next, letters, stage)) :
    Bid.Goes now (node, some bid) (next, stage) :=
  .single ⟨bid, rfl, by rw [advances]⟩

variable {C : Type} [Carrier C]

theorem goes_announce (site : Site C) (bursts : List Burst) :
    Bid.Goes site.now (site.node, some .announcing)
      ((announce site bursts).1.node, stage (announce site bursts).2) := by
  obtain ⟨carrier, same⟩ := Burst.exists_carrier_advanceAll bursts site
  simp only [announce, same]
  split
  · exact goes_single [] rfl
  · exact .refl

theorem goes_claim (site : Site C) :
    Bid.Goes site.now (site.node, some .claiming) ((claim site).1.node, stage (claim site).2) := by
  unfold claim
  split
  · rename_i beaten
    exact goes_single [] (by rw [Bid.advance, beaten]; rfl)
  · rename_i node letters claims
    have wins : Bid.Goes site.now (site.node, some .claiming) (node, some .announcing) :=
      goes_single letters (by rw [Bid.advance, claims])
    exact wins.trans (goes_announce (site.withNode node) _)

variable (site : Site C) (goesOn : site.isCancelled = false)

include goesOn

theorem goes_look (started : Int) :
    Bid.Goes site.now (site.node, some (.contending started))
      ((look site started).1.node, stage (look site started).2) := by
  unfold look
  split
  · rename_i polls
    exact goes_single [] (by rw [Bid.advance, polls]; rfl)
  · rename_i polls
    have unanswered : Bid.Goes site.now (site.node, some (.contending started))
        (site.node, some .claiming) :=
      goes_single [] (by rw [Bid.advance, polls])
    exact unanswered.trans (goes_claim site)
  · rename_i polls
    rw [goesOn]
    exact goes_single [] (by rw [Bid.advance, polls]; rfl)

theorem goes_challenge (started : Int) (bursts : List Burst) :
    Bid.Goes site.now (site.node, some (.contending started))
      ((challenge site started bursts).1.node, stage (challenge site started bursts).2) := by
  obtain ⟨carrier, same⟩ := Burst.exists_carrier_advanceAll bursts site
  simp only [challenge, same]
  split
  · exact goes_look (site.withCarrier carrier) goesOn started
  · exact .refl

theorem goes_begin :
    Bid.Goes site.now (site.node, some .opening) ((begin site).1.node, stage (begin site).2) := by
  unfold begin
  split
  · rename_i busy
    exact goes_single [] (by rw [Bid.advance, busy]; rfl)
  · rename_i node opens
    have begins : Bid.Goes site.now (site.node, some .opening) (node, some .claiming) :=
      goes_single _ (by rw [Bid.advance, opens])
    exact begins.trans (goes_claim (site.withNode node))
  · rename_i node higher some_higher opens
    have begins : Bid.Goes site.now (site.node, some .opening)
        (node, some (.contending site.now)) := by
      cases higher with
      | nil => exact absurd rfl (some_higher)
      | cons first rest => exact goes_single _ (by rw [Bid.advance, opens])
    exact begins.trans (goes_challenge (site.withNode node) goesOn site.now _)

/-- A step of an election that is not to end makes some goes of a call. -/
theorem goes_advance (contest : Contest) :
    Bid.Goes site.now (site.node, some contest.bid)
      ((contest.advance site).1.node, stage (contest.advance site).2) := by
  cases contest with
  | opening => exact goes_begin site goesOn
  | challenging started bursts => exact goes_challenge site goesOn started bursts
  | awaiting started again =>
    simp only [advance, goesOn]
    exact goes_look site goesOn started
  | announcing bursts => exact goes_announce site bursts

end Contest

end SumCluster
