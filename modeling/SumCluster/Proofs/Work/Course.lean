import Mathlib.Algebra.GroupWithZero.Nat
import SumCluster.Proofs.Work.Tapped

/-!
# The course of an activity

An activity of a member on an exact clock: it goes on when it is due, and the clock does not pass that
instant before it has (`Course.Step`).  In between other things may happen to the member, and a ledger
keeps the turns of the activity.  An activity that is always due again, and has less to do each time it
goes on, comes to an end (`Course.exists_done`).
-/

namespace SumCluster

/-! ## Instants that may be missing -/

theorem of_earlier?_eq_some {a b : Option Int} {instant : Int} (first : earlier? a b = some instant) :
    (∀ other ∈ a, instant ≤ other) ∧ (∀ other ∈ b, instant ≤ other) ∧
      (a = some instant ∨ b = some instant) := by
  cases a with
  | none => exact ⟨nofun, fun other mem => Int.le_of_eq (Option.some.inj (first.symm.trans mem)),
      .inr first⟩
  | some x =>
    cases b with
    | none => exact ⟨fun other mem => Int.le_of_eq (Option.some.inj (first.symm.trans mem)), nofun,
        .inl first⟩
    | some y =>
      obtain rfl : min x y = instant := Option.some.inj first
      simp only [Option.mem_some_iff, forall_eq', Option.some.injEq]
      omega

theorem earlier?_eq_none_iff {a b : Option Int} : earlier? a b = none ↔ a = none ∧ b = none := by
  cases a <;> cases b <;> simp [earlier?]

/-! ## Bursts -/

namespace Burst

variable {bursts : List Burst} {instant : Int}

theorem nextDue?_cons (burst : Burst) (bursts : List Burst) :
    nextDue? (burst :: bursts) = earlier? (some burst.due) (nextDue? bursts) :=
  rfl

theorem nextDue?_eq_none_iff : nextDue? bursts = none ↔ bursts = [] := by
  cases bursts with
  | nil => exact ⟨fun _ => rfl, fun _ => rfl⟩
  | cons burst bursts => simp [nextDue?_cons, earlier?_eq_none_iff]

/-- Bursts are due when the first of them is. -/
theorem of_nextDue?_eq_some (first : nextDue? bursts = some instant) :
    (∀ burst ∈ bursts, instant ≤ burst.due) ∧ ∃ burst ∈ bursts, burst.due = instant := by
  induction bursts generalizing instant with
  | nil => exact nomatch first
  | cons burst bursts ih =>
    rw [nextDue?_cons] at first
    obtain ⟨own, others, reached⟩ := of_earlier?_eq_some first
    have own := own burst.due rfl
    constructor
    · intro other mem
      rcases List.mem_cons.1 mem with rfl | mem
      · exact own
      · cases next : nextDue? bursts with
        | none =>
          rw [nextDue?_eq_none_iff.1 next] at mem
          exact nomatch mem
        | some time => exact Int.le_trans (others time next) ((ih next).1 other mem)
    · rcases reached with same | next
      · exact ⟨burst, List.mem_cons_self .., Option.some.inj same⟩
      · obtain ⟨other, mem, same⟩ := (ih next).2
        exact ⟨other, List.mem_cons_of_mem _ mem, same⟩

/-- How much is left to do of several bursts. -/
def load (bursts : List Burst) : Nat :=
  (bursts.map fun burst => burst.left + 1).sum

variable {C : Type} [Carrier C]

/-- What is left of copies when one has been sent: all others if they are to be waited for, or else
what is left of them. -/
theorem mem_sendCopies_succ {letter : Letter} {policy : RetryPolicy} {left : Nat} {site : Site C}
    {burst : Burst} (mem : burst ∈ (sendCopies site letter policy (left + 1)).2) :
    let wait := policy.waitAfter site.moment.chance (policy.copies - left)
    wait = 0 ∧ burst ∈ (sendCopies (site.send letter).2 letter policy left).2 ∨
      wait ≠ 0 ∧ burst = ⟨letter, policy, left, Time.after site.now wait⟩ := by
  simp only [sendCopies] at mem
  split at mem
  · exact absurd mem (Option.not_mem_none burst)
  · split at mem
    · exact .inl ⟨‹_›, mem⟩
    · exact .inr ⟨‹_›, (Option.some.inj mem).symm⟩

theorem left_lt_sendCopies (letter : Letter) (policy : RetryPolicy) (left : Nat) (site : Site C) :
    ∀ burst ∈ (sendCopies site letter policy left).2, burst.left < left := by
  induction left generalizing site with
  | zero => exact nofun
  | succ left ih =>
    intro burst mem
    rcases mem_sendCopies_succ mem with ⟨-, mem⟩ | ⟨-, rfl⟩
    · exact Nat.lt_succ_of_lt (ih _ burst mem)
    · exact Nat.lt_succ_self left

theorem load_advance_le (burst : Burst) (site : Site C) :
    load (burst.advance site).2.toList ≤ burst.left + 1 ∧
      (burst.due ≤ site.now → load (burst.advance site).2.toList < burst.left + 1) := by
  unfold advance
  split
  · cases rest : (sendCopies site burst.letter burst.policy burst.left).2 with
    | none => simp [load]
    | some next =>
      have less := left_lt_sendCopies burst.letter burst.policy burst.left site next rest
      simp [load]
      omega
  · rename_i early
    exact ⟨by simp [load], fun come => absurd come early⟩

theorem load_append (bursts more : List Burst) : load (bursts ++ more) = load bursts + load more := by
  simp [load]

theorem now_le_due_sendCopies (letter : Letter) (policy : RetryPolicy) (left : Nat)
    (site : Site C) : ∀ burst ∈ (sendCopies site letter policy left).2, site.now ≤ burst.due := by
  induction left generalizing site with
  | zero => exact nofun
  | succ left ih =>
    intro burst mem
    rcases mem_sendCopies_succ mem with ⟨-, mem⟩ | ⟨-, rfl⟩
    · exact ih (site.send letter).2 burst mem
    · exact Int.le_add_of_nonneg_right (Int.natCast_nonneg _)

/-- What is left of bursts that have just gone on is not overdue. -/
theorem now_le_due_advanceAll (bursts : List Burst) (site : Site C) :
    ∀ burst ∈ (advanceAll site bursts).2, site.now ≤ burst.due := by
  induction bursts generalizing site with
  | nil => exact nofun
  | cons first bursts ih =>
    intro burst mem
    have parts : (advanceAll site (first :: bursts)).2 =
        (first.advance site).2.toList ++ (advanceAll (first.advance site).1 bursts).2 := rfl
    rw [parts, List.mem_append, Option.mem_toList] at mem
    rcases mem with mem | mem
    · unfold advance at mem
      split at mem
      · exact now_le_due_sendCopies first.letter first.policy first.left site burst mem
      · obtain rfl := Option.some.inj mem
        omega
    · rw [← now_advance first site]
      exact ih _ burst mem

theorem exists_advanceAll_eq (bursts : List Burst) (site : Site C) :
    ∃ carrier left, advanceAll site bursts = (site.withCarrier carrier, left) := by
  obtain ⟨carrier, same⟩ := exists_carrier_advanceAll bursts site
  exact ⟨carrier, _, Prod.ext same rfl⟩

theorem now_advanceAll (bursts : List Burst) (site : Site C) :
    (advanceAll site bursts).1.now = site.now := by
  obtain ⟨carrier, same⟩ := exists_carrier_advanceAll bursts site
  rw [same]
  rfl

/-- When bursts go on, less is left to do if one of them is due. -/
theorem load_advanceAll_le (bursts : List Burst) (site : Site C) :
    load (advanceAll site bursts).2 ≤ load bursts ∧
      ((∃ burst ∈ bursts, burst.due ≤ site.now) →
        load (advanceAll site bursts).2 < load bursts) := by
  induction bursts generalizing site with
  | nil => exact ⟨Nat.le_refl _, fun ⟨_, mem, _⟩ => nomatch mem⟩
  | cons burst bursts ih =>
    obtain ⟨own, own_lt⟩ := load_advance_le burst site
    obtain ⟨others, others_lt⟩ := ih (burst.advance site).1
    have total : load (burst :: bursts) = burst.left + 1 + load bursts := by simp [load]
    have rest : load (advanceAll site (burst :: bursts)).2 =
        load (burst.advance site).2.toList + load (advanceAll (burst.advance site).1 bursts).2 :=
      load_append _ _
    rw [rest, total]
    refine ⟨Nat.add_le_add own others, ?_⟩
    rintro ⟨first, mem, come⟩
    rcases List.mem_cons.1 mem with rfl | mem
    · exact Nat.add_lt_add_of_lt_of_le (own_lt come) others
    · rw [← now_advance burst site] at come
      exact Nat.add_lt_add_of_le_of_lt own (others_lt ⟨first, mem, come⟩)

end Burst

/-! ## Courses -/

/-- An activity of a member, with what has come of it so far. -/
structure Course (C : Type) where
  site : Site C
  progress : Progress Activity Outcome
  /-- The turns of the activity, oldest first: the member as it was then, and what was left to do. -/
  turns : List (Site C × Activity) := []

namespace Course

variable {C : Type}

/-- How much is left to do of a course. -/
def load (effort : Activity → Nat) (course : Course C) : Nat :=
  match course.progress with
  | .going activity => effort activity + 1
  | .done _ => 0

theorem load_of_going {effort : Activity → Nat} {course : Course C} {activity : Activity}
    (going : course.progress = .going activity) : course.load effort = effort activity + 1 := by
  rw [load, going]

variable [Carrier C]

/-- What is left after a turn. -/
def goOn (course : Course C) (activity : Activity) : Course C :=
  let turn := activity.advance course.site false
  ⟨turn.site, turn.progress, course.turns ++ [(course.site, activity)]⟩

/-- The course of an activity that has just had its first turn. -/
def opening (site : Site C) (activity : Activity) : Course C :=
  goOn ⟨site, .going activity, []⟩ activity

/-- A step: the activity goes on if it is due, something else happens to the member, or time passes,
but no longer than until the activity is due. -/
inductive Step (meanwhile : Site C → Site C → Prop) (course : Course C) : Course C → Prop
  | goOn {activity : Activity} {instant : Int} (going : course.progress = .going activity)
    (due : activity.due? course.site false = some instant) (come : instant ≤ course.site.now) :
    Step meanwhile course (course.goOn activity)
  | elsewhere {site : Site C} (happens : meanwhile course.site site)
    (same : site.moment = course.site.moment) : Step meanwhile course { course with site }
  | pass {moment : Moment} (later : course.site.now ≤ moment.now)
    (timely : ∀ activity instant, course.progress = .going activity →
      activity.due? course.site false = some instant → moment.now ≤ instant) :
    Step meanwhile course { course with site.moment := moment }

/-- A finite part of a course. -/
def Run (meanwhile : Site C → Site C → Prop) : Course C → Course C → Prop :=
  Relation.ReflTransGen (Step meanwhile)

/-- A ledger of the turns gains the entry of a turn that is taken, if there is one. -/
theorem filterMap_turns_goOn {α : Type} (entryOf : Site C × Activity → Option α)
    (course : Course C) (activity : Activity) :
    (course.goOn activity).turns.filterMap entryOf =
      course.turns.filterMap entryOf ++ (entryOf (course.site, activity)).toList := by
  rw [goOn, List.filterMap_append]
  cases entry : entryOf (course.site, activity) <;> simp [entry]

variable {meanwhile : Site C → Site C → Prop} {first course : Course C} {Inv : Course C → Prop}

/-- Time passes until an instant. -/
theorem Run.wait (run : first.Run meanwhile course) (instant : Int)
    (later : course.site.now ≤ instant)
    (timely : ∀ activity due, course.progress = .going activity →
      activity.due? course.site false = some due → instant ≤ due) :
    first.Run meanwhile { course with site.moment.now := instant } :=
  .tail run (.pass later timely)

/-- The activity goes on. -/
theorem Run.goOn (run : first.Run meanwhile course) {activity : Activity} {due : Int}
    (going : course.progress = .going activity)
    (found : activity.due? course.site false = some due) (come : due ≤ course.site.now) :
    first.Run meanwhile (course.goOn activity) :=
  .tail run (.goOn going found come)

theorem Run.invariant (run : first.Run meanwhile course)
    (keeps : ∀ {course next : Course C}, Inv course → course.Step meanwhile next → Inv next)
    (start : Inv first) : Inv course := by
  induction run with
  | refl => exact start
  | tail _ step ih => exact keeps ih step

/-- An activity comes to an end if it is always due again while it goes on, and if each turn that is
taken in time leaves less to do. -/
theorem exists_done (effort : Activity → Nat)
    (keeps : ∀ {course next : Course C}, Inv course → course.Step meanwhile next → Inv next)
    (due : ∀ {course : Course C} {activity : Activity}, Inv course →
      course.progress = .going activity → ∃ instant, course.site.now ≤ instant ∧
        ∀ moment, activity.due? { course.site with moment } false = some instant)
    (falls : ∀ {course : Course C} {activity rest : Activity}, Inv course →
      course.progress = .going activity →
      activity.due? course.site false = some course.site.now →
      (activity.advance course.site false).progress = .going rest → effort rest < effort activity)
    (start : Inv course) :
    ∃ final outcome, course.Run meanwhile final ∧ final.progress = .done outcome := by
  generalize weight_eq : course.load effort = weight
  induction weight using Nat.strongRecOn generalizing course with
  | ind weight ih =>
    cases progress : course.progress with
    | done outcome => exact ⟨course, outcome, .refl, progress⟩
    | going activity =>
      obtain ⟨instant, later, always⟩ := due start progress
      -- the clock moves to the instant at which the activity is due, and the activity goes on
      let waited : Course C := { course with site.moment.now := instant }
      have waits : course.Step meanwhile waited := by
        refine .pass later fun other time going found => ?_
        obtain rfl := Progress.going.inj (progress.symm.trans going)
        exact Int.le_of_eq (Option.some.inj ((always course.site.moment).symm.trans found))
      have sound : Inv waited := keeps start waits
      have ready : activity.due? waited.site false = some waited.site.now := always _
      have goes : waited.Step meanwhile (waited.goOn activity) :=
        .goOn progress ready (Int.le_refl _)
      have lighter : (waited.goOn activity).load effort < weight := by
        rw [← weight_eq, load_of_going progress]
        cases rest : (activity.advance waited.site false).progress with
        | done => simp [load, Course.goOn, rest]
        | going rest' =>
          rw [load_of_going rest]
          exact Nat.succ_lt_succ (falls sound progress ready rest)
      obtain ⟨final, outcome, run, ends⟩ := ih _ lighter (keeps sound goes) rfl
      exact ⟨final, outcome, .head waits (.head goes run), ends⟩

end Course

end SumCluster
