import SumCluster.Proofs.Work.Course

/-!
# Letters on their way

Letters that are sent as bursts, followed over time.  A ledger keeps every copy that is given to the
carrier, with the instant (`Course.sent`).  While bursts are left, each letter has been sent or is
still to be sent, and no other is; when none is left, each letter has been sent, and the last copy
goes out at the end (`Sending.advanceAll`).  If the pauses do not vary, copies go out at equal
distances from the start (`Burst.pace_advanceAll`).
-/

namespace SumCluster

/-- The instant of the last entry of a ledger, or the start if there is none. -/
def lastInstant {α : Type} (start : Int) (entries : List (Int × α)) : Int :=
  (entries.getLast?.map Prod.fst).getD start

theorem lastInstant_append {α : Type} (start now : Int) (entries : List (Int × α)) {more : List α}
    (some_more : more ≠ []) :
    lastInstant start (entries ++ more.map fun entry => (now, entry)) = now := by
  obtain ⟨before, last, rfl⟩ := List.eq_nil_or_concat more |>.resolve_left some_more
  simp [lastInstant]

/-- Letters were sent, each at least once, and nothing else. -/
def Told (letters : List Letter) (sent : List (Int × Letter)) : Prop :=
  ∀ letter, letter ∈ sent.map Prod.snd ↔ letter ∈ letters

/-! ## The pace of copies -/

namespace RetryPolicy

variable {policy : RetryPolicy} {copy : Nat}

/-- The pauses do not vary. -/
def IsSteady (policy : RetryPolicy) : Prop :=
  policy.jitterFactor ≤ 0.0

/-- When each copy is sent by a steady policy, the first copy being number zero. -/
def pace (policy : RetryPolicy) (start : Int) (index : Nat) : Int :=
  Time.after start (index * policy.delay)

/-- One of the instants at which copies are sent by a steady policy. -/
def InPace (policy : RetryPolicy) (start now : Int) : Prop :=
  ∃ index < policy.copies, now = policy.pace start index

theorem copies_pos (policy : RetryPolicy) : 0 < policy.copies :=
  Nat.lt_of_lt_of_le Nat.one_pos (Nat.le_max_right _ _)

theorem pace_succ (policy : RetryPolicy) (start : Int) (index : Nat) :
    policy.pace start (index + 1) = Time.after (policy.pace start index) policy.delay := by
  unfold pace Time.after
  rw [Nat.succ_mul]
  omega

/-- No pause follows the last copy. -/
theorem waitAfter_of_copies_le (chance : Float) (last : policy.copies ≤ copy) :
    policy.waitAfter chance copy = 0 := by
  unfold waitAfter delayAfter
  rw [if_pos last]
  rfl

theorem IsSteady.waitAfter_eq (steady : policy.IsSteady) (chance : Float)
    (more : copy < policy.copies) : policy.waitAfter chance copy = policy.delay := by
  unfold IsSteady at steady
  have same : policy.jittered chance = policy.delay * nanosPerMilli := by
    unfold jittered
    rw [if_pos (by simp [steady])]
    rfl
  unfold waitAfter delayAfter
  rw [if_neg (Nat.not_le.2 more), same]
  unfold nanosPerMilli
  omega

end RetryPolicy

namespace Burst

variable {C : Type} [Carrier C] {policy : RetryPolicy} {start : Int}

/-- The next copy of a burst is due when it has to be. -/
structure KeepsPace (policy : RetryPolicy) (start : Int) (burst : Burst) : Prop where
  policy_eq : burst.policy = policy
  left_le : burst.left ≤ policy.copies
  due_eq : burst.due = policy.pace start (policy.copies - burst.left)

/-- A copy that is sent in time is followed by the next one in time. -/
theorem pace_sendCopies (steady : policy.IsSteady) (letter : Letter) {left : Nat} (site : Site C)
    (le : left ≤ policy.copies) (now : site.now = policy.pace start (policy.copies - left)) :
    ∀ rest ∈ (sendCopies site letter policy left).2, KeepsPace policy start rest := by
  induction left generalizing site with
  | zero => exact nofun
  | succ left ih =>
    intro rest mem
    have index : policy.copies - (left + 1) + 1 = policy.copies - left := by omega
    have next : Time.after site.now policy.delay = policy.pace start (policy.copies - left) := by
      rw [← index, RetryPolicy.pace_succ, now]
    rcases mem_sendCopies_succ mem with ⟨none, mem⟩ | ⟨some_wait, rfl⟩
    · rcases Nat.eq_zero_or_pos left with rfl | more
      · exact absurd mem (Option.not_mem_none rest)
      · rw [steady.waitAfter_eq _ (by omega)] at none
        have same : (site.send letter).2.now = policy.pace start (policy.copies - left) := by
          rw [← next, none]
          exact (Int.add_zero _).symm
        exact ih (site.send letter).2 (Nat.le_of_succ_le le) same rest mem
    · have more : policy.copies - left < policy.copies :=
        Nat.lt_of_not_le fun last => some_wait (RetryPolicy.waitAfter_of_copies_le _ last)
      rw [steady.waitAfter_eq _ more]
      exact ⟨rfl, Nat.le_of_succ_le le, next⟩

/-- Bursts that are not overdue keep their pace. -/
theorem pace_advanceAll (steady : policy.IsSteady) (bursts : List Burst) (site : Site C)
    (paced : ∀ burst ∈ bursts, KeepsPace policy start burst ∧ site.now ≤ burst.due) :
    ∀ rest ∈ (advanceAll site bursts).2, KeepsPace policy start rest := by
  induction bursts generalizing site with
  | nil => exact nofun
  | cons burst bursts ih =>
    intro rest mem
    have parts : (advanceAll site (burst :: bursts)).2 =
        (burst.advance site).2.toList ++ (advanceAll (burst.advance site).1 bursts).2 := rfl
    obtain ⟨pace, timely⟩ := paced burst (List.mem_cons_self ..)
    rw [parts, List.mem_append, Option.mem_toList] at mem
    rcases mem with mem | mem
    · unfold advance at mem
      split at mem
      · rename_i come
        have now := (Int.le_antisymm timely come).trans pace.due_eq
        rw [pace.policy_eq] at mem
        exact pace_sendCopies steady burst.letter site pace.left_le now rest mem
      · obtain rfl := Option.some.inj mem
        exact pace
    · refine ih (burst.advance site).1 (fun other other_mem => ?_) rest mem
      rw [now_advance]
      exact paced other (List.mem_cons_of_mem _ other_mem)

/-! ## What is left -/

theorem left_pos_sendCopies (letter : Letter) (policy : RetryPolicy) (left : Nat) (site : Site C) :
    ∀ rest ∈ (sendCopies site letter policy left).2, 0 < rest.left := by
  induction left generalizing site with
  | zero => exact nofun
  | succ left ih =>
    intro rest mem
    rcases mem_sendCopies_succ mem with ⟨-, mem⟩ | ⟨some_wait, rfl⟩
    · exact ih _ rest mem
    · refine Nat.pos_of_ne_zero fun none => some_wait ?_
      have none : left = 0 := none
      exact RetryPolicy.waitAfter_of_copies_le _ (by omega)

/-- A burst that goes on has copies left; one that is not due is left as it is. -/
theorem left_advanceAll (bursts : List Burst) (site : Site C)
    (some_left : ∀ burst ∈ bursts, 0 < burst.left) :
    (∀ rest ∈ (advanceAll site bursts).2, 0 < rest.left) ∧
      ∀ burst ∈ bursts, ¬burst.due ≤ site.now → burst ∈ (advanceAll site bursts).2 := by
  induction bursts generalizing site with
  | nil => exact ⟨nofun, nofun⟩
  | cons first bursts ih =>
    have parts : (advanceAll site (first :: bursts)).2 =
        (first.advance site).2.toList ++ (advanceAll (first.advance site).1 bursts).2 := rfl
    obtain ⟨others, early⟩ := ih (first.advance site).1 fun burst mem =>
      some_left burst (List.mem_cons_of_mem _ mem)
    have own_left := some_left first (List.mem_cons_self ..)
    rw [parts]
    refine ⟨fun rest mem => ?_, fun burst mem notDue => ?_⟩
    · rcases List.mem_append.1 mem with mem | mem
      · rw [Option.mem_toList] at mem
        unfold advance at mem
        split at mem
        · exact left_pos_sendCopies _ _ _ _ rest mem
        · obtain rfl := Option.some.inj mem
          exact own_left
      · exact others rest mem
    · rcases List.mem_cons.1 mem with rfl | mem
      · refine List.mem_append_left _ ?_
        simp [advance, notDue]
      · rw [← now_advance first site] at notDue
        exact List.mem_append_right _ (early burst mem notDue)

end Burst

/-! ## Letters -/

/-- Letters are being sent as bursts since an instant: what has been sent, and the bursts that are
left. -/
structure Sending (policy : RetryPolicy) (start : Int) (letters : List Letter)
    (sent : List (Int × Letter)) (now : Int) (bursts : List Burst) : Prop where
  within : ∀ letter ∈ sent.map Prod.snd, letter ∈ letters
  covers : ∀ letter ∈ letters,
    letter ∈ sent.map Prod.snd ∨ ∃ burst ∈ bursts, burst.letter = letter
  copies : ∀ burst ∈ bursts, burst.letter ∈ letters ∧ 0 < burst.left ∧ now ≤ burst.due
  finished : bursts = [] → lastInstant start sent = now
  paced : policy.IsSteady → (∀ burst ∈ bursts, burst.KeepsPace policy start) ∧
    (letters ≠ [] → bursts = [] → policy.InPace start now)

namespace Sending

variable {C : Type} [Carrier C] {policy : RetryPolicy} {start now : Int} {letters : List Letter}
  {sent : List (Int × Letter)} {bursts : List Burst}

theorem opening (policy : RetryPolicy) (start : Int) (letters : List Letter) :
    Sending policy start letters [] start (letters.map (Burst.starting policy start)) where
  within := nofun
  covers letter mem := .inr ⟨_, List.mem_map_of_mem mem, rfl⟩
  copies burst mem := by
    obtain ⟨letter, letter_mem, rfl⟩ := List.mem_map.1 mem
    exact ⟨letter_mem, policy.copies_pos, Int.le_refl _⟩
  finished _ := rfl
  paced _ := by
    refine ⟨fun burst mem => ?_, fun some_letter none => ?_⟩
    · obtain ⟨letter, -, rfl⟩ := List.mem_map.1 mem
      refine ⟨rfl, Nat.le_refl _, ?_⟩
      simp [RetryPolicy.pace, Burst.starting, Time.after]
    · exact absurd (List.map_eq_nil_iff.1 none) some_letter

/-- Time passes, but no longer than until a burst is due. -/
theorem later (sending : Sending policy start letters sent now bursts) {instant : Int}
    (due : Burst.nextDue? bursts = some instant) {moment : Int} (timely : moment ≤ instant) :
    Sending policy start letters sent moment bursts := by
  have some_burst : bursts ≠ [] := fun none => by
    rw [none] at due
    exact nomatch due
  refine ⟨sending.within, sending.covers, fun burst mem => ?_, fun none => absurd none some_burst,
    fun steady => ⟨(sending.paced steady).1, fun _ none => absurd none some_burst⟩⟩
  obtain ⟨from_letters, some_left, -⟩ := sending.copies burst mem
  exact ⟨from_letters, some_left, Int.le_trans timely ((Burst.of_nextDue?_eq_some due).1 burst mem)⟩

/-- The bursts that are left are due at an instant that is not over. -/
theorem exists_due (sending : Sending policy start letters sent now bursts)
    (some_burst : bursts ≠ []) :
    ∃ instant, Burst.nextDue? bursts = some instant ∧ now ≤ instant := by
  obtain ⟨instant, due⟩ :=
    Option.ne_none_iff_exists'.1 (mt Burst.nextDue?_eq_none_iff.1 some_burst)
  obtain ⟨burst, mem, rfl⟩ := (Burst.of_nextDue?_eq_some due).2
  exact ⟨_, due, (sending.copies burst mem).2.2⟩

/-- When no burst is left, the letters have been sent, and the last copy has just gone out. -/
theorem told (sending : Sending policy start letters sent now []) :
    Told letters sent ∧ lastInstant start sent = now := by
  refine ⟨fun letter => ⟨sending.within letter, fun mem => ?_⟩, sending.finished rfl⟩
  rcases sending.covers letter mem with sent | ⟨burst, none, -⟩
  · exact sent
  · exact nomatch none

/-- The bursts go on. -/
theorem advanceAll (site : Site (Tapped C))
    (sending : Sending policy start letters sent site.now bursts) :
    ∃ given, site.Gives given (Burst.advanceAll site bursts).1 ∧
      Sending policy start letters (sent ++ given.map fun letter => (site.now, letter)) site.now
        (Burst.advanceAll site bursts).2 := by
  obtain ⟨given, gives, from_bursts, all_given, rests⟩ := Burst.gives_advanceAll bursts site
  obtain ⟨some_left, early⟩ :=
    Burst.left_advanceAll bursts site fun burst mem => (sending.copies burst mem).2.1
  have timely := Burst.now_le_due_advanceAll bursts site
  have all_due : (Burst.advanceAll site bursts).2 = [] → ∀ burst ∈ bursts, burst.due ≤ site.now := by
    intro none burst mem
    refine Decidable.byContradiction fun notDue => ?_
    have stays := early burst mem notDue
    rw [none] at stays
    exact nomatch stays
  have ledger : (sent ++ given.map fun letter => (site.now, letter)).map Prod.snd =
      sent.map Prod.snd ++ given := by
    simp [Function.comp_def]
  refine ⟨given, gives, ⟨fun letter mem => ?_, fun letter mem => ?_, fun rest mem => ?_,
    fun none => ?_, fun steady => ?_⟩⟩
  · rw [ledger] at mem
    rcases List.mem_append.1 mem with mem | mem
    · exact sending.within letter mem
    · obtain ⟨burst, burst_mem, rfl⟩ := from_bursts letter mem
      exact (sending.copies burst burst_mem).1
  · rw [ledger]
    rcases sending.covers letter mem with mem | ⟨burst, burst_mem, rfl⟩
    · exact .inl (List.mem_append_left _ mem)
    · by_cases due : burst.due ≤ site.now
      · have gone := all_given burst burst_mem due (sending.copies burst burst_mem).2.1
        exact .inl (List.mem_append_right _ gone)
      · exact .inr ⟨burst, early burst burst_mem due, rfl⟩
  · obtain ⟨burst, burst_mem, same⟩ := rests rest mem
    exact ⟨same ▸ (sending.copies burst burst_mem).1, some_left rest mem, timely rest mem⟩
  · cases bursts with
    | nil =>
      have nothing : given = [] := List.eq_nil_iff_forall_not_mem.2 fun letter mem => by
        obtain ⟨burst, burst_mem, -⟩ := from_bursts letter mem
        exact nomatch burst_mem
      rw [nothing, List.map_nil, List.append_nil]
      exact sending.finished rfl
    | cons burst bursts =>
      have mem : burst ∈ burst :: bursts := List.mem_cons_self ..
      have gone := all_given burst mem (all_due none burst mem) (sending.copies burst mem).2.1
      exact lastInstant_append start site.now sent (List.ne_nil_of_mem gone)
  · obtain ⟨pace, finished⟩ := sending.paced steady
    refine ⟨Burst.pace_advanceAll steady bursts site fun burst mem =>
      ⟨pace burst mem, (sending.copies burst mem).2.2⟩, fun some_letter none => ?_⟩
    cases bursts with
    | nil => exact finished some_letter rfl
    | cons burst bursts =>
      have mem : burst ∈ burst :: bursts := List.mem_cons_self ..
      obtain ⟨-, some_left, timely⟩ := sending.copies burst mem
      have now := Int.le_antisymm timely (all_due none burst mem)
      exact ⟨policy.copies - burst.left, Nat.sub_lt policy.copies_pos some_left,
        now.trans (pace burst mem).due_eq⟩

end Sending

/-! ## Ledgers of a course -/

namespace Course

variable {C : Type} [Carrier C]

/-- What the activity has given to the carrier, with the instants, oldest first. -/
def sent (course : Course (Tapped C)) : List (Int × Letter) :=
  course.turns.flatMap fun (site, activity) =>
    ((activity.advance site false).site.carrier.log.drop site.carrier.log.length).map
      fun letter => (site.now, letter)

/-- What the node was after each turn of the activity, with the instants, oldest first. -/
def marks (course : Course C) : List (Int × Node) :=
  course.turns.map fun (site, activity) => (site.now, (activity.advance site false).site.node)

theorem sent_goOn (course : Course (Tapped C)) {activity : Activity} {given : List Letter}
    (gives : course.site.Gives given (activity.advance course.site false).site) :
    (course.goOn activity).sent =
      course.sent ++ given.map fun letter => (course.site.now, letter) := by
  simp only [sent, goOn, List.flatMap_append, List.flatMap_singleton, gives.drop_eq]

theorem marks_goOn (course : Course C) (activity : Activity) :
    (course.goOn activity).marks =
      course.marks ++ [(course.site.now, (activity.advance course.site false).site.node)] := by
  simp only [marks, goOn, List.map_append, List.map_singleton]

end Course

end SumCluster
