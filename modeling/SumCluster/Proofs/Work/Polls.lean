import Mathlib.Algebra.Order.Floor.Div
import SumCluster.Proofs.Work.Polling

/-!
# Polls

Some work waits for what others bring: an election for answers, a write for acknowledgements, joining
for the state.  Such a wait polls, and polls again after a pause, until a time is over.  A ledger keeps
the polls of an activity, wait by wait (`Course.waits`).  As a pause is no shorter than the interval,
except the last one before the end, there are at most as many polls in time as intervals, rounded up
(`MayPoll.awaits`).  Nothing but the clock enters here, and it may be late: then there are fewer.
-/

namespace SumCluster

/-! ## When to poll -/

/-- What a wait is for. -/
inductive Awaited
  /-- The answers to the challenges of an election. -/
  | answers
  /-- The acknowledgements of a write. -/
  | acknowledgements
  /-- The state, in a round of joining. -/
  | state

namespace Awaited

variable (config : Config)

/-- How long something is awaited. -/
def window : Awaited → Nat
  | answers => config.electionTimeout
  | acknowledgements => 2 * config.requestTimeout
  | state => config.joinTimeout

/-- How often a wait polls at most.  When the time is over, an election and a write poll once more, and
a round of joining does not. -/
def pollLimit : Awaited → Nat
  | answers => config.electionTimeout ⌈/⌉ config.pollInterval + 1
  | acknowledgements => (2 * config.requestTimeout) ⌈/⌉ config.pollInterval + 1
  | state => config.joinTimeout ⌈/⌉ config.pollInterval

end Awaited

/-- The polls of a wait so far, latest first, leave room for another one at an instant.  The wait lasts
for a window from a start. -/
structure MayPoll (start : Int) (window interval : Nat) (polls : List Int) (instant : Int) :
    Prop where
  few : polls.length ≤ window ⌈/⌉ interval
  spaced : min (Time.after start (polls.length * interval)) (Time.after start window) ≤ instant
  begun : ∀ first ∈ (instant :: polls).getLast?, start ≤ first

/-- A wait that goes on polls again at an instant.  On a prompt clock that instant is not over. -/
structure Awaits (prompt : Prop) (start : Int) (window interval : Nat) (polls : List Int)
    (now again : Int) : Prop extends MayPoll start window interval polls again where
  soon : ∃ last ∈ polls.head?, again ≤ Time.after last interval
  bounded : again < Time.after start (window + interval)
  timely : prompt → now ≤ again

section Pace

variable {prompt : Prop} {start now again : Int} {window interval : Nat} {polls : List Int}

theorem mayPoll_nil (begun : start ≤ now) : MayPoll start window interval [] now where
  few := Nat.zero_le _
  spaced := by
    simp only [List.length_nil, Nat.zero_mul, Time.after]
    omega
  begun := by
    rintro _ ⟨⟩
    exact begun

theorem MayPoll.later (may : MayPoll start window interval polls again) (later : again ≤ now) :
    MayPoll start window interval polls now where
  few := may.few
  spaced := Int.le_trans may.spaced later
  begun := by
    cases polls with
    | nil =>
      rintro _ ⟨⟩
      exact Int.le_trans (may.begun again rfl) later
    | cons last polls =>
      have begun := may.begun
      rw [List.getLast?_cons_cons] at begun ⊢
      exact begun

theorem Awaits.pass (awaits : Awaits prompt start window interval polls now again) {moment : Int}
    (timely : prompt → moment ≤ again) :
    Awaits prompt start window interval polls moment again :=
  { awaits with timely }

/-- The next poll comes no later than a pause after the window that began with the first one. -/
theorem Awaits.exists_first (awaits : Awaits prompt start window interval polls now again) :
    ∃ first ∈ polls.getLast?, again < Time.after first (window + interval) := by
  obtain ⟨last, latest, -⟩ := awaits.soon
  obtain ⟨earlier, rfl⟩ := List.head?_eq_some_iff.1 latest
  have found := List.getLast?_eq_some_getLast (List.cons_ne_nil last earlier)
  have begun := awaits.begun
  rw [List.getLast?_cons_cons] at begun
  have begun := begun _ found
  have bounded := awaits.bounded
  refine ⟨_, found, ?_⟩
  unfold Time.after at *
  omega

/-- A poll before the time is over uses up an interval of it. -/
theorem MayPoll.length_lt (may : MayPoll start window interval polls now) (pos : 0 < interval)
    (early : now < Time.after start window) : polls.length < window ⌈/⌉ interval := by
  have spaced := may.spaced
  refine Nat.lt_of_not_le fun full => ?_
  have used : window ≤ interval * polls.length := (ceilDiv_le_iff_le_mul pos).1 full
  rw [Nat.mul_comm] at used
  unfold Time.after at spaced early
  omega

/-- A poll before the time is over is followed by another one after a pause. -/
theorem MayPoll.awaits (may : MayPoll start window interval polls now) (pos : 0 < interval)
    (early : now < Time.after start window)
    (pause : min (Time.after now interval) (Time.after start window) ≤ again)
    (soon : again ≤ Time.after now interval) :
    Awaits prompt start window interval (now :: polls) now again where
  few := may.length_lt pos early
  spaced := by
    have spaced := may.spaced
    simp only [List.length_cons, Nat.succ_mul, Time.after] at *
    omega
  begun := by
    rw [List.getLast?_cons_cons]
    exact may.begun
  soon := ⟨now, rfl, soon⟩
  bounded := by
    unfold Time.after at *
    omega
  timely _ := by
    unfold Time.after at *
    omega

end Pace

/-! ## The ledger -/

/-- Something that a turn adds to the ledger of polls. -/
inductive PollNote
  /-- A wait is prepared. -/
  | begun
  | polled (instant : Int)

namespace PollNote

/-- Adds to the polls of the waits so far, the latest wait first, and in it the latest poll first. -/
def enter : List (List Int) → PollNote → List (List Int)
  | waits, begun => [] :: waits
  | [], polled instant => [[instant]]
  | polls :: waits, polled instant => (instant :: polls) :: waits

theorem length_le_foldl_enter (notes : List PollNote) (waits : List (List Int)) :
    waits.length ≤ (notes.foldl enter waits).length := by
  induction notes generalizing waits with
  | nil => exact Nat.le_refl _
  | cons note notes ih =>
    refine Nat.le_trans ?_ (ih (enter waits note))
    cases note <;> cases waits <;> simp [enter]

end PollNote

variable {C : Type} [Carrier C]

namespace Contest

/-- Notes on a turn that sends challenges: when all are sent, the contender polls. -/
def notesOfChallenge (site : Site C) (bursts : List Burst) : List PollNote :=
  if (Burst.advanceAll site bursts).2.isEmpty then [.polled site.now] else []

/-- Notes on a turn of an election.  It waits if there is somebody to challenge. -/
def notes (site : Site C) : Contest → List PollNote
  | .opening =>
    match site.node.openElection? site.now with
    | none => []
    | some (_, []) => []
    | some (node, higher) =>
      .begun :: notesOfChallenge (site.withNode node)
        (((node.challenge site.now).toEach higher).map
          (Burst.starting node.config.retry site.now))
  | .challenging _ bursts => notesOfChallenge site bursts
  | .awaiting .. => if site.isCancelled then [] else [.polled site.now]
  | .announcing _ => []

/-- When an election polls again. -/
def again? : Contest → Option Int
  | .awaiting _ again => some again
  | _ => none

end Contest

namespace Watching

/-- Notes on a decision whether to elect. -/
def notesOfDecision (site : Site C) : List PollNote :=
  if site.node.suspectsPrimary site.now then Contest.opening.notes site else []

/-- Notes on a turn of a watch.  Without hesitation the node decides as soon as it looks. -/
def notes (site : Site C) : Watching → List PollNote
  | .looking due =>
    let wait := ElectionBackoff.wait site.node.config.id site.node.config.electionJitter
      site.moment.chance
    if !site.isCancelled && due ≤ site.now && wait = 0 then notesOfDecision site else []
  | .hesitating _ wake =>
    if !site.isCancelled && wake ≤ site.now then notesOfDecision site else []
  | .contesting _ contest => contest.notes site

/-- When the election of a watch polls again. -/
def again? : Watching → Option Int
  | .contesting _ contest => contest.again?
  | _ => none

end Watching

omit [Carrier C] in
/-- Notes on a turn of the wait for acknowledgements. -/
def AckWait.notes (site : Site C) : AckWait → List PollNote
  | .settled _ => []
  | .waiting _ again =>
    if site.isCancelled then [] else if again ≤ site.now then [.polled site.now] else []

namespace Replication

omit [Carrier C] in
/-- Notes on a turn of a write.  It polls as soon as it is applied. -/
def notes (site : Site C) : Replication → List PollNote
  | .opening delta number =>
    match site.node.startWrite site.now delta number with
    | .applied .. => [.begun, .polled site.now]
    | _ => []
  | .replicating _ _ _ acks => acks.notes site

/-- When a write polls again. -/
def again? : Replication → Option Int
  | .opening .. => none
  | .replicating _ _ _ acks => acks.again?

end Replication

namespace Joining

/-- Notes on the rounds of joining that start in a turn. -/
def notesOfRounds (site : Site C) : (rounds : Nat) → List PollNote
  | 0 => []
  | left + 1 =>
    match site.node.joinTarget? with
    | none => []
    | some address =>
      let (site, bursts) := site.sendAll [⟨address, site.node.joinRequest site.now⟩]
      .begun ::
        if !bursts.isEmpty then []
        else if Time.after site.now site.node.config.joinTimeout ≤ site.now then
          notesOfRounds site left
        else [.polled site.now]

/-- Notes on a turn in which the request is sent: the state is looked for until the deadline. -/
def notesOfWait (site : Site C) (left : Nat) (deadline : Int) : List PollNote :=
  if deadline ≤ site.now then notesOfRounds site left else [.polled site.now]

/-- Notes on a turn of joining. -/
def notes (site : Site C) : Joining → List PollNote
  | .starting rounds => notesOfRounds site rounds
  | .asking left bursts =>
    let (site, bursts) := Burst.advanceAll site bursts
    if bursts.isEmpty then
      notesOfWait site left (Time.after site.now site.node.config.joinTimeout)
    else []
  | .waiting left deadline _ => if site.isCancelled then [] else notesOfWait site left deadline

/-- When joining polls again. -/
def again? : Joining → Option Int
  | .waiting _ _ again => some again
  | _ => none

end Joining

namespace Activity

/-- Notes on a turn of an activity. -/
def notes (site : Site C) : Activity → List PollNote
  | contesting work => work.notes site
  | watching work => work.notes site
  | writing work | serving _ work => work.notes site
  | joining work => work.notes site
  | receiving | beating _ | sending _ | stopping _ => []

/-- When an activity polls again, if it is in a wait. -/
def again? : Activity → Option Int
  | contesting work => work.again?
  | watching work => work.again?
  | writing work | serving _ work => work.again?
  | joining work => work.again?
  | receiving | beating _ | sending _ | stopping _ => none

omit [Carrier C] in
/-- The ways to be in a wait. -/
theorem cases_of_again? {activity : Activity} {again : Int}
    (waiting : activity.again? = some again) :
    (∃ started, activity = contesting (.awaiting started again)) ∨
      (∃ due started, activity = watching (.contesting due (.awaiting started again))) ∨
      (∃ sum seqn bursts deadline,
        activity = writing (.replicating sum seqn bursts (.waiting deadline again))) ∨
      (∃ request sum seqn bursts deadline,
        activity = serving request (.replicating sum seqn bursts (.waiting deadline again))) ∨
      ∃ left deadline, activity = joining (.waiting left deadline again) := by
  have contests {contest : Contest} (waiting : contest.again? = some again) :
      ∃ started, contest = .awaiting started again := by
    cases contest with
    | awaiting started =>
      obtain rfl := Option.some.inj waiting
      exact ⟨started, rfl⟩
    | _ => exact nomatch waiting
  have writes {work : Replication} (waiting : work.again? = some again) :
      ∃ sum seqn bursts deadline, work = .replicating sum seqn bursts (.waiting deadline again) := by
    cases work with
    | opening => exact nomatch waiting
    | replicating sum seqn bursts acks =>
      cases acks with
      | settled => exact nomatch waiting
      | waiting deadline =>
        obtain rfl := Option.some.inj waiting
        exact ⟨sum, seqn, bursts, deadline, rfl⟩
  cases activity with
  | contesting =>
    obtain ⟨started, rfl⟩ := contests waiting
    exact .inl ⟨started, rfl⟩
  | watching work =>
    cases work with
    | contesting due =>
      obtain ⟨started, rfl⟩ := contests waiting
      exact .inr (.inl ⟨due, started, rfl⟩)
    | _ => exact nomatch waiting
  | writing =>
    obtain ⟨sum, seqn, bursts, deadline, rfl⟩ := writes waiting
    exact .inr (.inr (.inl ⟨sum, seqn, bursts, deadline, rfl⟩))
  | serving request =>
    obtain ⟨sum, seqn, bursts, deadline, rfl⟩ := writes waiting
    exact .inr (.inr (.inr (.inl ⟨request, sum, seqn, bursts, deadline, rfl⟩)))
  | joining work =>
    cases work with
    | waiting left deadline =>
      obtain rfl := Option.some.inj waiting
      exact .inr (.inr (.inr (.inr ⟨left, deadline, rfl⟩)))
    | _ => exact nomatch waiting
  | _ => exact nomatch waiting

end Activity

namespace Course

/-- The instants of the polls that an activity has made, wait by wait, the latest wait first, and in it
the latest poll first. -/
def waits (course : Course C) : List (List Int) :=
  (course.turns.flatMap fun (site, activity) => activity.notes site).foldl PollNote.enter []

theorem waits_goOn (course : Course C) (activity : Activity) :
    (course.goOn activity).waits =
      (activity.notes course.site).foldl PollNote.enter course.waits := by
  simp only [waits, goOn, List.flatMap_append, List.flatMap_singleton, List.foldl_append]

omit [Carrier C] in
/-- When the activity polls again, if it is in a wait. -/
def again? (course : Course C) : Option Int :=
  match course.progress with
  | .going activity => activity.again?
  | .done _ => none

omit [Carrier C] in
theorem of_again? {course : Course C} {again : Int} (waiting : course.again? = some again) :
    ∃ activity, course.progress = .going activity ∧ activity.again? = some again := by
  unfold again? at waiting
  split at waiting
  · exact ⟨_, ‹_›, waiting⟩
  · exact nomatch waiting

end Course

end SumCluster
