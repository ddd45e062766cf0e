import SumCluster.Proofs.Work.Polls

/-!
# Waits come to an end

An activity that waits depends on the clock, but on nothing else that happens to its member: messages,
elections that are begun or ended elsewhere, nodes that come and go, a stop.  On a clock that may be
late (`Course.LateStep`) each turn keeps the polls of a wait and the rounds of joining within their
limits (`Activity.keeps_advance`), and leaves fewer polls or fewer copies to a wait that it does not end
(`Activity.nears`).  So every wait ends, and polls as often as its window has intervals, give or take the
last one (`Course.waits_end`).
-/

namespace SumCluster

/-- What is left of work, if anything, has a property. -/
def Progress.Leaves {α β : Type} (P : α → Prop) : Progress α β → Prop
  | .going work => P work
  | .done _ => True

theorem Progress.Leaves.map {α α' β β' : Type} {P : α → Prop} {Q : α' → Prop}
    {progress : Progress α β} (leaves : progress.Leaves P) {change : α → α'} {result : β → β'}
    (implies : ∀ work, P work → Q (change work)) :
    ((progress.mapWork change).mapResult result).Leaves Q := by
  cases progress with
  | going work => exact implies work leaves
  | done => trivial

theorem Progress.of_map_eq_going {α α' β β' : Type} {progress : Progress α β} {change : α → α'}
    {result : β → β'} {next : α'}
    (goes : (progress.mapWork change).mapResult result = .going next) :
    ∃ work, progress = .going work ∧ next = change work := by
  cases progress with
  | going work => exact ⟨work, rfl, (Progress.going.inj goes).symm⟩
  | done => exact nomatch goes

/-! ## Limits -/

/-- The waits so far are within their limits. -/
structure WithinLimits (config : Config) (awaited : Awaited) (waits : List (List Int)) : Prop where
  few : ∀ polls ∈ waits, polls.length ≤ awaited.pollLimit config
  rounds : awaited = .state → waits.length ≤ max config.joinAttempts 1

/-- A turn keeps to the limits, and what it leaves stands well with the waits so far. -/
structure KeepsLimits {C α β : Type} (config : Config) (awaited : Awaited)
    (Stands : List (List Int) → Int → α → Prop) (waits : List (List Int))
    (turn : Site C × Progress α β) : Prop where
  within : WithinLimits config awaited waits
  leaves : turn.2.Leaves (Stands waits turn.1.now)

section Limits

variable {config : Config} {awaited : Awaited} {polls : List Int} {waits : List (List Int)}

theorem WithinLimits.begun (within : WithinLimits config awaited waits)
    (room : awaited = .state → waits.length < max config.joinAttempts 1) :
    WithinLimits config awaited ([] :: waits) :=
  ⟨List.forall_mem_cons.2 ⟨Nat.zero_le _, within.few⟩, room⟩

theorem WithinLimits.polled (within : WithinLimits config awaited (polls :: waits))
    (room : polls.length < awaited.pollLimit config) (now : Int) :
    WithinLimits config awaited ((now :: polls) :: waits) :=
  ⟨List.forall_mem_cons.2 ⟨room, (List.forall_mem_cons.1 within.few).2⟩, within.rounds⟩

end Limits

variable {C : Type} {prompt : Prop} {config : Config} {site : Site C}
  {waits rest : List (List Int)} {polls : List Int} {start instant now : Int}

/-- What is due at an instant, or at once if the work is to end. -/
theorem le_now_of_due {again : Int}
    (due : some (if site.isCancelled then site.now else again) = some instant)
    (come : instant ≤ site.now) (active : site.isCancelled = false) : again ≤ site.now := by
  rw [active] at due
  obtain rfl := Option.some.inj due
  exact come

/-! ## Elections -/

namespace Contest

/-- How an election stands after some polls. -/
def Stands (prompt : Prop) (config : Config) (waits : List (List Int)) (now : Int) :
    Contest → Prop
  | .challenging started _ => waits.head? = some [] ∧ started ≤ now
  | .awaiting started again => ∃ polls ∈ waits.head?,
      Awaits prompt started config.electionTimeout config.pollInterval polls now again
  | .opening | .announcing _ => True

/-- Time may pass. -/
theorem Stands.pass {contest : Contest} (stands : contest.Stands prompt config waits now)
    {moment : Int} (later : now ≤ moment)
    (timely : prompt → ∀ again ∈ contest.again?, moment ≤ again) :
    contest.Stands prompt config waits moment := by
  cases contest with
  | opening => trivial
  | challenging => exact ⟨stands.1, Int.le_trans stands.2 later⟩
  | awaiting started again =>
    obtain ⟨polls, current, awaits⟩ := stands
    exact ⟨polls, current, awaits.pass fun prompt => timely prompt again rfl⟩
  | announcing => trivial

variable [Carrier C]

theorem leaves_announce (site : Site C) (bursts : List Burst) (now : Int) :
    (announce site bursts).2.Leaves (Stands prompt config waits now) := by
  simp only [announce]
  split <;> trivial

theorem leaves_claim (site : Site C) (now : Int) :
    (claim site).2.Leaves (Stands prompt config waits now) := by
  unfold claim
  split
  · trivial
  · exact leaves_announce _ _ now

theorem keeps_look (own : site.node.config = config) (pos : 0 < config.pollInterval)
    (within : WithinLimits config .answers (polls :: rest))
    (may : MayPoll start config.electionTimeout config.pollInterval polls site.now) :
    KeepsLimits config .answers (Stands prompt config) ((site.now :: polls) :: rest)
      (look site start) := by
  refine ⟨within.polled (Nat.lt_succ_of_le may.few) site.now, ?_⟩
  unfold look
  cases found : site.node.pollElection start site.now with
  | unanswered => exact leaves_claim site _
  | again next =>
    dsimp only
    split
    · trivial
    · simp only [Node.pollElection, own] at found
      split at found
      · exact nomatch found
      · split at found
        · exact nomatch found
        · rename_i early
          obtain rfl := Node.ElectionPoll.again.inj found
          exact ⟨_, rfl, may.awaits pos (Int.not_le.1 early) (Int.le_refl _) (Int.min_le_left _ _)⟩
  | _ => trivial

theorem keeps_challenge (own : site.node.config = config) (pos : 0 < config.pollInterval)
    (begun : start ≤ site.now) (bursts : List Burst)
    (within : WithinLimits config .answers ([] :: rest)) :
    KeepsLimits config .answers (Stands prompt config)
      ((notesOfChallenge site bursts).foldl PollNote.enter ([] :: rest))
      (challenge site start bursts) := by
  obtain ⟨carrier, left, sent_eq⟩ := Burst.exists_advanceAll_eq bursts site
  simp only [challenge, notesOfChallenge, sent_eq]
  cases left with
  | nil =>
    have own : (site.withCarrier carrier).node.config = config := own
    exact keeps_look own pos within (mayPoll_nil begun)
  | cons burst left => exact ⟨within, rfl, begun⟩

theorem keeps_begin (own : site.node.config = config) (pos : 0 < config.pollInterval)
    (within : WithinLimits config .answers waits) :
    KeepsLimits config .answers (Stands prompt config)
      ((notes site .opening).foldl PollNote.enter waits) (begin site) := by
  unfold begin notes
  cases opens : site.node.openElection? site.now with
  | none => exact ⟨within, trivial⟩
  | some opened =>
    obtain ⟨node, higher⟩ := opened
    have own : (site.withNode node).node.config = config := by
      obtain ⟨-, -, rfl⟩ := Node.of_openElection? opens
      exact own
    cases higher with
    | nil => exact ⟨within, leaves_claim _ _⟩
    | cons => exact keeps_challenge own pos (Int.le_refl _) _ (within.begun nofun)

theorem keeps_advance (own : site.node.config = config) (pos : 0 < config.pollInterval)
    {contest : Contest} (within : WithinLimits config .answers waits)
    (stands : contest.Stands prompt config waits site.now)
    (due : contest.due? site = some instant) (come : instant ≤ site.now) :
    KeepsLimits config .answers (Stands prompt config)
      ((contest.notes site).foldl PollNote.enter waits) (contest.advance site) := by
  cases contest with
  | opening => exact keeps_begin own pos within
  | challenging started bursts =>
    obtain ⟨fresh, begun⟩ := stands
    obtain ⟨rest, rfl⟩ := List.head?_eq_some_iff.1 fresh
    exact keeps_challenge own pos begun bursts within
  | awaiting started again =>
    obtain ⟨polls, current, awaits⟩ := stands
    obtain ⟨rest, rfl⟩ := List.head?_eq_some_iff.1 current
    simp only [due?, advance, notes] at due ⊢
    cases active : site.isCancelled with
    | true => exact ⟨within, trivial⟩
    | false => exact keeps_look own pos within (awaits.later (le_now_of_due due come active))
  | announcing bursts => exact ⟨within, leaves_announce site bursts _⟩

end Contest

/-! ## Watches -/

namespace Watching

/-- How the election of a watch stands after some polls. -/
def Stands (prompt : Prop) (config : Config) (waits : List (List Int)) (now : Int) :
    Watching → Prop
  | .contesting _ contest => contest.Stands prompt config waits now
  | .looking _ | .hesitating .. => True

/-- Time may pass. -/
theorem Stands.pass {watching : Watching} (stands : watching.Stands prompt config waits now)
    {moment : Int} (later : now ≤ moment)
    (timely : prompt → ∀ again ∈ watching.again?, moment ≤ again) :
    watching.Stands prompt config waits moment := by
  cases watching with
  | looking => trivial
  | hesitating => trivial
  | contesting due contest => exact Contest.Stands.pass stands later timely

variable [Carrier C]

theorem keeps_contest (due : Int) {election : Contest}
    (keeps : KeepsLimits config .answers (Contest.Stands prompt config) waits
      (election.advance site)) :
    KeepsLimits config .answers (Stands prompt config) waits (contest site due election) := by
  refine ⟨keeps.within, ?_⟩
  have leaves := keeps.leaves
  unfold contest
  split
  · rename_i same
    rw [same] at leaves
    exact leaves
  · trivial

theorem keeps_decide (own : site.node.config = config) (pos : 0 < config.pollInterval) (next : Int)
    (within : WithinLimits config .answers waits) :
    KeepsLimits config .answers (Stands prompt config)
      ((notesOfDecision site).foldl PollNote.enter waits) (Watching.decide site next) := by
  unfold Watching.decide notesOfDecision
  split
  · exact keeps_contest next (Contest.keeps_begin own pos within)
  · exact ⟨within, trivial⟩

theorem keeps_look (own : site.node.config = config) (pos : 0 < config.pollInterval) (next : Int)
    (within : WithinLimits config .answers waits) :
    let wait := ElectionBackoff.wait site.node.config.id site.node.config.electionJitter
      site.moment.chance
    KeepsLimits config .answers (Stands prompt config)
      ((if wait = 0 then notesOfDecision site else []).foldl PollNote.enter waits)
      (look site next) := by
  intro wait
  simp only [look]
  cases suspects : site.node.suspectsPrimary site.now with
  | false =>
    have none : notesOfDecision site = [] := by simp [notesOfDecision, suspects]
    rw [none, ite_self]
    exact ⟨within, trivial⟩
  | true =>
    simp only [Bool.not_true, Bool.false_eq_true, if_false]
    by_cases hasty : wait = 0
    · rw [if_pos hasty, if_pos hasty]
      exact keeps_decide own pos _ within
    · rw [if_neg hasty, if_neg hasty]
      exact ⟨within, trivial⟩

theorem keeps_advance (own : site.node.config = config) (pos : 0 < config.pollInterval)
    {watching : Watching} (within : WithinLimits config .answers waits)
    (stands : watching.Stands prompt config waits site.now)
    (due : watching.due? site = some instant) (come : instant ≤ site.now) :
    KeepsLimits config .answers (Stands prompt config)
      ((watching.notes site).foldl PollNote.enter waits) (watching.advance site) := by
  cases watching with
  | contesting => exact keeps_contest _ (Contest.keeps_advance own pos within stands due come)
  | looking next =>
    simp only [due?, advance, notes] at due ⊢
    cases active : site.isCancelled with
    | true => exact ⟨within, trivial⟩
    | false =>
      have come := le_now_of_due due come active
      simpa [come] using keeps_look own pos next within
  | hesitating next wake =>
    simp only [due?, advance, notes] at due ⊢
    cases active : site.isCancelled with
    | true => exact ⟨within, trivial⟩
    | false =>
      have come := le_now_of_due due come active
      simpa [come] using keeps_decide own pos next within

end Watching

/-! ## Writes -/

/-- How the wait for acknowledgements stands after some polls. -/
def AckWait.Stands (prompt : Prop) (config : Config) (waits : List (List Int)) (now : Int) :
    AckWait → Prop
  | .waiting deadline again => ∃ start, deadline = Time.after start config.ackTimeout ∧
      ∃ polls ∈ waits.head?,
        Awaits prompt start config.ackTimeout config.pollInterval polls now again
  | .settled _ => True

namespace Replication

/-- How a write stands after some polls. -/
def Stands (prompt : Prop) (config : Config) (waits : List (List Int)) (now : Int) :
    Replication → Prop
  | .opening .. => True
  | .replicating _ _ _ acks => acks.Stands prompt config waits now

/-- Time may pass. -/
theorem Stands.pass {work : Replication} (stands : work.Stands prompt config waits now)
    {moment : Int} (timely : prompt → ∀ again ∈ work.again?, moment ≤ again) :
    work.Stands prompt config waits moment := by
  cases work with
  | opening => trivial
  | replicating sum seqn bursts acks =>
    cases acks with
    | settled => trivial
    | waiting deadline again =>
      obtain ⟨start, window, polls, current, awaits⟩ := stands
      exact ⟨start, window, polls, current, awaits.pass fun prompt => timely prompt again rfl⟩

theorem stands_look (own : site.node.config = config) (pos : 0 < config.pollInterval)
    (seqn : Seqn) (may : MayPoll start config.ackTimeout config.pollInterval polls site.now) :
    (look site seqn (Time.after start config.ackTimeout)).2.Stands prompt config
      ((site.now :: polls) :: rest) site.now := by
  unfold look Node.pollAcks
  simp only
  by_cases complete : (site.node.missingAcks seqn).isEmpty
  · rw [if_pos complete]
    trivial
  · rw [if_neg complete]
    by_cases closed : Time.after start config.ackTimeout ≤ site.now
    · rw [if_pos closed]
      trivial
    · rw [if_neg closed]
      simp only [own]
      split
      · trivial
      · exact ⟨start, rfl, _, rfl, may.awaits pos (Int.not_le.1 closed) (Int.min_le_left _ _)
          (Int.le_refl _)⟩

theorem keeps_remaining (sum : Int64) (seqn : Seqn) (bursts : List Burst) {acks : AckWait}
    (within : WithinLimits config .acknowledgements waits)
    (stands : acks.Stands prompt config waits site.now) :
    KeepsLimits config .acknowledgements (Stands prompt config) waits
      (remaining site sum seqn bursts acks) := by
  refine ⟨within, ?_⟩
  unfold remaining
  split
  · trivial
  · exact stands

theorem stands_advanceAcks (own : site.node.config = config) (pos : 0 < config.pollInterval)
    (seqn : Seqn) {acks : AckWait} (within : WithinLimits config .acknowledgements waits)
    (stands : acks.Stands prompt config waits site.now) :
    WithinLimits config .acknowledgements ((acks.notes site).foldl PollNote.enter waits) ∧
      (advanceAcks site seqn acks).2.Stands prompt config
        ((acks.notes site).foldl PollNote.enter waits) site.now := by
  cases acks with
  | settled => exact ⟨within, trivial⟩
  | waiting deadline again =>
    obtain ⟨start, rfl, polls, current, awaits⟩ := stands
    obtain ⟨rest, rfl⟩ := List.head?_eq_some_iff.1 current
    simp only [advanceAcks, AckWait.notes]
    cases site.isCancelled with
    | true => exact ⟨within, trivial⟩
    | false =>
      simp only [Bool.false_eq_true, if_false]
      by_cases come : again ≤ site.now
      · rw [if_pos come, if_pos come]
        exact ⟨within.polled (Nat.lt_succ_of_le awaits.few) site.now,
          stands_look own pos seqn (awaits.later come)⟩
      · rw [if_neg come, if_neg come]
        exact ⟨within, start, rfl, polls, rfl, awaits⟩

variable [Carrier C]

theorem keeps_begin (own : site.node.config = config) (pos : 0 < config.pollInterval)
    (within : WithinLimits config .acknowledgements waits) (delta : Int64)
    (number : Option Seqn) :
    KeepsLimits config .acknowledgements (Stands prompt config)
      ((notes site (.opening delta number)).foldl PollNote.enter waits)
      (begin site delta number) := by
  simp only [begin, notes]
  cases starts : site.node.startWrite site.now delta number with
  | refused => exact ⟨within, trivial⟩
  | repeated => exact ⟨within, trivial⟩
  | applied next write =>
    have own : next.config = config := (Node.Deed.write starts).config_eq.trans own
    obtain ⟨carrier, left, sent_eq⟩ := Burst.exists_advanceAll_eq
      (write.letters.map (Burst.starting next.config.retry site.now)) (site.withNode next)
    have sends : (site.withNode next).sendAll write.letters =
      ((site.withNode next).withCarrier carrier, left) := sent_eq
    simp only [sends, own]
    have begun : WithinLimits config .acknowledgements ([] :: waits) :=
      within.begun fun other => by cases other
    refine keeps_remaining _ _ _ (begun.polled (Nat.succ_pos _) site.now) ?_
    rw [now_look]
    exact @stands_look C prompt config ((site.withNode next).withCarrier carrier) waits []
      site.now own pos write.seqn (mayPoll_nil (Int.le_refl _))

theorem keeps_advance (own : site.node.config = config) (pos : 0 < config.pollInterval)
    {work : Replication} (within : WithinLimits config .acknowledgements waits)
    (stands : work.Stands prompt config waits site.now) :
    KeepsLimits config .acknowledgements (Stands prompt config)
      ((work.notes site).foldl PollNote.enter waits) (work.advance site) := by
  cases work with
  | opening delta number => exact keeps_begin own pos within delta number
  | replicating sum seqn bursts acks =>
    obtain ⟨carrier, left, sent_eq⟩ := Burst.exists_advanceAll_eq bursts site
    obtain ⟨within, stands⟩ := @stands_advanceAcks C prompt config (site.withCarrier carrier)
      waits own pos seqn acks within stands
    simp only [advance, notes, sent_eq]
    refine keeps_remaining _ _ _ within ?_
    rw [now_advanceAcks]
    exact stands

end Replication

/-! ## Joining -/

namespace Joining

/-- How joining stands after some polls, wait by wait. -/
def Stands (prompt : Prop) (config : Config) (waits : List (List Int)) (now : Int) :
    Joining → Prop
  | .starting rounds => waits.length + rounds ≤ max config.joinAttempts 1
  | .asking left _ => waits.head? = some [] ∧ waits.length + left ≤ max config.joinAttempts 1
  | .waiting left deadline again =>
    (∃ start, deadline = Time.after start config.joinTimeout ∧ ∃ polls ∈ waits.head?,
      Awaits prompt start config.joinTimeout config.pollInterval polls now again) ∧
      waits.length + left ≤ max config.joinAttempts 1

/-- Time may pass. -/
theorem Stands.pass {joining : Joining} (stands : joining.Stands prompt config waits now)
    {moment : Int} (timely : prompt → ∀ again ∈ joining.again?, moment ≤ again) :
    joining.Stands prompt config waits moment := by
  cases joining with
  | starting => exact stands
  | asking => exact stands
  | waiting left deadline again =>
    obtain ⟨⟨start, window, polls, current, awaits⟩, room⟩ := stands
    exact ⟨⟨start, window, polls, current, awaits.pass fun prompt => timely prompt again rfl⟩,
      room⟩

theorem keeps_look (own : site.node.config = config) (pos : 0 < config.pollInterval)
    (within : WithinLimits config .state (polls :: rest)) {left : Nat}
    (room : (polls :: rest).length + left ≤ max config.joinAttempts 1)
    (may : MayPoll start config.joinTimeout config.pollInterval polls site.now)
    (early : site.now < Time.after start config.joinTimeout) :
    KeepsLimits config .state (Stands prompt config) ((site.now :: polls) :: rest)
      (look site left (Time.after start config.joinTimeout)) := by
  refine ⟨within.polled (may.length_lt pos early) site.now, ?_⟩
  unfold look
  split
  · trivial
  · rw [own]
    exact ⟨⟨start, rfl, _, rfl, may.awaits pos early (Int.min_le_left _ _) (Int.le_refl _)⟩, room⟩

variable [Carrier C]

/-- The wait goes on, or the next round starts. -/
theorem keeps_wait (own : site.node.config = config) (pos : 0 < config.pollInterval)
    (within : WithinLimits config .state (polls :: rest)) {left : Nat}
    (room : (polls :: rest).length + left ≤ max config.joinAttempts 1)
    (may : MayPoll start config.joinTimeout config.pollInterval polls site.now)
    (goesOn : KeepsLimits config .state (Stands prompt config)
      ((notesOfRounds site left).foldl PollNote.enter (polls :: rest)) (startRounds site left)) :
    KeepsLimits config .state (Stands prompt config)
      ((notesOfWait site left (Time.after start config.joinTimeout)).foldl PollNote.enter
        (polls :: rest))
      (wait site left (Time.after start config.joinTimeout)) := by
  unfold wait notesOfWait
  by_cases closed : Time.after start config.joinTimeout ≤ site.now
  · rw [if_pos closed, if_pos closed]
    exact goesOn
  · rw [if_neg closed, if_neg closed]
    exact keeps_look own pos within room may (Int.not_le.1 closed)

/-- The request has been sent, and the wait begins. -/
theorem keeps_sent (own : site.node.config = config) (pos : 0 < config.pollInterval)
    (within : WithinLimits config .state ([] :: rest)) {left : Nat}
    (room : ([] :: rest).length + left ≤ max config.joinAttempts 1)
    (goesOn : KeepsLimits config .state (Stands prompt config)
      ((notesOfRounds site left).foldl PollNote.enter ([] :: rest)) (startRounds site left)) :
    KeepsLimits config .state (Stands prompt config)
      ((notesOfWait site left (Time.after site.now site.node.config.joinTimeout)).foldl
        PollNote.enter ([] :: rest))
      (wait site left (Time.after site.now site.node.config.joinTimeout)) := by
  rw [own]
  exact keeps_wait own pos within room (mayPoll_nil (Int.le_refl _)) goesOn

theorem keeps_startRounds (pos : 0 < config.pollInterval) (rounds : Nat) {site : Site C}
    (own : site.node.config = config) {waits : List (List Int)}
    (within : WithinLimits config .state waits)
    (room : waits.length + rounds ≤ max config.joinAttempts 1) :
    KeepsLimits config .state (Stands prompt config)
      ((notesOfRounds site rounds).foldl PollNote.enter waits) (startRounds site rounds) := by
  -- without a window a round is over as soon as the request is sent, and the next one starts in the
  -- same turn
  induction rounds generalizing site waits with
  | zero => exact ⟨within, trivial⟩
  | succ left ih =>
    unfold startRounds notesOfRounds
    cases site.node.joinTarget? with
    | none => exact ⟨within, trivial⟩
    | some address =>
      obtain ⟨carrier, bursts, sent_eq⟩ := Burst.exists_advanceAll_eq
        ([⟨address, site.node.joinRequest site.now⟩].map
          (Burst.starting site.node.config.retry site.now)) site
      have sends : site.sendAll [⟨address, site.node.joinRequest site.now⟩] =
        (site.withCarrier carrier, bursts) := sent_eq
      have begun : WithinLimits config .state ([] :: waits) := within.begun fun _ => by omega
      have room : ([] :: waits).length + left ≤ max config.joinAttempts 1 := by
        rw [List.length_cons]
        omega
      have own : (site.withCarrier carrier).node.config = config := own
      simp only [sends]
      cases bursts with
      | cons burst bursts => exact ⟨begun, rfl, room⟩
      | nil => exact keeps_sent own pos begun room (ih own begun room)

theorem keeps_advance (own : site.node.config = config) (pos : 0 < config.pollInterval)
    {joining : Joining} (within : WithinLimits config .state waits)
    (stands : joining.Stands prompt config waits site.now)
    (due : joining.due? site = some instant) (come : instant ≤ site.now) :
    KeepsLimits config .state (Stands prompt config)
      ((joining.notes site).foldl PollNote.enter waits) (joining.advance site) := by
  cases joining with
  | starting rounds => exact keeps_startRounds pos rounds own within stands
  | asking left bursts =>
    obtain ⟨fresh, room⟩ := stands
    obtain ⟨rest, rfl⟩ := List.head?_eq_some_iff.1 fresh
    obtain ⟨carrier, bursts, sent_eq⟩ := Burst.exists_advanceAll_eq bursts site
    have own : (site.withCarrier carrier).node.config = config := own
    simp only [advance, notes, sent_eq]
    cases bursts with
    | cons burst bursts => exact ⟨within, rfl, room⟩
    | nil => exact keeps_sent own pos within room (keeps_startRounds pos left own within room)
  | waiting left deadline again =>
    obtain ⟨⟨start, rfl, polls, current, awaits⟩, room⟩ := stands
    obtain ⟨rest, rfl⟩ := List.head?_eq_some_iff.1 current
    simp only [due?, advance, notes] at due ⊢
    cases active : site.isCancelled with
    | true => exact ⟨within, trivial⟩
    | false =>
      exact keeps_wait own pos within room (awaits.later (le_now_of_due due come active))
        (keeps_startRounds pos left own within room)

end Joining

/-! ## Activities -/

/-- How an activity that awaits something stands after some polls. -/
inductive Activity.Stands (prompt : Prop) (config : Config) (waits : List (List Int)) (now : Int) :
    Awaited → Activity → Prop
  | contesting {work : Contest} (stands : work.Stands prompt config waits now) :
    Stands prompt config waits now .answers (.contesting work)
  | watching {work : Watching} (stands : work.Stands prompt config waits now) :
    Stands prompt config waits now .answers (.watching work)
  | writing {work : Replication} (stands : work.Stands prompt config waits now) :
    Stands prompt config waits now .acknowledgements (.writing work)
  | serving {request : ClientRequest} {work : Replication}
    (stands : work.Stands prompt config waits now) :
    Stands prompt config waits now .acknowledgements (.serving request work)
  | joining {work : Joining} (stands : work.Stands prompt config waits now) :
    Stands prompt config waits now .state (.joining work)

namespace Activity

variable {awaited : Awaited} {activity : Activity} {again : Int}

/-- What an activity in a wait has polled, and when it polls again. -/
theorem Stands.awaits (stands : activity.Stands prompt config waits now awaited)
    (waiting : activity.again? = some again) :
    ∃ start, ∃ polls ∈ waits.head?,
      Awaits prompt start (awaited.window config) config.pollInterval polls now again := by
  rcases cases_of_again? waiting with ⟨started, rfl⟩ | ⟨tick, started, rfl⟩ |
    ⟨sum, seqn, bursts, deadline, rfl⟩ | ⟨request, sum, seqn, bursts, deadline, rfl⟩ |
    ⟨left, deadline, rfl⟩
  · cases stands with
    | contesting stands => exact ⟨started, stands⟩
  · cases stands with
    | watching stands => exact ⟨started, stands⟩
  · cases stands with
    | writing stands =>
      obtain ⟨start, -, awaits⟩ := stands
      exact ⟨start, awaits⟩
  · cases stands with
    | serving stands =>
      obtain ⟨start, -, awaits⟩ := stands
      exact ⟨start, awaits⟩
  · cases stands with
    | joining stands =>
      obtain ⟨⟨start, -, awaits⟩, -⟩ := stands
      exact ⟨start, awaits⟩

/-- Time may pass. -/
theorem Stands.pass (stands : activity.Stands prompt config waits now awaited) {moment : Int}
    (later : now ≤ moment) (timely : prompt → ∀ again ∈ activity.again?, moment ≤ again) :
    activity.Stands prompt config waits moment awaited := by
  cases stands with
  | contesting stands => exact .contesting (stands.pass later timely)
  | watching stands => exact .watching (stands.pass later timely)
  | writing stands => exact .writing (stands.pass timely)
  | serving stands => exact .serving (stands.pass timely)
  | joining stands => exact .joining (stands.pass timely)

/-- A turn of an activity keeps its waits within the limits. -/
theorem keeps_advance [Carrier C] (own : site.node.config = config)
    (pos : 0 < config.pollInterval) (within : WithinLimits config awaited waits)
    (stands : activity.Stands prompt config waits site.now awaited)
    (due : activity.due? site false = some instant) (come : instant ≤ site.now) :
    KeepsLimits config awaited (Stands prompt config · · awaited)
      ((activity.notes site).foldl PollNote.enter waits)
      ((activity.advance site false).site, (activity.advance site false).progress) := by
  cases stands with
  | contesting stands =>
    obtain ⟨within, leaves⟩ := Contest.keeps_advance own pos within stands due come
    exact ⟨within, leaves.map fun _ => .contesting⟩
  | watching stands =>
    obtain ⟨within, leaves⟩ := Watching.keeps_advance own pos within stands due come
    exact ⟨within, leaves.map fun _ => .watching⟩
  | writing stands =>
    obtain ⟨within, leaves⟩ := Replication.keeps_advance own pos within stands
    exact ⟨within, leaves.map fun _ => .writing⟩
  | serving stands =>
    obtain ⟨within, leaves⟩ := Replication.keeps_advance own pos within stands
    exact ⟨within, leaves.map fun _ => .serving⟩
  | joining stands =>
    obtain ⟨within, leaves⟩ := Joining.keeps_advance own pos within stands due come
    exact ⟨within, leaves.map fun _ => .joining⟩

end Activity

/-! ## Nearer to the end -/

/-- How many polls are left to the latest wait. -/
def pollsLeft (limit : Nat) (waits : List (List Int)) : Nat :=
  limit - (waits.head?.getD []).length

theorem WithinLimits.pollsLeft_lt {awaited : Awaited}
    (within : WithinLimits config awaited ((now :: polls) :: rest)) :
    pollsLeft (awaited.pollLimit config) ((now :: polls) :: rest) <
      pollsLeft (awaited.pollLimit config) (polls :: rest) := by
  have few := within.few (now :: polls) (List.mem_cons_self ..)
  simp only [pollsLeft, List.head?_cons, Option.getD_some, List.length_cons] at few ⊢
  omega

/-- How much is left to be sent beside a wait. -/
def Replication.unsent : Replication → Nat
  | .opening .. => 0
  | .replicating _ _ bursts _ => Burst.load bursts

/-- How much an activity has left to send beside a wait. -/
def Activity.unsent : Activity → Nat
  | writing work | serving _ work => work.unsent
  | _ => 0

/-- A turn in the wait for acknowledgements ends it, polls, or sends a copy. -/
theorem Replication.nears [Carrier C] {sum : Int64} {seqn : Seqn} {bursts : List Burst}
    {deadline again : Int} {later : Replication}
    (due : (replicating sum seqn bursts (.waiting deadline again)).due? site = some instant)
    (come : instant ≤ site.now)
    (within : WithinLimits config .acknowledgements
      (((replicating sum seqn bursts (.waiting deadline again)).notes site).foldl PollNote.enter
        (polls :: rest)))
    (goes : ((replicating sum seqn bursts (.waiting deadline again)).advance site).2 =
      .going later)
    (still : later.again?.isSome) :
    pollsLeft (Awaited.acknowledgements.pollLimit config)
        (((replicating sum seqn bursts (.waiting deadline again)).notes site).foldl
          PollNote.enter (polls :: rest)) + later.unsent <
      pollsLeft (Awaited.acknowledgements.pollLimit config) (polls :: rest) +
        Burst.load bursts := by
  obtain ⟨sends, sends_lt⟩ := Burst.load_advanceAll_le bursts site
  obtain ⟨carrier, left, sent_eq⟩ := Burst.exists_advanceAll_eq bursts site
  rw [sent_eq] at sends sends_lt
  have rest_eq : later = .replicating sum seqn left
      (advanceAcks (site.withCarrier carrier) seqn (.waiting deadline again)).2 := by
    simp only [advance, sent_eq, remaining] at goes
    split at goes
    · cases goes
    · exact (Progress.going.inj goes).symm
  subst rest_eq
  simp only [notes, AckWait.notes] at within ⊢
  cases active : site.isCancelled with
  | true =>
    have cancelled : (site.withCarrier carrier).isCancelled = true := active
    simp [again?, advanceAcks, cancelled, AckWait.again?] at still
  | false =>
    rw [active] at within
    simp only [Bool.false_eq_true, if_false] at within ⊢
    -- a turn before the time to poll is there because a copy is due
    by_cases time : again ≤ site.now
    · rw [if_pos time] at within ⊢
      exact Nat.add_lt_add_of_lt_of_le within.pollsLeft_lt sends
    · rw [if_neg time] at within ⊢
      refine Nat.add_lt_add_of_le_of_lt (Nat.le_refl _) (sends_lt ?_)
      simp only [due?, active, Bool.false_eq_true, if_false] at due
      rcases (of_earlier?_eq_some due).2.2 with first | first
      · obtain ⟨burst, mem, rfl⟩ := (Burst.of_nextDue?_eq_some first).2
        exact ⟨burst, mem, come⟩
      · obtain rfl := Option.some.inj first
        exact absurd come time

/-- A round that starts is another wait. -/
theorem Joining.length_lt_of_startRounds [Carrier C] {rounds : Nat} {next : Joining}
    (goes : (startRounds site rounds).2 = .going next) (waits : List (List Int)) :
    waits.length < ((notesOfRounds site rounds).foldl PollNote.enter waits).length := by
  cases rounds with
  | zero => cases goes
  | succ left =>
    unfold startRounds at goes
    unfold notesOfRounds
    cases target : site.node.joinTarget? with
    | none =>
      rw [target] at goes
      cases goes
    | some address => exact PollNote.length_le_foldl_enter _ ([] :: waits)

theorem Contest.notes_of_going [Carrier C] {again : Int} {next : Contest}
    (goes : ((awaiting start again).advance site).2 = .going next) :
    (awaiting start again).notes site = [.polled site.now] := by
  have active : ¬site.isCancelled := fun cancelled => by
    rw [advance, if_pos cancelled] at goes
    cases goes
  exact if_neg active

theorem Watching.notes_of_going [Carrier C] {due again : Int} {next : Watching}
    (goes : ((contesting due (.awaiting start again)).advance site).2 = .going next)
    (still : next.again?.isSome) :
    (contesting due (.awaiting start again)).notes site = [.polled site.now] := by
  have active : ¬site.isCancelled := fun cancelled => by
    have gaveUp : (Contest.awaiting start again).advance site = Contest.abandon site :=
      if_pos cancelled
    rw [advance, contest, gaveUp] at goes
    obtain rfl := Progress.going.inj goes
    cases still
  exact if_neg active

theorem Joining.notes_of_going [Carrier C] {left : Nat} {deadline again : Int} {next : Joining}
    (goes : ((waiting left deadline again).advance site).2 = .going next)
    (same : (((waiting left deadline again).notes site).foldl PollNote.enter waits).length =
      waits.length) : (waiting left deadline again).notes site = [.polled site.now] := by
  have active : ¬site.isCancelled := fun cancelled => by
    rw [advance, if_pos cancelled] at goes
    cases goes
  rw [advance, if_neg active, wait] at goes
  rw [notes, if_neg active, notesOfWait] at same ⊢
  by_cases closed : deadline ≤ site.now
  · rw [if_pos closed] at goes same
    exact absurd same (Nat.ne_of_gt (length_lt_of_startRounds goes waits))
  · exact if_neg closed

namespace Activity

variable [Carrier C] {awaited : Awaited} {activity : Activity} {again : Int}

/-- An activity in a wait is due when a copy is to be sent, when it polls again, or at once if its
work is to end. -/
theorem due?_of_again? (waiting : activity.again? = some again) :
    ∃ bursts, ∀ site : Site C, activity.due? site false =
      earlier? (Burst.nextDue? bursts) (some (if site.isCancelled then site.now else again)) := by
  rcases cases_of_again? waiting with ⟨started, rfl⟩ | ⟨tick, started, rfl⟩ |
    ⟨sum, seqn, bursts, deadline, rfl⟩ | ⟨request, sum, seqn, bursts, deadline, rfl⟩ |
    ⟨left, deadline, rfl⟩
  · exact ⟨[], fun _ => rfl⟩
  · exact ⟨[], fun _ => rfl⟩
  · exact ⟨bursts, fun _ => rfl⟩
  · exact ⟨bursts, fun _ => rfl⟩
  · exact ⟨[], fun _ => rfl⟩

theorem exists_due (site : Site C) (waiting : activity.again? = some again) :
    ∃ instant, activity.due? site false = some instant ∧ instant ≤ max site.now again := by
  obtain ⟨bursts, form⟩ := @due?_of_again? C _ activity again waiting
  cases due : activity.due? site false with
  | none => exact nomatch (earlier?_eq_none_iff.1 ((form site).symm.trans due)).2
  | some instant =>
    refine ⟨instant, rfl, Int.le_trans
      ((of_earlier?_eq_some ((form site).symm.trans due)).2.1 _ rfl) ?_⟩
    split
    · exact Int.le_max_left _ _
    · exact Int.le_max_right _ _

/-- What is not due yet is due at the same instant later on. -/
theorem due?_of_lt (waiting : activity.again? = some again)
    (due : activity.due? site false = some instant) (early : site.now < instant)
    (moment : Moment) : activity.due? { site with moment } false = some instant := by
  obtain ⟨bursts, form⟩ := @due?_of_again? C _ activity again waiting
  rw [form] at due ⊢
  cases active : site.isCancelled with
  | true =>
    have soon := (of_earlier?_eq_some due).2.1 site.now (by rw [active]; rfl)
    exact absurd early (Int.not_lt.2 soon)
  | false =>
    rw [active] at due
    have active : ({ site with moment } : Site C).isCancelled = false := active
    rw [active]
    exact due

/-- A turn in a wait ends it, or leaves fewer polls or fewer copies to it. -/
theorem nears (stands : activity.Stands prompt config waits site.now awaited)
    (waiting : activity.again? = some again)
    (due : activity.due? site false = some instant) (come : instant ≤ site.now)
    (within : WithinLimits config awaited ((activity.notes site).foldl PollNote.enter waits))
    {next : Activity} (goes : (activity.advance site false).progress = .going next)
    (still : next.again?.isSome)
    (same : ((activity.notes site).foldl PollNote.enter waits).length = waits.length) :
    pollsLeft (awaited.pollLimit config) ((activity.notes site).foldl PollNote.enter waits) +
        next.unsent <
      pollsLeft (awaited.pollLimit config) waits + activity.unsent := by
  obtain ⟨start, polls, current, awaits⟩ := stands.awaits waiting
  obtain ⟨rest, rfl⟩ := List.head?_eq_some_iff.1 current
  rcases cases_of_again? waiting with ⟨started, rfl⟩ | ⟨tick, started, rfl⟩ |
    ⟨sum, seqn, bursts, deadline, rfl⟩ | ⟨request, sum, seqn, bursts, deadline, rfl⟩ |
    ⟨left, deadline, rfl⟩
  · obtain ⟨work, turn, rfl⟩ : ∃ work, ((Contest.awaiting started again).advance site).2 =
        .going work ∧ next = contesting work := Progress.of_map_eq_going goes
    have polled : (contesting (.awaiting started again)).notes site = [.polled site.now] :=
      Contest.notes_of_going turn
    rw [polled] at within ⊢
    exact within.pollsLeft_lt
  · obtain ⟨work, turn, rfl⟩ : ∃ work,
        ((Watching.contesting tick (.awaiting started again)).advance site).2 =
          .going work ∧ next = watching work := Progress.of_map_eq_going goes
    have polled : (watching (.contesting tick (.awaiting started again))).notes site =
        [.polled site.now] := Watching.notes_of_going turn still
    rw [polled] at within ⊢
    exact within.pollsLeft_lt
  · obtain ⟨work, turn, rfl⟩ : ∃ work,
        ((Replication.replicating sum seqn bursts (.waiting deadline again)).advance site).2 =
          .going work ∧ next = writing work := Progress.of_map_eq_going goes
    cases stands with
    | writing => exact Replication.nears due come within turn still
  · obtain ⟨work, turn, rfl⟩ : ∃ work,
        ((Replication.replicating sum seqn bursts (.waiting deadline again)).advance site).2 =
          .going work ∧ next = serving request work := Progress.of_map_eq_going goes
    cases stands with
    | serving => exact Replication.nears due come within turn still
  · obtain ⟨work, turn, rfl⟩ : ∃ work, ((Joining.waiting left deadline again).advance site).2 =
        .going work ∧ next = joining work := Progress.of_map_eq_going goes
    have polled : (joining (.waiting left deadline again)).notes site = [.polled site.now] :=
      Joining.notes_of_going turn same
    rw [polled] at within ⊢
    exact within.pollsLeft_lt

end Activity

/-! ## Courses -/

/-- The beginnings of the activities that wait. -/
inductive Activity.Begins (config : Config) : Awaited → Activity → Prop
  | contesting : Begins config .answers (.contesting .opening)
  | watching (due : Int) : Begins config .answers (.watching (.looking due))
  | writing (delta : Int64) (number : Option Seqn) :
    Begins config .acknowledgements (.writing (.opening delta number))
  | serving (request : ClientRequest) (delta : Int64) (number : Option Seqn) :
    Begins config .acknowledgements (.serving request (.opening delta number))
  | joining : Begins config .state (.joining (.fresh config))

namespace Course

variable [Carrier C] {meanwhile : Site C → Site C → Prop} {first course next : Course C}
  {awaited : Awaited} {activity : Activity}

/-- A step on a clock that may be late. -/
inductive LateStep (meanwhile : Site C → Site C → Prop) (course : Course C) : Course C → Prop
  | inTime {next : Course C} (step : course.Step meanwhile next) : LateStep meanwhile course next
  | late {moment : Moment} (later : course.site.now ≤ moment.now) :
    LateStep meanwhile course { course with site.moment := moment }

/-- A finite part of a course on a clock that may be late. -/
def LateRun (meanwhile : Site C → Site C → Prop) : Course C → Course C → Prop :=
  Relation.ReflTransGen (LateStep meanwhile)

/-- Time passes until an instant, whatever is due. -/
theorem LateRun.delay (run : first.LateRun meanwhile course) (instant : Int)
    (later : course.site.now ≤ instant) :
    first.LateRun meanwhile { course with site.moment.now := instant } :=
  .tail run (.late later)

/-- The activity goes on. -/
theorem LateRun.goOn (run : first.LateRun meanwhile course)
    (going : course.progress = .going activity)
    (due : activity.due? course.site false = some instant) (come : instant ≤ course.site.now) :
    first.LateRun meanwhile (course.goOn activity) :=
  .tail run (.inTime (.goOn going due come))

/-- The activity is in the wait with this number, counted from one. -/
def WaitsIn (course : Course C) (number : Nat) : Prop :=
  course.again?.isSome ∧ course.waits.length = number

/-- An activity keeps to the limits of its waits. -/
structure Paced (prompt : Prop) (config : Config) (awaited : Awaited) (course : Course C) :
    Prop where
  config_eq : course.site.node.config = config
  within : WithinLimits config awaited course.waits
  leaves : course.progress.Leaves
    (Activity.Stands prompt config course.waits course.site.now awaited)

namespace Paced

theorem begins {activity : Activity} (begins : activity.Begins site.node.config awaited) :
    Paced prompt site.node.config awaited ⟨site, .going activity, []⟩ := by
  refine ⟨rfl, ⟨nofun, fun _ => Nat.zero_le _⟩, ?_⟩
  cases begins with
  | contesting => exact .contesting trivial
  | watching => exact .watching trivial
  | writing => exact .writing trivial
  | serving => exact .serving trivial
  | joining => exact .joining (Nat.le_of_eq (Nat.zero_add _))

theorem stands (paced : Paced prompt config awaited course)
    (going : course.progress = .going activity) :
    activity.Stands prompt config course.waits course.site.now awaited := by
  have leaves := paced.leaves
  rw [going] at leaves
  exact leaves

theorem goOn (paced : Paced prompt config awaited course) (pos : 0 < config.pollInterval)
    (going : course.progress = .going activity)
    (due : activity.due? course.site false = some instant) (come : instant ≤ course.site.now) :
    Paced prompt config awaited (course.goOn activity) := by
  obtain ⟨within, leaves⟩ := Activity.keeps_advance paced.config_eq pos paced.within
    (paced.stands going) due come
  refine ⟨?_, course.waits_goOn activity ▸ within, course.waits_goOn activity ▸ leaves⟩
  exact (activity.deeds_advance course.site false).config_eq.trans paced.config_eq

theorem pass (paced : Paced prompt config awaited course) {moment : Moment}
    (later : course.site.now ≤ moment.now)
    (timely : prompt → ∀ activity, course.progress = .going activity →
      ∀ again ∈ activity.again?, moment.now ≤ again) :
    Paced prompt config awaited { course with site.moment := moment } := by
  refine ⟨paced.config_eq, paced.within, ?_⟩
  have leaves := paced.leaves
  cases progress : course.progress with
  | done => trivial
  | going activity =>
    rw [progress] at leaves
    exact leaves.pass later fun prompt => timely prompt activity progress

theorem step (paced : Paced prompt config awaited course) (pos : 0 < config.pollInterval)
    (step : course.Step Site.Deeds next) : Paced prompt config awaited next := by
  cases step with
  | goOn going due come => exact paced.goOn pos going due come
  | elsewhere happens same =>
    have now : _ = course.site.now := congrArg Moment.now same
    refine ⟨happens.config_eq.trans paced.config_eq, paced.within, ?_⟩
    have leaves := paced.leaves
    rw [← now] at leaves
    exact leaves
  | pass later timely =>
    refine paced.pass later fun prompt activity going again waiting => ?_
    obtain ⟨start, polls, current, awaits⟩ := (paced.stands going).awaits waiting
    obtain ⟨instant, due, soon⟩ := activity.exists_due course.site waiting
    rw [Int.max_eq_right (awaits.timely prompt)] at soon
    exact Int.le_trans (timely activity instant going due) soon

theorem lateStep (paced : Paced False config awaited course) (pos : 0 < config.pollInterval)
    (step : course.LateStep Site.Deeds next) : Paced False config awaited next := by
  cases step with
  | inTime step => exact paced.step pos step
  | late later => exact paced.pass later nofun

end Paced

/-- An activity in a wait goes on as soon as it is due. -/
theorem exists_ready (meanwhile : Site C → Site C → Prop) {again : Int}
    (going : course.progress = .going activity) (waiting : activity.again? = some again) :
    ∃ moment instant, course.Run meanwhile { course with site.moment := moment } ∧
      course.site.now ≤ moment.now ∧
      activity.due? { course.site with moment } false = some instant ∧ instant ≤ moment.now := by
  obtain ⟨instant, due, -⟩ := activity.exists_due course.site waiting
  by_cases come : instant ≤ course.site.now
  · exact ⟨course.site.moment, instant, .refl, Int.le_refl _, due, come⟩
  · have early := Int.not_le.1 come
    refine ⟨{ course.site.moment with now := instant }, instant, ?_, Int.le_of_lt early,
      activity.due?_of_lt waiting due early _, Int.le_refl _⟩
    refine Run.wait .refl instant (Int.le_of_lt early) fun other time going' due' => ?_
    obtain rfl := Progress.going.inj (going.symm.trans going')
    exact Int.le_of_eq (Option.some.inj (due.symm.trans due'))

/-- How much is left to do in the latest wait. -/
def effort (limit : Nat) (course : Course C) : Nat :=
  pollsLeft limit course.waits +
    match course.progress with
    | .going activity => activity.unsent
    | .done _ => 0

theorem effort_of_going (limit : Nat) (going : course.progress = .going activity) :
    course.effort limit = pollsLeft limit course.waits + activity.unsent := by
  rw [effort, going]

/-- A turn that does not end the wait leaves less to do. -/
theorem Paced.effort_lt (paced : Paced prompt config awaited course) (pos : 0 < config.pollInterval)
    (going : course.progress = .going activity) {again : Int}
    (waiting : activity.again? = some again)
    (due : activity.due? course.site false = some instant) (come : instant ≤ course.site.now)
    (still : (course.goOn activity).WaitsIn course.waits.length) :
    (course.goOn activity).effort (awaited.pollLimit config) <
      course.effort (awaited.pollLimit config) := by
  obtain ⟨waits, same⟩ := still
  obtain ⟨again', waits⟩ := Option.isSome_iff_exists.1 waits
  obtain ⟨next, goes, waits⟩ := of_again? waits
  have within := (paced.goOn pos going due come).within
  rw [waits_goOn] at within same
  rw [effort_of_going _ goes, effort_of_going _ going, waits_goOn]
  exact Activity.nears (paced.stands going) waiting due come within goes
    (Option.isSome_of_eq_some waits) same

/-- A wait ends if the activity is left alone. -/
theorem Paced.exists_left (paced : Paced False config awaited course)
    (pos : 0 < config.pollInterval) (number : Nat) :
    ∃ final, course.Run (fun _ _ => False) final ∧ ¬final.WaitsIn number := by
  generalize weight_eq : course.effort (awaited.pollLimit config) = weight
  induction weight using Nat.strongRecOn generalizing course with
  | ind weight ih =>
    by_cases inside : course.WaitsIn number
    · obtain ⟨waiting, rfl⟩ := inside
      obtain ⟨again, waiting⟩ := Option.isSome_iff_exists.1 waiting
      obtain ⟨activity, going, waiting⟩ := of_again? waiting
      obtain ⟨moment, instant, waits, later, due, come⟩ :=
        exists_ready (fun _ _ => False) going waiting
      -- the clock moves to the instant at which the activity is due, and the activity goes on
      let waited : Course C := { course with site.moment := moment }
      have ready : waited.Paced False config awaited := paced.pass later nofun
      have run := waits.goOn going due come
      by_cases still : (waited.goOn activity).WaitsIn course.waits.length
      · obtain ⟨final, more, left⟩ := ih _
          (weight_eq ▸ ready.effort_lt pos going waiting due come still)
          (ready.goOn pos going due come) rfl
        exact ⟨final, run.trans more, left⟩
      · exact ⟨_, run, still⟩
    · exact ⟨course, .refl, inside⟩

/-- Every wait ends, however late the clock is and whatever else happens to the member.  An election
polls at most as often as its timeout has intervals, rounded up, and once more, and so does the wait for
acknowledgements with its own timeout; joining starts no more rounds than it is to try, at least one,
and polls in each at most as often as its timeout has intervals, rounded up.  A wait that is not over
has polled no more often than its window has intervals, rounded up.  Its next poll is due within an
interval of the latest one, and before a window and an interval have passed since the first one; a clock
that is not late does not go beyond that instant, so the wait is over by then.  And left alone, the wait
ends. -/
theorem waits_end {site : Site C} {activity : Activity} {awaited : Awaited} {course : Course C}
    (valid : site.node.config.IsValid) (begins : activity.Begins site.node.config awaited)
    (run : (⟨site, .going activity, []⟩ : Course C).LateRun Site.Deeds course) :
    let config := site.node.config
    (∀ polls ∈ course.waits, polls.length ≤ awaited.pollLimit config) ∧
      (awaited = .state → course.waits.length ≤ max config.joinAttempts 1) ∧
      (∀ again, course.again? = some again → ∃ polls ∈ course.waits.head?,
        polls.length ≤ awaited.window config ⌈/⌉ config.pollInterval ∧
        (∃ last ∈ polls.head?, again ≤ Time.after last config.pollInterval) ∧
        (∃ first ∈ polls.getLast?,
          again < Time.after first (awaited.window config + config.pollInterval)) ∧
        ((⟨site, .going activity, []⟩ : Course C).Run Site.Deeds course →
          course.site.now ≤ again)) ∧
      ∃ final, course.Run (fun _ _ => False) final ∧ ¬final.WaitsIn course.waits.length := by
  intro config
  have pos := valid.pollInterval_pos
  have paced : course.Paced False config awaited := by
    induction run with
    | refl => exact .begins begins
    | tail _ step ih => exact ih.lateStep pos step
  refine ⟨paced.within.few, paced.within.rounds, fun again waiting => ?_,
    paced.exists_left pos _⟩
  obtain ⟨rest, going, waiting⟩ := of_again? waiting
  obtain ⟨start, polls, current, awaits⟩ := (paced.stands going).awaits waiting
  refine ⟨polls, current, awaits.few, awaits.soon, awaits.exists_first, fun run => ?_⟩
  -- the same invariant once more, with what a clock adds to it that is not late
  have prompt : course.Paced True config awaited :=
    run.invariant (fun paced step => paced.step pos step) (.begins begins)
  obtain ⟨_, _, _, awaits⟩ := (prompt.stands going).awaits waiting
  exact awaits.timely trivial

/-- A backup with a higher peer, which polls every four milliseconds for seven. -/
def challenger : Site Recorder where
  moment := ⟨0, 0.0⟩
  carrier := {}
  member :=
    let config : Config :=
      { (Config.ofBackup 2 (.v4 ⟨10, 0, 0, 2⟩ 1) ⟨1, .v4 ⟨10, 0, 0, 1⟩ 1⟩).withPeer
          ⟨3, .v4 ⟨10, 0, 0, 3⟩ 1⟩ with
        electionTimeout := 7
        pollInterval := 4
        retry := .single }
    { node := (Node.create config config.bindAddress 0).toOption.getD default
      endpoint := 0 }

/-- The higher peer answers, another election begins before the first one has seen that, and the clock
is late.  The first election still polls three times, and its wait is over then. -/
theorem waits_end_restarted :
    ∃ course : Course Recorder, challenger.node.config.IsValid ∧
      Activity.Begins challenger.node.config .answers (.contesting .opening) ∧
      (⟨challenger, .going (.contesting .opening), []⟩ : Course Recorder).LateRun Site.Deeds course ∧
      course.waits = [[7, 5, 0]] ∧
      Awaited.answers.pollLimit challenger.node.config = 3 ∧
      (∀ polls ∈ course.waits, polls.length ≤ 3) ∧ course.again? = none := by
  have opens : (⟨challenger, .going (.contesting .opening), []⟩ : Course Recorder).LateRun
      Site.Deeds _ := LateRun.goOn .refl rfl rfl (by decide)
  have answered : LateRun Site.Deeds _ _ := .tail opens <| .inTime <|
    .elsewhere (Site.Deeds.withNode (.hear (.electionResponse 3 0) (.v4 ⟨10, 0, 0, 3⟩ 1))) rfl
  have restarted : LateRun Site.Deeds _ _ := .tail answered <| .inTime <|
    .elsewhere (Site.Deeds.withNode (.contend rfl)) rfl
  have polls := (restarted.delay 5 (by decide)).goOn rfl rfl (by decide)
  have run := (polls.delay 7 (by decide)).goOn rfl rfl (by decide)
  have valid : challenger.node.config.IsValid := by decide
  obtain ⟨few, -⟩ := waits_end valid .contesting run
  exact ⟨_, valid, .contesting, run, rfl, rfl, few, rfl⟩

end Course

end SumCluster
