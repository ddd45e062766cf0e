import SumCluster.Proofs.Node.Requests

/-!
# Which requests to join are answered

A node answers the copies of a request to join once, and later requests always.  Its answers are
kept as a log beside its course (`Node.Course`): the record of a peer holds the instant of the last
one, whatever else happens to the node meanwhile (`Node.Keeping`), and from that it follows which
requests are answered and how many of them are counted (`Node.requests_answered`).
-/

namespace SumCluster

open Directory (Operation)

/-- A request to join that was answered: of whom, when, and whether the node led. -/
structure Attendance where
  joiner : NodeId
  instant : Int
  led : Bool
  deriving DecidableEq, Repr

namespace Node

/-- The request to join that a deed answers, if it does: something is sent because of it. -/
def attendance (node : Node) (now : Int) (cause : Cause) (letters : List Letter) :
    List Attendance :=
  match cause with
  | .heard (.joinRequest joiner _) =>
    if letters.isEmpty then [] else [⟨joiner, now, node.state.isPrimary⟩]
  | _ => []

/-- What a node does deed by deed, each not earlier than the one before, and the requests to join
that it has answered, the last one first. -/
inductive Course (first : Node) (since : Int) : Node → Int → List Attendance → Prop
  | start : Course first since first since []
  | act {node next : Node} {before now : Int} {log : List Attendance} {cause : Cause}
      {letters : List Letter} (course : Course first since node before log)
      (passed : before ≤ now) (deed : node.Deed now cause next letters) :
    Course first since next now (node.attendance now cause letters ++ log)

/-! ## What is counted -/

section Counts

variable (node : Node) (now : Int) (sender : NodeId)

theorem joinsHandled_hearHeartbeat (sum : Int64) (seqn : Seqn) :
    (node.hearHeartbeat now sender sum seqn).1.stats.joinsHandled = node.stats.joinsHandled := by
  unfold hearHeartbeat
  split
  · rfl
  · split
    · rename_i heeder heeds
      have heeded : heeder.stats.joinsHandled = node.stats.joinsHandled := by
        rcases cases_of_heed? heeds with rfl | rfl | rfl <;> rfl
      refine Eq.trans ?_ heeded
      simp only [catchUp, yieldTo]
      split <;> split <;> rfl
    · rfl

theorem joinsHandled_hearUpdate (sum : Int64) (seqn : Seqn) :
    (node.hearUpdate sender sum seqn).1.stats.joinsHandled = node.stats.joinsHandled := by
  unfold hearUpdate
  simp only
  generalize follower_eq : (if node.state.primary.isNone && !node.state.isPrimary then
    node.recognise sender else node) = follower
  have same : follower.stats.joinsHandled = node.stats.joinsHandled := by
    rw [← follower_eq]
    split <;> rfl
  split
  · exact same
  · split
    · exact same
    · split <;> exact same

theorem joinsHandled_hearReplicaList (primary : Option NodeId) (entries : List PeerEntry) :
    (node.hearReplicaList now sender primary entries).1.stats.joinsHandled =
      node.stats.joinsHandled := by
  unfold hearReplicaList
  split
  · rfl
  · simp only
    split
    · rfl
    · rename_i learns
      rcases cases_of_learnPrimary? learns with rfl | rfl <;> rfl

theorem joinsHandled_hear (isNew : Bool) {message : Message}
    (other : message.kind ≠ .joinRequest) :
    (node.hear now isNew message).1.stats.joinsHandled = node.stats.joinsHandled := by
  cases message with
  | heartbeat sender sum seqn => exact joinsHandled_hearHeartbeat node now sender sum seqn
  | joinRequest => exact absurd rfl other
  | stateUpdate sender sum seqn => exact joinsHandled_hearUpdate node sender sum seqn
  | stateAck =>
    simp only [hear, hearAck]
    split <;> rfl
  | replicaList sender primary entries =>
    exact joinsHandled_hearReplicaList node now sender primary entries
  | startElection => rfl
  | electionResponse =>
    simp only [hear, hearResponse]
    split <;> rfl
  | victory =>
    simp only [hear, hearVictory]
    split
    · rfl
    · split <;> rfl
  | victoryAck =>
    simp only [hear, hearVictoryAck]
    split <;> split <;> rfl

end Counts

/-- Only requests to join are counted as such. -/
theorem Deed.joinsHandled_eq {node next : Node} {now : Int} {cause : Cause} {letters : List Letter}
    (deed : node.Deed now cause next letters)
    (other : ∀ joiner timestamp, cause ≠ .heard (.joinRequest joiner timestamp)) :
    next.stats.joinsHandled = node.stats.joinsHandled := by
  cases deed with
  | hear message source =>
    have other : message.kind ≠ .joinRequest := by
      cases message with
      | joinRequest joiner timestamp => exact absurd rfl (other joiner timestamp)
      | _ => exact nofun
    unfold handle
    split
    · rfl
    · exact joinsHandled_hear (node.meet now message.sender source) now _ other
  | drop | giveUp | join | discover => rfl
  | beat tick =>
    unfold Node.beat
    split <;> rfl
  | contend opens =>
    obtain ⟨-, -, rfl⟩ := of_openElection? opens
    rfl
  | claim claims =>
    obtain ⟨-, rfl, -⟩ := of_claimVictory? claims
    rfl
  | write starts =>
    obtain ⟨-, -, applied⟩ := applied_of_startWrite starts
    obtain ⟨rfl, -⟩ := Prod.mk.inj applied
    rfl
  | look seqn deadline =>
    unfold pollAcks
    simp only
    split
    · rfl
    · split <;> rfl

/-! ## One deed -/

/-- What a deed answers, and what it notes of that. -/
inductive Minutes (node next : Node) (now : Int) : List Attendance → Prop
  | nothing
      (noted : ∀ id, next.state.directory.lastJoin? id = node.state.directory.lastJoin? id)
      (counted : next.stats.joinsHandled = node.stats.joinsHandled) : Minutes node next now []
  | answer (joiner : NodeId)
      (late : ∀ answered, node.state.directory.lastJoin? joiner = some answered →
        joinWindow node.config ≤ Time.elapsed answered now)
      (noted : ∀ id, next.state.directory.lastJoin? id =
        if id = joiner then some now else node.state.directory.lastJoin? id)
      (counted : next.stats.joinsHandled =
        node.stats.joinsHandled + if node.state.isPrimary then 1 else 0) :
    Minutes node next now [⟨joiner, now, node.state.isPrimary⟩]

section Minutes

variable {node next : Node} {now : Int} {cause : Cause} {letters : List Letter}

theorem Attends.minutes {joiner : NodeId} {timestamp : UInt64} {source : Address}
    {effects : Effects} (attends : node.Attends now joiner source next effects)
    (deed : node.Deed now (.heard (.joinRequest joiner timestamp)) next effects.letters) :
    node.Minutes next now
      (node.attendance now (.heard (.joinRequest joiner timestamp)) effects.letters) := by
  cases attends with
  | own => exact .nothing (fun _ => rfl) rfl
  | silent => exact .nothing (fun id => lastJoin?_meet node now joiner id source) rfl
  | @answered joined _ other joins state count =>
    obtain ⟨-, late, noted⟩ := Directory.of_recordJoin? joins
    refine .answer joiner (fun answered last => late answered ?_) (fun id => ?_) count
    · rw [lastJoin?_meet, last]
    · split
      · rename_i same
        rw [same, state, ← noted]
        exact (Directory.effect_perform joined (.markAlive node.id) now).lastJoin?_eq nofun
      · rename_i differ
        refine deed.lastJoin?_eq fun timestamp same => differ ?_
        cases same
        rfl

theorem Deed.minutes (deed : node.Deed now cause next letters) :
    node.Minutes next now (node.attendance now cause letters) := by
  by_cases request : ∃ joiner timestamp, cause = .heard (.joinRequest joiner timestamp)
  · obtain ⟨joiner, timestamp, rfl⟩ := request
    cases deed with
    | hear message source =>
      exact (attends_handle node now joiner timestamp source).minutes (.hear _ source)
  · have other : ∀ joiner timestamp, cause ≠ .heard (.joinRequest joiner timestamp) :=
      fun joiner timestamp same => request ⟨joiner, timestamp, same⟩
    have none : node.attendance now cause letters = [] := by
      unfold attendance
      split
      · exact absurd rfl (other _ _)
      · rfl
    rw [none]
    exact .nothing (fun id => deed.lastJoin?_eq (other id)) (deed.joinsHandled_eq other)

end Minutes

/-! ## Every course -/

/-- The log agrees with what is on record and with what is counted. -/
structure Keeping (timeout : Nat) (node : Node) (now : Int) (log : List Attendance) : Prop where
  shares : node.config.joinTimeout = timeout
  past : ∀ attendance ∈ log, attendance.instant ≤ now
  /-- The last answer to a peer is the one on record. -/
  last : ∀ id, node.state.directory.lastJoin? id =
    (log.find? (·.joiner = id)).map (·.instant)
  ordered : log.Pairwise fun later earlier => earlier.instant ≤ later.instant
  spaced : log.Pairwise fun later earlier => later.joiner = earlier.joiner →
    (timeout : Int) ≤ 2 * (later.instant - earlier.instant)
  counted : node.stats.joinsHandled = log.countP (·.led)

section Keeping

variable {node next first : Node} {since before now : Int} {timeout : Nat} {log : List Attendance}

theorem Keeping.later (keeping : node.Keeping timeout before log) (passed : before ≤ now) :
    node.Keeping timeout now log :=
  { keeping with past := fun attendance mem => Int.le_trans (keeping.past attendance mem) passed }

/-- In a log with the last one first, the one that is found is not earlier than any other one of the
same peer. -/
theorem exists_find?_of_mem {attendance : Attendance} (mem : attendance ∈ log)
    (ordered : log.Pairwise fun later earlier => earlier.instant ≤ later.instant) :
    ∃ last ∈ log, log.find? (·.joiner = attendance.joiner) = some last ∧
      attendance.instant ≤ last.instant := by
  induction log with
  | nil => exact nomatch mem
  | cons head rest ih =>
    obtain ⟨before, ordered⟩ := List.pairwise_cons.1 ordered
    by_cases same : head.joiner = attendance.joiner
    · refine ⟨head, List.mem_cons_self .., by simp [same], ?_⟩
      rcases List.mem_cons.1 mem with rfl | mem
      · exact Int.le_refl _
      · exact before attendance mem
    · have mem : attendance ∈ rest := (List.mem_cons.1 mem).resolve_left fun is => same (is ▸ rfl)
      obtain ⟨last, last_mem, found, le⟩ := ih mem ordered
      exact ⟨last, List.mem_cons_of_mem _ last_mem, by simpa [same] using found, le⟩

/-- The answer on record of a peer is not earlier than any other one to it. -/
theorem Keeping.exists_last (keeping : node.Keeping timeout now log) {attendance : Attendance}
    (mem : attendance ∈ log) : ∃ answered,
      node.state.directory.lastJoin? attendance.joiner = some answered ∧
        attendance.instant ≤ answered ∧ answered ≤ now := by
  obtain ⟨last, last_mem, found, le⟩ := exists_find?_of_mem mem keeping.ordered
  refine ⟨last.instant, ?_, le, keeping.past last last_mem⟩
  rw [keeping.last, found]
  rfl

theorem Keeping.minutes {answers : List Attendance} (keeping : node.Keeping timeout now log)
    (config : next.config = node.config) (minutes : node.Minutes next now answers) :
    next.Keeping timeout now (answers ++ log) := by
  cases minutes with
  | nothing noted counted =>
    exact { keeping with
      shares := config ▸ keeping.shares
      last := fun id => (noted id).trans (keeping.last id)
      counted := counted.trans keeping.counted }
  | answer joiner late noted counted =>
    refine ⟨config ▸ keeping.shares, ?_, fun id => ?_, ?_, ?_, ?_⟩
    · exact List.forall_mem_cons.2 ⟨Int.le_refl now, keeping.past⟩
    · rw [noted]
      by_cases same : id = joiner
      · simp [same]
      · simp [same, Ne.symm same, keeping.last]
    · exact List.pairwise_cons.2 ⟨keeping.past, keeping.ordered⟩
    · refine List.pairwise_cons.2 ⟨fun earlier mem same => ?_, keeping.spaced⟩
      obtain ⟨answered, last, le, past⟩ := keeping.exists_last mem
      have same : joiner = earlier.joiner := same
      have window := late answered (same ▸ last)
      unfold joinWindow Time.elapsed at window
      rw [keeping.shares] at window
      simp only
      omega
    · rw [counted, keeping.counted, List.singleton_append, List.countP_cons]

theorem Course.keeping (course : first.Course since node now log)
    (keeping : first.Keeping timeout since []) : node.Keeping timeout now log := by
  induction course with
  | start => exact keeping
  | act _ passed deed ih => exact (ih.later passed).minutes deed.config_eq deed.minutes

theorem keeping_of_create {config : Config} {address : Address}
    (created : create config address since = .ok first) :
    first.Keeping config.joinTimeout since [] where
  shares := by
    obtain ⟨directory, rfl, -⟩ := of_create created
    rfl
  past := nofun
  last id := by
    obtain ⟨directory, rfl, registered⟩ := of_create created
    -- nobody is registered with a request
    refine registerAll_induction (P := fun directory => directory.lastJoin? id = none) registered
      rfl fun directory peer _ none => ?_
    exact ((directory.effect_register peer.id peer.address since).lastJoin?_eq nofun).trans none
  ordered := .nil
  spaced := .nil
  counted := by
    rw [stats_of_create created]
    rfl

end Keeping

/-- Whatever a node hears and does since it was created, while its clock does not go back: the
requests of one peer that it answers are at least half the time apart after which a joiner asks
again, and it counts exactly those that it answers while it leads.  Whenever a request of another
node comes that is on record or fits in, and nothing is sent, a request of that node was answered
less than half that time before. -/
theorem requests_answered {config : Config} {address : Address} {since now : Int}
    {first node : Node} {log : List Attendance}
    (created : create config address since = .ok first) (course : first.Course since node now log) :
    log.Pairwise (fun later earlier => later.joiner = earlier.joiner →
      (config.joinTimeout : Int) ≤ 2 * (later.instant - earlier.instant)) ∧
    node.stats.joinsHandled = log.countP (·.led) ∧
    ∀ instant joiner timestamp source, joiner ≠ node.id →
      (node.state.directory.contains joiner = true ∨ node.state.directory.isFull = false) →
      (node.handle instant (.joinRequest joiner timestamp) source).2.letters = [] →
      ∃ earlier ∈ log, earlier.joiner = joiner ∧
        2 * (instant - earlier.instant) < config.joinTimeout := by
  have keeping := course.keeping (keeping_of_create created)
  refine ⟨keeping.spaced, keeping.counted,
    fun instant joiner timestamp source other room silent => ?_⟩
  obtain ⟨answered, last, recent⟩ :=
    (attends_handle node instant joiner timestamp source).of_silent silent other room
  rw [keeping.last] at last
  obtain ⟨earlier, found, rfl⟩ := Option.map_eq_some_iff.1 last
  have same : earlier.joiner = joiner := by simpa using List.find?_some found
  refine ⟨earlier, List.mem_of_find?_eq_some found, same, ?_⟩
  unfold joinWindow Time.elapsed at recent
  rw [keeping.shares] at recent
  omega

/-- A primary answers a request and a later one, and passes over a copy of that. -/
theorem requests_answered_twice :
    ∃ first node, create (.ofPrimary 1 (.v4 ⟨10, 0, 0, 1⟩ 1)) (.v4 ⟨10, 0, 0, 1⟩ 1) 0 =
        .ok first ∧ first.Course 0 node 2500 [⟨3, 2500, true⟩, ⟨3, 0, true⟩] ∧
      node.stats.joinsHandled = 2 ∧ 3 ≠ node.id ∧ node.state.directory.contains 3 = true ∧
      (node.handle 4999 (.joinRequest 3 0) (.v4 ⟨10, 0, 0, 3⟩ 1)).2.letters = [] ∧
      ∃ earlier ∈ [(⟨3, 2500, true⟩ : Attendance), ⟨3, 0, true⟩], earlier.joiner = 3 ∧
        2 * (4999 - earlier.instant) < 5000 := by
  let config : Config := .ofPrimary 1 (.v4 ⟨10, 0, 0, 1⟩ 1)
  let source : Address := .v4 ⟨10, 0, 0, 3⟩ 1
  let first := ((create config config.bindAddress 0).toOption).getD default
  let second := (first.handle 0 (.joinRequest 3 0) source).1
  let third := (second.handle 2500 (.joinRequest 3 0) source).1
  have created : create config config.bindAddress 0 = .ok first := rfl
  have once : first.attendance 0 (.heard (.joinRequest 3 0))
      (first.handle 0 (.joinRequest 3 0) source).2.letters = [⟨3, 0, true⟩] := by decide +kernel
  have twice : second.attendance 2500 (.heard (.joinRequest 3 0))
      (second.handle 2500 (.joinRequest 3 0) source).2.letters = [⟨3, 2500, true⟩] := by
    decide +kernel
  have asked : first.Course 0 second 0 _ :=
    .act .start (by decide) (.hear (.joinRequest 3 0) source)
  rw [once] at asked
  have course : first.Course 0 third 2500 _ :=
    .act asked (by decide) (.hear (.joinRequest 3 0) source)
  rw [twice] at course
  obtain ⟨-, counted, silent⟩ := requests_answered created course
  have other : 3 ≠ third.id := by decide +kernel
  have known : third.state.directory.contains 3 = true := by decide +kernel
  have passes : (third.handle 4999 (.joinRequest 3 0) source).2.letters = [] := by decide +kernel
  exact ⟨first, third, created, course, counted, other, known, passes,
    silent 4999 3 0 source other (.inl known) passes⟩

end Node

end SumCluster
