import Mathlib.Algebra.Ring.Int.Defs
import Mathlib.Data.List.Induction
import SumCluster.Proofs.Work.Service
import SumCluster.Proofs.Work.Tapped

/-!
# Writes one after the other

Users of a node that leads may ask for any number of writes, under numbers of their own or the next
ones, and wait for several of them at once (`Writer`).  A ledger beside the calls keeps their
attempts in the order in which they got their turns.  What the node holds is then the fold of the
attempts (`Order.apply`): each takes effect or not by the number that it meets, whatever becomes of
the wait for the acknowledgements (`Writer.writes_fold`).
-/

namespace SumCluster

/-! ## Orders -/

/-- A write that a user asks for. Without a number, it is to get the next one. -/
structure Order where
  delta : Int64
  seqn : Option Seqn
  deriving DecidableEq, Repr, Inhabited

namespace Order

variable {order : Order} {reached seqn : Seqn}

/-- The number under which a leader that has reached a number applies the write, if it does. -/
def number? (order : Order) (reached : Seqn) : Option Seqn :=
  match order.seqn with
  | none => if reached.toNat + 1 < UInt64.size then some (reached + 1) else none
  | some seqn => if reached < seqn then some seqn else none

/-- What a leader holds after the order. -/
def apply (order : Order) (held : Int64 × Seqn) : Int64 × Seqn :=
  match order.number? held.2 with
  | some seqn => (held.1 + order.delta, seqn)
  | none => held

/-- What the user is told if the write is not applied: that the numbers are used up, or the state
that is held. -/
def refusal (order : Order) (held : Int64 × Seqn) : Replication.Result :=
  match order.seqn with
  | none => .error .seqnExhausted
  | some _ => .ok held

/-- A write that is applied raises the number. -/
theorem lt_of_number? (number : order.number? reached = some seqn) : reached < seqn := by
  unfold number? at number
  split at number
  · exact @Node.lt_of_nextSeqn? { (default : Node) with state.seqn := reached } seqn number
  · split at number
    · rename_i higher
      exact Option.some.inj number ▸ higher
    · exact nomatch number

theorem apply_of_number? {held : Int64 × Seqn} (number : order.number? held.2 = some seqn) :
    order.apply held = (held.1 + order.delta, seqn) := by
  rw [apply, number]

theorem apply_of_ineffective {held : Int64 × Seqn} (ineffective : order.number? held.2 = none) :
    order.apply held = held := by
  rw [apply, ineffective]

/-- What becomes of the write at a leader is decided by the number that it meets. -/
theorem startWrite_eq {node : Node} (leads : node.state.isPrimary = true) (now : Int)
    (order : Order) :
    node.startWrite now order.delta order.seqn =
      match order.number? node.state.seqn with
      | some seqn =>
        .applied (node.applyWrite now order.delta seqn).1 (node.applyWrite now order.delta seqn).2
      | none => if order.seqn.isNone then .refused .seqnExhausted else .repeated := by
  unfold Node.startWrite number?
  rw [leads]
  simp only [Bool.not_true, Bool.false_eq_true, if_false]
  cases order.seqn with
  | none =>
    simp only [Node.nextSeqn?]
    by_cases room : node.state.seqn.toNat + 1 < UInt64.size
    · simp only [if_pos room]
    · simp only [if_neg room, Option.isNone_none, if_true]
  | some seqn =>
    by_cases higher : node.state.seqn < seqn
    · simp [higher, UInt64.not_le.2 higher]
    · simp [higher, UInt64.not_lt.1 higher]

end Order

namespace Replication

variable {C : Type} [Carrier C]

/-- A node that does not lead refuses to write, and nothing changes. -/
theorem advance_of_backup {site : Site C} (backup : site.node.state.isPrimary = false)
    (order : Order) :
    (Replication.opening order.delta order.seqn).advance site =
      (site, .done (.error (.notPrimary site.node.state.primary))) := by
  have refuses : site.node.startWrite site.now order.delta order.seqn =
      .refused (.notPrimary site.node.state.primary) := by
    unfold Node.startWrite
    rw [backup]
    rfl
  simp only [advance, begin, refuses]

/-- A leader that cannot apply a write tells what it holds, or that there is no number left, and
nothing changes. -/
theorem advance_of_ineffective {site : Site C} {order : Order}
    (leads : site.node.state.isPrimary = true)
    (ineffective : order.number? site.node.state.seqn = none) :
    (Replication.opening order.delta order.seqn).advance site =
      (site, .done (order.refusal site.node.held)) := by
  simp only [advance, begin, Order.startWrite_eq leads, ineffective, Order.refusal]
  cases order.seqn <;> rfl

section Tapped

variable {site : Site (Tapped C)} {seqn : Seqn}

omit [Carrier C] in
/-- To look for acknowledgements leaves the state and gives nothing to the carrier. -/
theorem quiet_look (site : Site (Tapped C)) (seqn : Seqn) (deadline : Int) :
    site.Rests (look site seqn deadline).1 ∧ site.Gives [] (look site seqn deadline).1 ∧
      (look site seqn deadline).2.IsFor true seqn := by
  obtain ⟨rests, awaits⟩ := awaits_look site seqn deadline
  refine ⟨rests, ?_, awaits.mono fun _ => rfl⟩
  unfold look
  split <;> exact .refl site

omit [Carrier C] in
theorem quiet_advanceAcks {acks : AckWait} (awaits : acks.IsFor true seqn) :
    site.Rests (advanceAcks site seqn acks).1 ∧ site.Gives [] (advanceAcks site seqn acks).1 ∧
      (advanceAcks site seqn acks).2.IsFor true seqn := by
  cases acks with
  | settled => exact ⟨⟨rfl, rfl⟩, .refl site, awaits⟩
  | waiting deadline again =>
    simp only [advanceAcks]
    split
    · exact ⟨⟨rfl, rfl⟩, .refl site, .stopped rfl⟩
    · split
      · exact quiet_look site seqn deadline
      · exact ⟨⟨rfl, rfl⟩, .refl site, awaits⟩

/-- A write that is applied is given to the carrier for each peer, and its acknowledgements are
looked for at once. -/
theorem advance_opening {order : Order} (leads : site.node.state.isPrimary = true)
    (number : order.number? site.node.state.seqn = some seqn) :
    let next := (site.node.applyWrite site.now order.delta seqn).1
    let write := (site.node.applyWrite site.now order.delta seqn).2
    ∃ looked given bursts acks,
      (Replication.opening order.delta order.seqn).advance site =
        remaining looked write.sum seqn bursts acks ∧
      (site.withNode next).Rests looked ∧ acks.IsFor true seqn ∧ site.Gives given looked ∧
      (∀ letter, letter ∈ given ↔ letter ∈ write.letters) ∧
      ∀ burst ∈ bursts, burst.letter ∈ write.letters := by
  intro next write
  have starts : site.node.startWrite site.now order.delta order.seqn = .applied next write := by
    rw [Order.startWrite_eq leads, number]
  have rests := (site.withNode next).rests_sendAll write.letters
  obtain ⟨given, gives, from_letters, copies⟩ := (site.withNode next).gives_sendAll write.letters
  generalize sent_eq : (site.withNode next).sendAll write.letters = sent at rests gives copies
  obtain ⟨looks, quiet, awaits⟩ :=
    quiet_look sent.1 seqn (Time.after sent.1.now next.config.ackTimeout)
  refine ⟨_, given, _, _, ?_, rests.trans looks, awaits, ?_, from_letters, copies⟩
  · simp only [advance, begin, starts, sent_eq]
    rfl
  · exact List.append_nil given ▸ Site.Gives.trans gives quiet

/-- A write that goes on leaves the state, and gives copies of its letters only. -/
theorem advance_replicating {acks : AckWait} (awaits : acks.IsFor true seqn) (sum : Int64)
    (bursts : List Burst) :
    ∃ looked given bursts' acks',
      (Replication.replicating sum seqn bursts acks).advance site =
        remaining looked sum seqn bursts' acks' ∧
      site.Rests looked ∧ acks'.IsFor true seqn ∧ site.Gives given looked ∧
      (∀ letter ∈ given, ∃ burst ∈ bursts, burst.letter = letter) ∧
      ∀ rest ∈ bursts', ∃ burst ∈ bursts, burst.letter = rest.letter := by
  have rests := Burst.rests_advanceAll bursts site
  obtain ⟨given, gives, from_bursts, -, copies⟩ := Burst.gives_advanceAll bursts site
  obtain ⟨looks, quiet, awaits⟩ :=
    @quiet_advanceAcks C (Burst.advanceAll site bursts).1 seqn acks awaits
  refine ⟨_, given, _, _, rfl, rests.trans looks, awaits, ?_, from_bursts, copies⟩
  exact List.append_nil given ▸ gives.trans quiet

end Tapped

end Replication

/-! ## Attempts -/

/-- A call that has got its turn at a leader. -/
structure Attempt where
  /-- The index of the call. -/
  caller : Nat
  order : Order
  /-- The state that it met. -/
  met : Int64 × Seqn
  instant : Int
  /-- The other nodes that were alive. -/
  peers : List Peer
  deriving DecidableEq, Repr

namespace Attempt

variable {attempt : Attempt} {id : NodeId} {seqn : Seqn}

/-- The number under which the write was applied, if it was. -/
def number? (attempt : Attempt) : Option Seqn :=
  attempt.order.number? attempt.met.2

/-- Whether the write was applied. -/
def isEffective (attempt : Attempt) : Bool :=
  attempt.number?.isSome

/-- What a leader tells its peers: the state that the write has left, if it was applied. -/
def letters (attempt : Attempt) (id : NodeId) : List Letter :=
  match attempt.number? with
  | some seqn =>
    (Message.stateUpdate id (attempt.met.1 + attempt.order.delta) seqn
      (Time.stamp attempt.instant)).toEach attempt.peers
  | none => []

/-- What a leader holds after some attempts. -/
def after (start : Int64 × Seqn) (attempts : List Attempt) : Int64 × Seqn :=
  attempts.foldl (fun held attempt => attempt.order.apply held) start

theorem after_append (start : Int64 × Seqn) (attempts : List Attempt) (attempt : Attempt) :
    after start (attempts ++ [attempt]) = attempt.order.apply (after start attempts) := by
  simp [after]

/-- Each attempt met what the earlier ones had left. -/
def Chained (start : Int64 × Seqn) (attempts : List Attempt) : Prop :=
  ∀ before attempt rest, attempts = before ++ attempt :: rest → attempt.met = after start before

theorem Chained.append {start : Int64 × Seqn} {attempts : List Attempt}
    (chained : Chained start attempts) (met : attempt.met = after start attempts) :
    Chained start (attempts ++ [attempt]) := by
  intro before other rest split
  rcases List.eq_nil_or_concat rest with rfl | ⟨middle, last, rfl⟩
  · obtain ⟨rfl, same⟩ := List.append_inj' split rfl
    obtain rfl := List.cons.inj same |>.1
    exact met
  · rw [List.concat_eq_append, ← List.cons_append, ← List.append_assoc] at split
    exact chained before other middle (List.append_inj' split rfl).1

theorem Chained.of_append {start : Int64 × Seqn} {attempts : List Attempt}
    (chained : Chained start (attempts ++ [attempt])) :
    Chained start attempts ∧ attempt.met = after start attempts := by
  refine ⟨fun before other rest split => ?_, chained attempts attempt [] rfl⟩
  exact chained before other (rest ++ [attempt]) (by rw [split]; simp)

/-- The sum is the one at the start and what the effective attempts add, in two's complement. -/
theorem sum_after {start : Int64 × Seqn} {attempts : List Attempt}
    (chained : Chained start attempts) :
    (after start attempts).1 = Int64.ofInt (start.1.toInt +
      ((attempts.filter isEffective).map fun attempt => attempt.order.delta.toInt).sum) := by
  induction attempts using List.reverseRecOn with
  | nil => simp [after]
  | append_singleton attempts attempt ih =>
    obtain ⟨earlier, met⟩ := chained.of_append
    rw [after_append, List.filter_append, List.map_append, List.sum_append, ← Int.add_assoc,
      Int64.ofInt_add, ← ih earlier, ← met]
    cases number : attempt.order.number? attempt.met.2 with
    | some seqn =>
      have effective : attempt.isEffective = true := by simp [isEffective, number?, number]
      rw [Order.apply_of_number? number]
      simp [effective]
    | none =>
      have ineffective : attempt.isEffective = false := by simp [isEffective, number?, number]
      rw [Order.apply_of_ineffective number]
      simp [ineffective]

end Attempt

/-! ## Calls -/

/-- A call of a user: the order, what is left to do or came of it, and the letters that it has given
to the carrier. -/
structure WriteCall where
  order : Order
  progress : Progress Replication Replication.Result
  sent : List Letter := []

/-- The call that has just been made. -/
def WriteCall.opening (order : Order) : WriteCall :=
  { order, progress := .going (.opening order.delta order.seqn) }

/-- How a call stands after its attempt. -/
inductive Attempt.Stands (attempt : Attempt) (id : NodeId) :
    Progress Replication Replication.Result → Prop
  /-- It was answered at once. -/
  | refused (ineffective : attempt.number? = none) :
    Stands attempt id (.done (attempt.order.refusal attempt.met))
  | replicating {seqn : Seqn} {bursts : List Burst} {acks : AckWait}
    (number : attempt.number? = some seqn)
    (copies : ∀ burst ∈ bursts, burst.letter ∈ attempt.letters id)
    (awaits : acks.IsFor true seqn) :
    Stands attempt id
      (.going (.replicating (attempt.met.1 + attempt.order.delta) seqn bursts acks))
  | acknowledged {seqn : Seqn} (number : attempt.number? = some seqn) :
    Stands attempt id (.done (.ok (attempt.met.1 + attempt.order.delta, seqn)))
  | incomplete {seqn : Seqn} (number : attempt.number? = some seqn) (missing : List NodeId) :
    Stands attempt id (.done (.error (.replicationIncomplete seqn missing)))
  | stopped {seqn : Seqn} (number : attempt.number? = some seqn) :
    Stands attempt id (.done (.error .shutdown))

/-- How a call fits the attempts at a node: it waits for its turn, or has made one of them and has
told the peers of that attempt what it has to tell them. -/
inductive WriteCall.Fits (id : NodeId) (attempts : List Attempt) (index : Nat) : WriteCall → Prop
  | waiting {order : Order} (fresh : ∀ attempt ∈ attempts, attempt.caller ≠ index) :
    Fits id attempts index (.opening order)
  | attempted {attempt : Attempt} {progress : Progress Replication Replication.Result}
    {sent : List Letter} (mem : attempt ∈ attempts) (caller : attempt.caller = index)
    (told : ∀ letter, letter ∈ sent ↔ letter ∈ attempt.letters id)
    (stands : attempt.Stands id progress) :
    Fits id attempts index ⟨attempt.order, progress, sent⟩

namespace WriteCall

/-- A call still fits when another one has made an attempt. -/
theorem Fits.append {id : NodeId} {attempts more : List Attempt} {index : Nat} {call : WriteCall}
    (fits : call.Fits id attempts index) (others : ∀ attempt ∈ more, attempt.caller ≠ index) :
    call.Fits id (attempts ++ more) index := by
  cases fits with
  | waiting fresh =>
    refine .waiting fun attempt mem => ?_
    rcases List.mem_append.1 mem with mem | mem
    · exact fresh attempt mem
    · exact others attempt mem
  | attempted mem caller told stands =>
    exact .attempted (List.mem_append_left _ mem) caller told stands

end WriteCall

/-- A write that was applied waits on, or its call ends. -/
theorem Attempt.stands_remaining {C : Type} {attempt : Attempt} {id : NodeId} {seqn : Seqn}
    {bursts : List Burst} {acks : AckWait} (number : attempt.number? = some seqn)
    (copies : ∀ burst ∈ bursts, burst.letter ∈ attempt.letters id) (awaits : acks.IsFor true seqn)
    (looked : Site C) :
    (Replication.remaining looked (attempt.met.1 + attempt.order.delta) seqn bursts acks).1 =
        looked ∧
      attempt.Stands id (Replication.remaining looked (attempt.met.1 + attempt.order.delta) seqn
        bursts acks).2 := by
  unfold Replication.remaining
  split
  · refine ⟨rfl, ?_⟩
    cases awaits with
    | acknowledged => exact .acknowledged number
    | late missing => exact .incomplete number missing
    | stopped => exact .stopped number
  · exact ⟨rfl, .replicating number copies awaits⟩

/-- A call that ends with missing acknowledgements, or because the node is stopped, has applied its
write. -/
theorem Attempt.Stands.isEffective {attempt : Attempt} {id : NodeId} {error : ClusterError}
    (stands : attempt.Stands id (.done (.error error)))
    (lost : error = .shutdown ∨ ∃ seqn missing, error = .replicationIncomplete seqn missing) :
    attempt.isEffective = true := by
  generalize progress_eq :
    (.done (.error error) : Progress Replication Replication.Result) = progress at stands
  cases stands with
  | refused =>
    -- the answer is the state, or that the numbers are used up
    have told := Progress.done.inj progress_eq
    unfold Order.refusal at told
    split at told
    · obtain rfl := Except.error.inj told
      simp at lost
    · exact nomatch told
  | replicating => exact nomatch progress_eq
  | acknowledged => exact nomatch Progress.done.inj progress_eq
  | incomplete number | stopped number => simp [Attempt.isEffective, number]

/-! ## A node that is written to -/

/-- A node with the calls of its users and the attempts that they have made. -/
structure Writer (C : Type) where
  site : Site (Tapped C)
  calls : List WriteCall := []
  /-- The attempts, the last one at the end. -/
  attempts : List Attempt := []

namespace Writer

variable {C : Type} [Carrier C]

/-- The attempt that a call makes when it goes on. -/
def attempt? (site : Site (Tapped C)) (index : Nat) (order : Order) : Replication → Option Attempt
  | .opening .. => some ⟨index, order, site.node.held, site.now,
      site.node.state.directory.alivePeers site.node.id⟩
  | .replicating .. => none

/-- What is left after a call went on. -/
def goOn (writer : Writer C) (index : Nat) (call : WriteCall) (work : Replication) : Writer C :=
  let step := work.advance writer.site
  let given := step.1.carrier.log.drop writer.site.carrier.log.length
  { site := step.1
    calls := writer.calls.set index
      { call with progress := step.2, sent := call.sent ++ given }
    attempts := writer.attempts ++ (attempt? writer.site index call.order work).toList }

/-- A step: somebody calls, a call goes on, or something else happens after which the node leads
with the same sum and number.  Meanwhile time may pass, the carrier may change, and the node may be
stopped. -/
inductive Step (writer : Writer C) : Writer C → Prop
  | ask (order : Order) : Step writer { writer with calls := writer.calls ++ [.opening order] }
  | goOn {index : Nat} {call : WriteCall} {work : Replication}
    (found : writer.calls[index]? = some call) (going : call.progress = .going work) :
    Step writer (writer.goOn index call work)
  | elsewhere {site : Site (Tapped C)} (deeds : writer.site.Deeds site)
    (leads : site.node.state.isPrimary = true) (same : site.node.held = writer.site.node.held) :
    Step writer { writer with site }

/-- A finite history of a node that is written to. -/
def Run : Writer C → Writer C → Prop :=
  Relation.ReflTransGen Step

/-! ## What every step preserves -/

/-- The node leads and holds what the attempts have left, and every call fits them. -/
structure Sound (start : Int64 × Seqn) (id : NodeId) (writer : Writer C) : Prop where
  leads : writer.site.node.state.isPrimary = true
  id_eq : writer.site.node.id = id
  held_eq : writer.site.node.held = Attempt.after start writer.attempts
  chained : Attempt.Chained start writer.attempts
  distinct : (writer.attempts.map (·.caller)).Nodup
  caller_lt : ∀ attempt ∈ writer.attempts, attempt.caller < writer.calls.length
  fits : ∀ (index : Nat) (call : WriteCall), writer.calls[index]? = some call →
    call.Fits id writer.attempts index

section Steps

variable {start : Int64 × Seqn} {id : NodeId} {writer next : Writer C}

omit [Carrier C] in
theorem Sound.ask (sound : Sound start id writer) (order : Order) :
    Sound start id { writer with calls := writer.calls ++ [.opening order] } := by
  refine ⟨sound.leads, sound.id_eq, sound.held_eq, sound.chained, sound.distinct, ?_, ?_⟩
  · intro attempt mem
    exact Nat.lt_of_lt_of_le (sound.caller_lt attempt mem) (by simp)
  · intro index call found
    rw [List.getElem?_append] at found
    split at found
    · exact sound.fits index call found
    · rename_i beyond
      obtain rfl := List.mem_singleton.1 (List.mem_of_getElem? found)
      refine .waiting fun attempt mem same => ?_
      exact beyond (same ▸ sound.caller_lt attempt mem)

omit [Carrier C] in
/-- Nothing changes for the calls while the node leads with the same state. -/
theorem Sound.elsewhere (sound : Sound start id writer) {site : Site (Tapped C)}
    (deeds : writer.site.Deeds site) (leads : site.node.state.isPrimary = true)
    (same : site.node.held = writer.site.node.held) :
    Sound start id { writer with site } :=
  ⟨leads, (Node.Deeds.id_eq deeds).trans sound.id_eq, same.trans sound.held_eq, sound.chained,
    sound.distinct, sound.caller_lt, sound.fits⟩

/-- What a call adds to the attempts when it goes on: nothing, or its only one. -/
inductive Gains (writer : Writer C) (index : Nat) : List Attempt → Prop
  | nothing : Gains writer index []
  | own {attempt : Attempt} (caller : attempt.caller = index)
    (fresh : ∀ other ∈ writer.attempts, other.caller ≠ index)
    (met : attempt.met = writer.site.node.held) : Gains writer index [attempt]

omit [Carrier C] in
theorem Gains.caller_eq {index : Nat} {more : List Attempt} (gains : writer.Gains index more) :
    ∀ attempt ∈ more, attempt.caller = index := by
  cases gains with
  | nothing => exact nofun
  | own caller => exact List.forall_mem_singleton.2 caller

omit [Carrier C] in
/-- The attempts stay in order, and each is another call's. -/
theorem Sound.gains (sound : Sound start id writer) {index : Nat} {more : List Attempt}
    (gains : writer.Gains index more) :
    Attempt.Chained start (writer.attempts ++ more) ∧
      ((writer.attempts ++ more).map (·.caller)).Nodup := by
  cases gains with
  | nothing => simpa using ⟨sound.chained, sound.distinct⟩
  | @own attempt caller fresh met =>
    refine ⟨sound.chained.append (met.trans sound.held_eq), ?_⟩
    rw [List.map_append, List.nodup_append]
    refine ⟨sound.distinct, List.pairwise_singleton _ _, fun other mem this this_mem same => ?_⟩
    obtain rfl : this = attempt.caller := List.mem_singleton.1 this_mem
    obtain ⟨earlier, earlier_mem, rfl⟩ := List.mem_map.1 mem
    exact fresh earlier earlier_mem (same.trans caller)

omit [Carrier C] in
/-- A call goes on without harm to the others. -/
theorem Sound.proceed (sound : Sound start id writer) {index : Nat} {call after : WriteCall}
    (found : writer.calls[index]? = some call) {site : Site (Tapped C)} {more : List Attempt}
    (gains : writer.Gains index more) (leads : site.node.state.isPrimary = true)
    (id_eq : site.node.id = id)
    (held_eq : site.node.held = Attempt.after start (writer.attempts ++ more))
    (fits : after.Fits id (writer.attempts ++ more) index) :
    Sound start id ⟨site, writer.calls.set index after, writer.attempts ++ more⟩ := by
  have in_range : index < writer.calls.length := (List.getElem?_eq_some_iff.1 found).1
  obtain ⟨chained, distinct⟩ := sound.gains gains
  refine ⟨leads, id_eq, held_eq, chained, distinct, fun attempt mem => ?_,
    fun other this this_found => ?_⟩
  · rw [List.length_set]
    rcases List.mem_append.1 mem with mem | mem
    · exact sound.caller_lt attempt mem
    · exact gains.caller_eq attempt mem ▸ in_range
  · by_cases same : index = other
    · subst same
      rw [List.getElem?_set_self in_range] at this_found
      exact Option.some.inj this_found ▸ fits
    · rw [List.getElem?_set_ne same] at this_found
      refine (sound.fits other this this_found).append fun attempt mem => ?_
      exact gains.caller_eq attempt mem ▸ same

omit [Carrier C] in
/-- A call goes on after its attempt. -/
theorem Sound.pursue (sound : Sound start id writer) {index : Nat} {call after : WriteCall}
    (found : writer.calls[index]? = some call) {site : Site (Tapped C)}
    (rests : writer.site.Rests site) (fits : after.Fits id writer.attempts index) :
    Sound start id ⟨site, writer.calls.set index after, writer.attempts ++ []⟩ := by
  have state := rests.state_eq
  have held : site.node.held = writer.site.node.held :=
    congrArg (fun state => (state.sum, state.seqn)) state
  refine sound.proceed found .nothing (state ▸ sound.leads) ?_ ?_ ?_
  · exact (congrArg State.selfId state).trans sound.id_eq
  · rw [List.append_nil]
    exact held.trans sound.held_eq
  · rw [List.append_nil]
    exact fits

/-- A call that has waited for its turn makes its attempt. -/
theorem Sound.attempt (sound : Sound start id writer) {index : Nat} {order : Order}
    (found : writer.calls[index]? = some (.opening order))
    (fresh : ∀ attempt ∈ writer.attempts, attempt.caller ≠ index) :
    Sound start id
      (writer.goOn index (.opening order) (.opening order.delta order.seqn)) := by
  let attempt : Attempt := ⟨index, order, writer.site.node.held, writer.site.now,
    writer.site.node.state.directory.alivePeers writer.site.node.id⟩
  have gains : writer.Gains index [attempt] := .own rfl fresh rfl
  have mem : attempt ∈ writer.attempts ++ [attempt] :=
    List.mem_append_right _ (List.mem_singleton_self attempt)
  have after : Attempt.after start (writer.attempts ++ [attempt]) =
      order.apply writer.site.node.held := by
    rw [Attempt.after_append, ← sound.held_eq]
  cases number : order.number? writer.site.node.state.seqn with
  | none =>
    have ineffective : attempt.number? = none := number
    have step := Replication.advance_of_ineffective sound.leads number
    unfold Writer.goOn
    simp only [WriteCall.opening, step, attempt?, List.nil_append, List.drop_length,
      Option.toList_some]
    refine sound.proceed found gains sound.leads sound.id_eq ?_ ?_
    · rw [after, Order.apply_of_ineffective number]
    · exact .attempted mem rfl (by simp [Attempt.letters, ineffective]) (.refused ineffective)
  | some seqn =>
    have applied : attempt.number? = some seqn := number
    obtain ⟨looked, given, bursts, acks, step, rests, awaits, gives, told, copies⟩ :=
      Replication.advance_opening sound.leads number
    have letters : (writer.site.node.applyWrite writer.site.now order.delta seqn).2.letters =
        attempt.letters id := by
      rw [← sound.id_eq, Attempt.letters, applied]
      rfl
    rw [letters] at told copies
    obtain ⟨stays, stands⟩ := Attempt.stands_remaining applied copies awaits looked
    have step : (Replication.opening order.delta order.seqn).advance writer.site =
        Replication.remaining looked (attempt.met.1 + attempt.order.delta) seqn bursts acks := step
    have state := rests.state_eq
    unfold Writer.goOn
    simp only [WriteCall.opening, step, attempt?, List.nil_append, Option.toList_some, stays,
      gives.drop_eq]
    refine sound.proceed found gains ?_ ?_ ?_ (.attempted mem rfl told stands)
    · exact state ▸ sound.leads
    · exact (congrArg State.selfId state).trans sound.id_eq
    · rw [after, Order.apply_of_number? number]
      exact congrArg (fun state => (state.sum, state.seqn)) state

/-- A call goes on, for the first time or after its attempt. -/
theorem Sound.goOn (sound : Sound start id writer) {index : Nat} {call : WriteCall}
    {work : Replication} (found : writer.calls[index]? = some call)
    (going : call.progress = .going work) : Sound start id (writer.goOn index call work) := by
  have fits := sound.fits index call found
  cases fits with
  | waiting fresh =>
    obtain rfl := Progress.going.inj going
    exact sound.attempt found fresh
  | @attempted attempt _ sent mem caller told stands =>
    cases stands with
    | @replicating seqn bursts acks number copies awaits =>
      obtain rfl := Progress.going.inj going
      obtain ⟨looked, given, bursts', acks', step, rests, awaits', gives, from_bursts, rest⟩ :=
        @Replication.advance_replicating C _ writer.site seqn acks awaits
          (attempt.met.1 + attempt.order.delta) bursts
      have copies' : ∀ burst ∈ bursts', burst.letter ∈ attempt.letters id := fun burst mem => by
        obtain ⟨earlier, earlier_mem, same⟩ := rest burst mem
        exact same ▸ copies earlier earlier_mem
      have told' : ∀ letter, letter ∈ sent ++ given ↔ letter ∈ attempt.letters id := by
        intro letter
        refine List.mem_append.trans ⟨?_, fun mem => .inl ((told letter).2 mem)⟩
        rintro (mem | mem)
        · exact (told letter).1 mem
        · obtain ⟨burst, burst_mem, rfl⟩ := from_bursts letter mem
          exact copies burst burst_mem
      obtain ⟨stays, stands⟩ := Attempt.stands_remaining number copies' awaits' looked
      unfold Writer.goOn
      simp only [step, attempt?, Option.toList_none, stays, gives.drop_eq]
      exact sound.pursue found rests (.attempted mem caller told' stands)
    | refused | acknowledged | incomplete | stopped => exact nomatch going

theorem Sound.step (sound : Sound start id writer) (steps : writer.Step next) :
    Sound start id next := by
  cases steps with
  | ask order => exact sound.ask order
  | goOn found going => exact sound.goOn found going
  | elsewhere deeds leads same => exact sound.elsewhere deeds leads same

end Steps

/-! ## Every history -/

section Histories

variable {first writer : Writer C}

theorem Run.sound (leads : first.site.node.state.isPrimary = true) (idle : first.calls = [])
    (untried : first.attempts = []) (run : first.Run writer) :
    Sound first.site.node.held first.site.node.id writer := by
  induction run with
  | refl =>
    refine ⟨leads, rfl, ?_, ?_, ?_, ?_, ?_⟩
    · rw [untried]
      rfl
    · intro before attempt rest split
      simp [untried] at split
    all_goals simp [untried, idle]
  | tail _ step ih => exact ih.step step

/-- In every history of a node that leads, the node holds the fold of the attempts so far: the sum
at the start and the deltas of the effective ones, under the number of the last of them.  Each
attempt is another call's, and met what the earlier ones had left; if it is effective it has raised
the number and told the peers its own state, and nothing else was told.  A call that ends with
missing acknowledgements, or because the node is stopped, has made an effective attempt.  And an
attempt that is not effective, or anywhere at a node that does not lead, leaves everything as it
was. -/
theorem writes_fold (leads : first.site.node.state.isPrimary = true) (idle : first.calls = [])
    (untried : first.attempts = []) (run : first.Run writer) :
    writer.site.node.held = Attempt.after first.site.node.held writer.attempts ∧
    writer.site.node.state.sum = Int64.ofInt (first.site.node.state.sum.toInt +
      ((writer.attempts.filter Attempt.isEffective).map fun attempt =>
        attempt.order.delta.toInt).sum) ∧
    (writer.attempts.map (·.caller)).Nodup ∧
    (∀ before attempt rest, writer.attempts = before ++ attempt :: rest →
      attempt.met = Attempt.after first.site.node.held before ∧
      ∀ seqn, attempt.number? = some seqn → attempt.met.2 < seqn ∧
        Attempt.after first.site.node.held (before ++ [attempt]) =
          (attempt.met.1 + attempt.order.delta, seqn)) ∧
    (∀ index (call : WriteCall), writer.calls[index]? = some call →
      call.Fits first.site.node.id writer.attempts index) ∧
    (∀ index order sent error, writer.calls[index]? = some ⟨order, .done (.error error), sent⟩ →
      (error = .shutdown ∨ ∃ seqn missing, error = .replicationIncomplete seqn missing) →
      ∃ attempt ∈ writer.attempts, attempt.caller = index ∧ attempt.order = order ∧
        attempt.isEffective = true) ∧
    ∀ (site : Site (Tapped C)) (order : Order),
      (site.node.state.isPrimary = false →
        (Replication.opening order.delta order.seqn).advance site =
          (site, .done (.error (.notPrimary site.node.state.primary)))) ∧
      (site.node.state.isPrimary = true → order.number? site.node.state.seqn = none →
        (Replication.opening order.delta order.seqn).advance site =
          (site, .done (order.refusal site.node.held))) := by
  have sound := run.sound leads idle untried
  have sum := Attempt.sum_after sound.chained
  rw [← sound.held_eq] at sum
  refine ⟨sound.held_eq, sum, sound.distinct, fun before attempt rest split => ?_, sound.fits,
    fun index order sent error found lost => ?_, fun site order =>
      ⟨fun backup => Replication.advance_of_backup backup order,
        Replication.advance_of_ineffective⟩⟩
  · have met := sound.chained before attempt rest split
    refine ⟨met, fun seqn number => ⟨Order.lt_of_number? number, ?_⟩⟩
    rw [Attempt.after_append, ← met, Order.apply_of_number? number]
  · cases sound.fits index _ found with
    | @attempted attempt _ _ mem caller told stands =>
      exact ⟨attempt, mem, caller, rfl, stands.isEffective lost⟩

end Histories

/-! ## A write that is not acknowledged -/

/-- A primary with one peer that has just been created, before anybody writes. -/
def idle : Writer Recorder where
  site :=
    { moment := ⟨0, 0.0⟩
      carrier := ⟨{}, []⟩
      member := Service.host.site.member }

/-- A write, a duplicate of it and a write that skips some numbers, while nobody acknowledges: the
first call ends for want of acknowledgements. -/
theorem writes_fold_unacknowledged :
    ∃ writer, idle.Run writer ∧ writer.site.node.held = (16, 4) ∧
      writer.attempts.map Attempt.isEffective = [true, false, true] ∧
      writer.calls[0]? = some ⟨⟨7, none⟩, .done (.error (.replicationIncomplete 1 [2])),
        [⟨.v4 ⟨10, 0, 0, 2⟩ 1, .stateUpdate 1 7 1 (Time.stamp 0)⟩]⟩ ∧
      writer.site.node.state.sum = Int64.ofInt (0 + (7 + 9)) ∧
      ∃ attempt ∈ writer.attempts, attempt.caller = 0 ∧ attempt.isEffective = true := by
  have waits : ∀ writer : Writer Recorder, writer.site.node.state.isPrimary = true →
      writer.Step { writer with site.moment := ⟨1000, 0.0⟩ } :=
    fun writer leads => .elsewhere (.refl writer.site) leads rfl
  have writes : idle.Run _ :=
    .tail (.single (.ask ⟨7, none⟩)) (@Step.goOn Recorder _ _ 0 _ _ rfl rfl)
  have repeats : Run _ _ :=
    .tail (.tail writes (.ask ⟨5, some 1⟩)) (@Step.goOn Recorder _ _ 1 _ _ rfl rfl)
  have skips : Run _ _ :=
    .tail (.tail repeats (.ask ⟨9, some 4⟩)) (@Step.goOn Recorder _ _ 2 _ _ rfl rfl)
  have run : Run _ _ :=
    .tail (.tail skips (waits _ rfl)) (@Step.goOn Recorder _ _ 0 _ _ rfl rfl)
  obtain ⟨-, sum, -, -, -, stays, -⟩ := writes_fold rfl rfl rfl run
  obtain ⟨attempt, mem, caller, -, effective⟩ :=
    stays 0 _ _ (.replicationIncomplete 1 [2]) rfl (.inr ⟨1, [2], rfl⟩)
  exact ⟨_, run, rfl, rfl, rfl, sum, attempt, mem, caller, effective⟩

end Writer

end SumCluster
