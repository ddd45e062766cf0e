import SumCluster.Carrier.Recorder
import SumCluster.Proofs.Work.Deeds

/-!
# What clients are told of their writes

Several requests of clients may be under way at a node that leads, while it does other things, time
passes and it may be stopped (`Service`).  A ledger beside the calls keeps the writes that they have
applied.  The state of the node is always the one after the last of them (`Tallies`), and each call
knows its own write (`Fits`).

* `Service.answers_report_writes`: the writes of the calls have different numbers.  An answer that
  reports success tells the number of the call's own write and the sum right after it; one that
  reports missing acknowledgements tells the sum after a write that is not earlier, and once the
  node is stopped it may tell the number of that write as well.
* `Service.answers_report_later_writes`: that write may be the one of another client.
-/

namespace SumCluster

/-! ## Writes of calls -/

/-- A write that a client asked for. -/
structure ServedWrite where
  /-- The index of the call that applied it. -/
  caller : Nat
  delta : Int64
  seqn : Seqn
  deriving DecidableEq, Repr, Inhabited

namespace ServedWrite

/-- The sum after some writes. -/
def total (start : Int64) (writes : List ServedWrite) : Int64 :=
  writes.foldl (fun sum write => sum + write.delta) start

/-- The sum after all writes with numbers up to a given one. -/
def sumAt (start : Int64) (writes : List ServedWrite) (seqn : Seqn) : Int64 :=
  total start (writes.filter fun write => write.seqn ≤ seqn)

/-- It is earlier than another write, and another call has applied it. -/
def Precedes (write later : ServedWrite) : Prop :=
  write.seqn < later.seqn ∧ write.caller ≠ later.caller

/-- It is the write of a call. -/
def Serves (write : ServedWrite) (index : Nat) (request : ClientRequest) : Prop :=
  write.caller = index ∧ write.delta = request.value

variable {start : Int64} {writes more : List ServedWrite} {seqn : Seqn}

theorem total_append (write : ServedWrite) :
    total start (writes ++ [write]) = total start writes + write.delta := by
  simp [total]

/-- Later writes do not change the sum after a write. -/
theorem sumAt_append (later : ∀ write ∈ more, seqn < write.seqn) :
    sumAt start (writes ++ more) seqn = sumAt start writes seqn := by
  have none : more.filter (fun write => write.seqn ≤ seqn) = [] := by
    simpa [List.filter_eq_nil_iff] using later
  rw [sumAt, List.filter_append, none, List.append_nil, sumAt]

theorem sumAt_eq_total (all : ∀ write ∈ writes, write.seqn ≤ seqn) :
    sumAt start writes seqn = total start writes := by
  rw [sumAt, List.filter_eq_self.2 (by simpa using all)]

end ServedWrite

open ServedWrite (sumAt total)

/-- The state of a leader is the one after the last of its writes. -/
structure Tallies (start : Int64) (writes : List ServedWrite) (state : State) : Prop where
  leads : state.isPrimary = true
  sum_eq : state.sum = total start writes
  seqn_le : ∀ write ∈ writes, write.seqn ≤ state.seqn
  exists_last : writes ≠ [] → ∃ last ∈ writes, last.seqn = state.seqn

namespace Tallies

variable {start : Int64} {writes : List ServedWrite} {state next : State}

theorem sum_eq_sumAt (tallies : Tallies start writes state) :
    state.sum = sumAt start writes state.seqn := by
  rw [ServedWrite.sumAt_eq_total tallies.seqn_le]
  exact tallies.sum_eq

/-- What a leader holds is the state after its last write, and no write is later. -/
theorem exists_latest (tallies : Tallies start writes state) {own : ServedWrite}
    (mem : own ∈ writes) :
    ∃ latest ∈ writes, own.seqn ≤ latest.seqn ∧ state.seqn = latest.seqn ∧
      state.sum = sumAt start writes latest.seqn := by
  obtain ⟨last, last_mem, same⟩ := tallies.exists_last (List.ne_nil_of_mem mem)
  exact ⟨last, last_mem, same ▸ tallies.seqn_le own mem, same.symm, same ▸ tallies.sum_eq_sumAt⟩

theorem of_held (tallies : Tallies start writes state) (leads : next.isPrimary = true)
    (sum : next.sum = state.sum) (seqn : next.seqn = state.seqn) : Tallies start writes next where
  leads := leads
  sum_eq := sum.trans tallies.sum_eq
  seqn_le write mem := seqn ▸ tallies.seqn_le write mem
  exists_last some_write := seqn ▸ tallies.exists_last some_write

theorem lt_of_mem (tallies : Tallies start writes state) {own : ServedWrite} (mem : own ∈ writes)
    {seqn : Seqn} (higher : state.seqn < seqn) : own.seqn < seqn :=
  UInt64.lt_of_le_of_lt (tallies.seqn_le own mem) higher

/-- A write under a higher number is the last one. -/
theorem apply (tallies : Tallies start writes state) (write : ServedWrite)
    (higher : state.seqn < write.seqn) :
    Tallies start (writes ++ [write]) (state.apply write.delta write.seqn) where
  leads := tallies.leads
  sum_eq := by
    rw [ServedWrite.total_append, ← tallies.sum_eq]
    rfl
  seqn_le other mem := by
    rcases List.mem_append.1 mem with mem | mem
    · exact UInt64.le_of_lt (tallies.lt_of_mem mem higher)
    · obtain rfl := List.mem_singleton.1 mem
      exact UInt64.le_refl _
  exists_last _ := ⟨write, by simp, rfl⟩

end Tallies

/-! ## Answers -/

/-- What the answer to a request may say, `own` being the write of its call. -/
inductive Reports (start : Int64) (writes : List ServedWrite) (isStopped : Bool)
    (requestId : UInt64) (own : ServedWrite) : ClientResponse → Prop
  /-- The state right after the write. -/
  | held : Reports start writes isStopped requestId own
      ⟨requestId, sumAt start writes own.seqn, own.seqn, .ok, none⟩
  /-- The number of the write, but the sum after one that is not earlier. -/
  | unconfirmed {latest : ServedWrite} (mem : latest ∈ writes)
      (notEarlier : own.seqn ≤ latest.seqn) : Reports start writes isStopped requestId own
      ⟨requestId, sumAt start writes latest.seqn, own.seqn, .replicationIncomplete, none⟩
  /-- The state after a write that is not earlier. -/
  | stopped {latest : ServedWrite} (mem : latest ∈ writes)
      (notEarlier : own.seqn ≤ latest.seqn) (stops : isStopped = true) :
      Reports start writes isStopped requestId own
      ⟨requestId, sumAt start writes latest.seqn, latest.seqn, .replicationIncomplete, none⟩

/-- The wait for the acknowledgements of the write with a number. -/
inductive AckWait.IsFor (isStopped : Bool) (seqn : Seqn) : AckWait → Prop
  | waiting (deadline again : Int) : IsFor isStopped seqn (.waiting deadline again)
  | acknowledged : IsFor isStopped seqn (.settled (.ok ()))
  | late (missing : List NodeId) :
    IsFor isStopped seqn (.settled (.error (.replicationIncomplete seqn missing)))
  | stopped (stops : isStopped = true) : IsFor isStopped seqn (.settled (.error .shutdown))

/-- A call for a client: what was asked for, and what is left to do or came of it. -/
structure ClientCall where
  request : ClientRequest
  progress : Progress Activity Outcome

/-- The call that has just been made. -/
def ClientCall.opening (request : ClientRequest) : ClientCall :=
  ⟨request, .going (.serving request (.opening request.value none))⟩

/-- How a call fits the writes. -/
inductive Fits (start : Int64) (writes : List ServedWrite) (isStopped : Bool) (index : Nat) :
    ClientCall → Prop
  | opening {request : ClientRequest} (fresh : ∀ write ∈ writes, write.caller ≠ index) :
    Fits start writes isStopped index (.opening request)
  | replicating {request : ClientRequest} {own : ServedWrite} {bursts : List Burst}
    {acks : AckWait} (mem : own ∈ writes) (serves : own.Serves index request)
    (awaits : acks.IsFor isStopped own.seqn) :
    Fits start writes isStopped index ⟨request, .going <| .serving request <|
      .replicating (sumAt start writes own.seqn) own.seqn bursts acks⟩
  /-- The numbers are used up. -/
  | refused {request : ClientRequest} : Fits start writes isStopped index
      ⟨request, .done (.responded (.error .seqnExhausted))⟩
  | answered {request : ClientRequest} {own : ServedWrite} {response : ClientResponse}
    (mem : own ∈ writes) (serves : own.Serves index request)
    (reports : Reports start writes isStopped request.requestId own response) :
    Fits start writes isStopped index ⟨request, .done (.responded (.ok response))⟩

section Later

variable {start : Int64} {writes more : List ServedWrite} {isStopped stopsLater : Bool}

theorem AckWait.IsFor.mono {seqn : Seqn} {acks : AckWait} (awaits : acks.IsFor isStopped seqn)
    (stays : isStopped = true → stopsLater = true) : acks.IsFor stopsLater seqn := by
  cases awaits with
  | waiting deadline again => exact .waiting deadline again
  | acknowledged => exact .acknowledged
  | late missing => exact .late missing
  | stopped stops => exact .stopped (stays stops)

variable (later : ∀ own ∈ writes, ∀ write ∈ more, own.seqn < write.seqn)
  (stays : isStopped = true → stopsLater = true)

include later stays

theorem Reports.mono {requestId : UInt64} {own : ServedWrite} {response : ClientResponse}
    (mem : own ∈ writes) (reports : Reports start writes isStopped requestId own response) :
    Reports start (writes ++ more) stopsLater requestId own response := by
  cases reports with
  | held =>
    rw [← ServedWrite.sumAt_append (later own mem)]
    exact .held
  | @unconfirmed latest latest_mem notEarlier =>
    rw [← ServedWrite.sumAt_append (later latest latest_mem)]
    exact .unconfirmed (List.mem_append_left _ latest_mem) notEarlier
  | @stopped latest latest_mem notEarlier stops =>
    rw [← ServedWrite.sumAt_append (later latest latest_mem)]
    exact .stopped (List.mem_append_left _ latest_mem) notEarlier (stays stops)

/-- A call still fits when others have written. -/
theorem Fits.mono {index : Nat} {call : ClientCall}
    (others : ∀ write ∈ more, write.caller ≠ index)
    (fits : Fits start writes isStopped index call) :
    Fits start (writes ++ more) stopsLater index call := by
  cases fits with
  | opening fresh =>
    refine .opening fun write mem => ?_
    rcases List.mem_append.1 mem with mem | mem
    · exact fresh write mem
    · exact others write mem
  | @replicating _ own _ _ mem serves awaits =>
    rw [← ServedWrite.sumAt_append (later own mem)]
    exact .replicating (List.mem_append_left _ mem) serves (awaits.mono stays)
  | refused => exact .refused
  | answered mem serves reports =>
    exact .answered (List.mem_append_left _ mem) serves (reports.mono later stays mem)

end Later

/-! ## A call goes on -/

/-- A later stage of a site with the same state and the same prospects. -/
structure Site.Rests {C : Type} (site later : Site C) : Prop where
  state_eq : later.node.state = site.node.state
  isCancelled_eq : later.isCancelled = site.isCancelled

theorem Site.Rests.trans {C : Type} {site middle later : Site C} (first : site.Rests middle)
    (second : middle.Rests later) : site.Rests later :=
  ⟨second.state_eq.trans first.state_eq, second.isCancelled_eq.trans first.isCancelled_eq⟩

theorem Burst.rests_advanceAll {C : Type} [Carrier C] (bursts : List Burst) (site : Site C) :
    site.Rests (advanceAll site bursts).1 := by
  obtain ⟨carrier, same⟩ := exists_carrier_advanceAll bursts site
  rw [same]
  exact ⟨rfl, rfl⟩

theorem Site.rests_sendAll {C : Type} [Carrier C] (site : Site C) (letters : List Letter) :
    site.Rests (site.sendAll letters).1 :=
  Burst.rests_advanceAll _ site

namespace Node

/-- A look for acknowledgements leaves the state as it is, and either finds all of them or gives up
those that are missing. -/
theorem settles_pollAcks (node : Node) (now : Int) (seqn : Seqn) (deadline : Int) :
    (node.pollAcks now seqn deadline).1.state = node.state ∧
      ∀ result, (node.pollAcks now seqn deadline).2 = some result →
        result = .ok () ∨ ∃ missing, result = .error (.replicationIncomplete seqn missing) := by
  unfold pollAcks
  simp only
  split
  · exact ⟨rfl, fun result same => .inl (Option.some.inj same).symm⟩
  · split
    · exact ⟨rfl, fun result same => .inr ⟨_, (Option.some.inj same).symm⟩⟩
    · exact ⟨rfl, nofun⟩

/-- A leader refuses a write without a number only if there is no number left. -/
theorem startWrite_none {node : Node} (leads : node.state.isPrimary = true) (now : Int)
    (delta : Int64) :
    node.startWrite now delta none = .refused .seqnExhausted ∨
      ∃ next write, node.startWrite now delta none = .applied next write := by
  unfold startWrite
  rw [leads]
  simp only [Bool.not_true, Bool.false_eq_true, if_false]
  split
  · exact .inl rfl
  · exact .inr ⟨_, _, rfl⟩

end Node

namespace Replication

variable {C : Type} {start : Int64} {writes : List ServedWrite} {own : ServedWrite} {index : Nat}
  {site : Site C}

theorem awaits_look (site : Site C) (seqn : Seqn) (deadline : Int) :
    site.Rests (look site seqn deadline).1 ∧
      (look site seqn deadline).2.IsFor site.isCancelled seqn := by
  obtain ⟨same, ends⟩ := site.node.settles_pollAcks site.now seqn deadline
  unfold look
  split
  · rename_i node result polls
    rw [polls] at same ends
    refine ⟨⟨same, rfl⟩, ?_⟩
    rcases ends result rfl with rfl | ⟨missing, rfl⟩
    · exact .acknowledged
    · exact .late missing
  · rename_i node polls
    rw [polls] at same
    refine ⟨⟨same, rfl⟩, ?_⟩
    split
    · rename_i stops
      exact .stopped stops
    · exact .waiting _ _

theorem awaits_advanceAcks {seqn : Seqn} {acks : AckWait}
    (awaits : acks.IsFor site.isCancelled seqn) :
    site.Rests (advanceAcks site seqn acks).1 ∧
      (advanceAcks site seqn acks).2.IsFor site.isCancelled seqn := by
  cases acks with
  | settled => exact ⟨⟨rfl, rfl⟩, awaits⟩
  | waiting deadline again =>
    simp only [advanceAcks]
    split
    · rename_i stops
      exact ⟨⟨rfl, rfl⟩, .stopped stops⟩
    · split
      · exact awaits_look site seqn deadline
      · exact ⟨⟨rfl, rfl⟩, awaits⟩

section Steps

variable [Carrier C]

/-- A write that is applied is sent, and its acknowledgements are looked for at once. -/
theorem begin_eq_remaining {delta : Int64} {seqn : Option Seqn} {next : Node} {write : AppliedWrite}
    (starts : site.node.startWrite site.now delta seqn = .applied next write) :
    ∃ looked bursts acks,
      begin site delta seqn = remaining looked write.sum write.seqn bursts acks ∧
        (site.withNode next).Rests looked ∧ acks.IsFor site.isCancelled write.seqn := by
  have sends := (site.withNode next).rests_sendAll write.letters
  obtain ⟨⟨sent, bursts⟩, sent_eq⟩ : ∃ sent, (site.withNode next).sendAll write.letters = sent :=
    ⟨_, rfl⟩
  rw [sent_eq] at sends
  obtain ⟨looks, awaits⟩ :=
    awaits_look sent write.seqn (Time.after sent.now next.config.ackTimeout)
  rw [sends.isCancelled_eq] at awaits
  refine ⟨_, bursts, _, ?_, sends.trans looks, awaits⟩
  simp only [begin, starts, sent_eq]

/-- What goes on with a write that is applied leaves the state as it is. -/
theorem advance_eq_remaining {seqn : Seqn} {acks : AckWait}
    (awaits : acks.IsFor site.isCancelled seqn) (sum : Int64) (bursts : List Burst) :
    ∃ looked bursts' acks',
      (Replication.replicating sum seqn bursts acks).advance site =
          remaining looked sum seqn bursts' acks' ∧
        site.Rests looked ∧ acks'.IsFor site.isCancelled seqn := by
  have sends := Burst.rests_advanceAll bursts site
  rw [← sends.isCancelled_eq] at awaits
  obtain ⟨looks, awaits⟩ := awaits_advanceAcks awaits
  rw [sends.isCancelled_eq] at awaits
  exact ⟨_, _, _, rfl, sends.trans looks, awaits⟩

end Steps

/-- What is left of a call after a step of its write. -/
def answering (request : ClientRequest) (step : Step C) : ClientCall :=
  ⟨request, (step.2.mapWork (.serving request)).mapResult fun result =>
    .responded (step.1.node.respond request result)⟩

/-- A call whose write is applied waits on, or answers. -/
theorem fits_remaining {looked : Site C} (rests : site.Rests looked)
    (tallies : Tallies start writes site.node.state) (mem : own ∈ writes)
    {request : ClientRequest} (serves : own.Serves index request) {acks : AckWait}
    (awaits : acks.IsFor site.isCancelled own.seqn) (bursts : List Burst) :
    site.Rests (remaining looked (sumAt start writes own.seqn) own.seqn bursts acks).1 ∧
      Fits start writes site.isCancelled index (answering request
        (remaining looked (sumAt start writes own.seqn) own.seqn bursts acks)) := by
  obtain ⟨latest, latest_mem, notEarlier, seqn_eq, sum_eq⟩ := tallies.exists_latest mem
  rw [← rests.state_eq] at seqn_eq sum_eq
  unfold remaining
  split
  · refine ⟨rests, ?_⟩
    -- the answer is made of what the node holds now, unless the acknowledgements are complete
    cases awaits with
    | acknowledged => exact .answered mem serves .held
    | late missing =>
      have reports : Reports start writes site.isCancelled request.requestId own _ :=
        .unconfirmed latest_mem notEarlier
      rw [← sum_eq] at reports
      exact .answered mem serves reports
    | stopped stops =>
      have reports : Reports start writes site.isCancelled request.requestId own _ :=
        .stopped latest_mem notEarlier stops
      rw [← sum_eq, ← seqn_eq] at reports
      exact .answered mem serves reports
  · exact ⟨rests, .replicating mem serves awaits⟩

end Replication

/-! ## A node that serves clients -/

/-- A node with the calls of its clients and the writes that they have applied. -/
structure Service (C : Type) where
  site : Site C
  calls : List ClientCall := []
  /-- The writes, the last one at the end. -/
  writes : List ServedWrite := []

namespace Service

variable {C : Type} [Carrier C]

/-- What can happen to the calls. -/
inductive Event
  /-- A client asks. -/
  | ask (request : ClientRequest)
  /-- A call goes on. -/
  | goOn (index : Nat)
  /-- Time passes, and the next throws of chance give a number. -/
  | pass (duration : Nat) (chance : Float)
  /-- The node is stopped. -/
  | stop

/-- The write that an activity applies when it goes on. -/
def write? (site : Site C) (index : Nat) : Activity → Option ServedWrite
  | .serving _ (.opening delta seqn) =>
    match site.node.startWrite site.now delta seqn with
    | .applied _ write => some ⟨index, delta, write.seqn⟩
    | _ => none
  | _ => none

/-- What is left after a call went on. -/
def goOn (service : Service C) (index : Nat) (call : ClientCall) (activity : Activity) :
    Service C :=
  let turn := activity.advance service.site false
  { site := turn.site
    calls := service.calls.set index { call with progress := turn.progress }
    writes := service.writes ++ (write? service.site index activity).toList }

/-- What happens, if it can. -/
def act? (service : Service C) : Event → Option (Service C)
  | .ask request => some { service with calls := service.calls ++ [.opening request] }
  | .goOn index =>
    (service.calls[index]?).bind fun call =>
      match call.progress with
      | .going activity => some (service.goOn index call activity)
      | .done _ => none
  | .pass duration chance =>
    some { service with site.moment := ⟨Time.after service.site.now duration, chance⟩ }
  | .stop => some { service with site := Activity.stop service.site }

/-- A step: something happens to the calls, or the node does something else. -/
inductive Step (service : Service C) : Service C → Prop
  | event {next : Service C} (event : Event) (acts : service.act? event = some next) :
    Step service next
  /-- Any deed after which the node leads with the same sum and number. -/
  | deed {node : Node} {cause : Cause} {letters : List Letter}
    (deed : service.site.node.Deed service.site.now cause node letters)
    (leads : node.state.isPrimary = true) (same : node.held = service.site.node.held) :
    Step service { service with site := service.site.withNode node }
  /-- The carrier changes in any way. -/
  | carry (carrier : C) :
    Step service { service with site := service.site.withCarrier carrier }

/-- A finite history of a service. -/
def Run : Service C → Service C → Prop :=
  Relation.ReflTransGen Step

/-- What happens to the calls one after the other, if it can. -/
def run? (service : Service C) : List Event → Option (Service C)
  | [] => some service
  | event :: rest => (service.act? event).bind (run? · rest)

theorem run_of_run? {service final : Service C} (events : List Event)
    (runs : service.run? events = some final) : service.Run final := by
  induction events generalizing service with
  | nil =>
    obtain rfl := Option.some.inj runs
    exact .refl
  | cons event rest ih =>
    obtain ⟨next, acts, runs⟩ := Option.bind_eq_some_iff.1 runs
    exact .head (.event event acts) (ih runs)

/-! ## What every step preserves -/

/-- The node leads with the state after the last write, the numbers and the callers of the writes
are different, and every call fits them. -/
structure Sound (start : Int64) (service : Service C) : Prop where
  tallies : Tallies start service.writes service.site.node.state
  apart : service.writes.Pairwise ServedWrite.Precedes
  caller_lt : ∀ write ∈ service.writes, write.caller < service.calls.length
  fits : ∀ (index : Nat) (call : ClientCall), service.calls[index]? = some call →
    Fits start service.writes service.site.isCancelled index call

/-- What a call adds to the writes when it goes on: nothing, or its only one, which is the last. -/
inductive Adds (writes : List ServedWrite) (index : Nat) : List ServedWrite → Prop
  | nothing : Adds writes index []
  | own {own : ServedWrite} (caller : own.caller = index)
    (fresh : ∀ write ∈ writes, write.caller ≠ index)
    (higher : ∀ write ∈ writes, write.seqn < own.seqn) : Adds writes index [own]

section Adds

variable {writes more : List ServedWrite} {index : Nat}

theorem Adds.later (adds : Adds writes index more) :
    ∀ own ∈ writes, ∀ write ∈ more, own.seqn < write.seqn := by
  cases adds with
  | nothing => simp
  | own _ _ higher => simpa using higher

theorem Adds.caller_eq (adds : Adds writes index more) : ∀ write ∈ more, write.caller = index := by
  cases adds with
  | nothing => simp
  | own caller => simpa using caller

theorem Adds.apart (adds : Adds writes index more)
    (apart : writes.Pairwise ServedWrite.Precedes) :
    (writes ++ more).Pairwise ServedWrite.Precedes := by
  cases adds with
  | nothing => simpa using apart
  | own caller fresh higher =>
    refine List.pairwise_append.2 ⟨apart, List.pairwise_singleton _ _, ?_⟩
    intro write mem later later_mem
    obtain rfl := List.mem_singleton.1 later_mem
    exact ⟨higher write mem, caller ▸ fresh write mem⟩

end Adds

section Steps

variable {start : Int64} {service next : Service C}

omit [Carrier C] in
/-- Nothing changes for the calls while the node leads with the same state. -/
theorem Sound.withSite (sound : Sound start service) {site : Site C}
    (leads : site.node.state.isPrimary = true) (same : site.node.held = service.site.node.held)
    (stays : service.site.isCancelled = true → site.isCancelled = true) :
    Sound start { service with site } := by
  obtain ⟨sum_eq, seqn_eq⟩ := Prod.mk.inj same
  refine ⟨sound.tallies.of_held leads sum_eq seqn_eq, sound.apart, sound.caller_lt, ?_⟩
  intro index call found
  have none_later : ∀ own ∈ service.writes, ∀ write ∈ ([] : List ServedWrite),
      own.seqn < write.seqn := by simp
  have fits := (sound.fits index call found).mono none_later stays (by simp)
  simpa using fits

omit [Carrier C] in
theorem Sound.ask (sound : Sound start service) (request : ClientRequest) :
    Sound start { service with calls := service.calls ++ [.opening request] } := by
  refine ⟨sound.tallies, sound.apart, ?_, ?_⟩
  · intro write mem
    exact Nat.lt_of_lt_of_le (sound.caller_lt write mem) (by simp)
  · intro index call found
    rw [List.getElem?_append] at found
    split at found
    · exact sound.fits index call found
    · rename_i beyond
      obtain rfl := List.mem_singleton.1 (List.mem_of_getElem? found)
      refine .opening fun write mem same => ?_
      exact beyond (same ▸ sound.caller_lt write mem)

omit [Carrier C] in
/-- A call goes on without harm to the others. -/
theorem Sound.proceed (sound : Sound start service) {index : Nat} {call after : ClientCall}
    (found : service.calls[index]? = some call) {site : Site C} {more : List ServedWrite}
    (adds : Adds service.writes index more)
    (tallies : Tallies start (service.writes ++ more) site.node.state)
    (same : site.isCancelled = service.site.isCancelled)
    (fits : Fits start (service.writes ++ more) service.site.isCancelled index after) :
    Sound start ⟨site, service.calls.set index after, service.writes ++ more⟩ := by
  have in_range : index < service.calls.length := (List.getElem?_eq_some_iff.1 found).1
  refine ⟨tallies, adds.apart sound.apart, ?_, ?_⟩
  · intro write mem
    rw [List.length_set]
    rcases List.mem_append.1 mem with mem | mem
    · exact sound.caller_lt write mem
    · exact adds.caller_eq write mem ▸ in_range
  · intro other this this_found
    rw [same]
    rw [List.getElem?_set] at this_found
    split at this_found
    · rename_i index_eq
      subst index_eq
      obtain rfl := Option.some.inj this_found
      exact fits
    · rename_i ne
      refine (sound.fits other this this_found).mono adds.later id fun write mem => ?_
      exact adds.caller_eq write mem ▸ ne

omit [Carrier C] in
/-- A call goes on and applies nothing. -/
theorem Sound.rest (sound : Sound start service) {index : Nat} {call after : ClientCall}
    (found : service.calls[index]? = some call) {site : Site C} (rests : service.site.Rests site)
    (fits : Fits start service.writes service.site.isCancelled index after) :
    Sound start ⟨site, service.calls.set index after, service.writes ++ []⟩ := by
  have tallies : Tallies start service.writes site.node.state := rests.state_eq ▸ sound.tallies
  exact sound.proceed found .nothing (by simpa using tallies) rests.isCancelled_eq
    (by simpa using fits)

/-- A write that is applied becomes the last one. -/
theorem tallies_of_startWrite {writes : List ServedWrite} {node after : Node} {now : Int}
    {write : AppliedWrite} (tallies : Tallies start writes node.state) (index : Nat)
    {delta : Int64} (starts : node.startWrite now delta none = .applied after write) :
    Tallies start (writes ++ [⟨index, delta, write.seqn⟩]) after.state ∧
      node.state.seqn < write.seqn ∧
      write.sum = sumAt start (writes ++ [⟨index, delta, write.seqn⟩]) write.seqn := by
  obtain ⟨-, higher, applied⟩ := Node.applied_of_startWrite starts
  obtain ⟨rfl, write_eq⟩ := Prod.mk.inj applied
  have applies := tallies.apply ⟨index, delta, write.seqn⟩ higher
  exact ⟨applies, higher, (congrArg AppliedWrite.sum write_eq).trans applies.sum_eq_sumAt⟩

theorem goOn_serving (service : Service C) (index : Nat) (request : ClientRequest)
    (work : Replication) :
    service.goOn index ⟨request, .going (.serving request work)⟩ (.serving request work) =
      ⟨(work.advance service.site).1,
        service.calls.set index (Replication.answering request (work.advance service.site)),
        service.writes ++ (write? service.site index (.serving request work)).toList⟩ :=
  rfl

theorem Sound.goOn (sound : Sound start service) {index : Nat} {request : ClientRequest}
    {activity : Activity} (found : service.calls[index]? = some ⟨request, .going activity⟩) :
    Sound start (service.goOn index ⟨request, .going activity⟩ activity) := by
  have fits := sound.fits index _ found
  cases fits with
  | opening fresh =>
    rw [goOn_serving]
    simp only [Replication.advance, write?]
    rcases Node.startWrite_none sound.tallies.leads service.site.now request.value with
      refuses | ⟨node, write, starts⟩
    · rw [Replication.begin, refuses]
      exact sound.rest found ⟨rfl, rfl⟩ .refused
    · obtain ⟨tallies, higher, sum_eq⟩ := tallies_of_startWrite sound.tallies index starts
      obtain ⟨looked, bursts, acks, step_eq, rests, awaits⟩ := Replication.begin_eq_remaining starts
      have serves : ServedWrite.Serves ⟨index, request.value, write.seqn⟩ index request :=
        ⟨rfl, rfl⟩
      obtain ⟨rests, fits⟩ := Replication.fits_remaining rests tallies
        (List.mem_append_right _ (List.mem_singleton_self _)) serves awaits bursts
      rw [starts, step_eq, sum_eq]
      exact sound.proceed found
        (.own rfl fresh fun other mem => sound.tallies.lt_of_mem mem higher)
        (rests.state_eq ▸ tallies) rests.isCancelled_eq fits
  | @replicating _ own bursts acks mem serves awaits =>
    obtain ⟨looked, bursts', acks', step_eq, rests, awaits⟩ :=
      Replication.advance_eq_remaining awaits (sumAt start service.writes own.seqn) bursts
    obtain ⟨rests, fits⟩ :=
      Replication.fits_remaining rests sound.tallies mem serves awaits bursts'
    rw [goOn_serving, step_eq]
    exact sound.rest found rests fits

theorem Sound.step (sound : Sound start service) (steps : service.Step next) :
    Sound start next := by
  cases steps with
  | event event acts =>
    cases event with
    | ask request =>
      obtain rfl := Option.some.inj acts
      exact sound.ask request
    | goOn index =>
      obtain ⟨⟨request, progress⟩, found, acts⟩ := Option.bind_eq_some_iff.1 acts
      cases progress with
      | going activity =>
        obtain rfl := Option.some.inj acts
        exact sound.goOn found
      | done => exact nomatch acts
    | pass duration chance =>
      obtain rfl := Option.some.inj acts
      exact sound.withSite sound.tallies.leads rfl id
    | stop =>
      obtain rfl := Option.some.inj acts
      exact sound.withSite sound.tallies.leads rfl fun _ => rfl
  | deed deed leads same => exact sound.withSite leads same id
  | carry carrier => exact sound.withSite sound.tallies.leads rfl id

end Steps

/-! ## Every history -/

section Histories

variable {first service : Service C}

theorem Run.sound (leads : first.site.node.state.isPrimary = true) (idle : first.calls = [])
    (unwritten : first.writes = []) (run : first.Run service) :
    Sound first.site.node.state.sum service := by
  induction run with
  | refl =>
    refine ⟨⟨leads, ?_, ?_, ?_⟩, ?_, ?_, ?_⟩
    · rw [unwritten]
      rfl
    all_goals simp [unwritten, idle]
  | tail _ step ih => exact ih.step step

/-- The writes of the calls have different numbers and different callers, and the node holds the
state after the last one.  A call that was answered has applied a write of the value it was asked to
add, and the answer tells the number of this write and the sum right after it, except that without
all acknowledgements the sum, and in a stopped node also the number, may be those of a later write.
-/
theorem answers_report_writes (leads : first.site.node.state.isPrimary = true)
    (idle : first.calls = []) (unwritten : first.writes = []) (run : first.Run service) :
    service.site.node.state.sum = total first.site.node.state.sum service.writes ∧
      (service.writes.Pairwise fun write later =>
        write.seqn < later.seqn ∧ write.caller ≠ later.caller) ∧
      ∀ index request response,
        service.calls[index]? = some ⟨request, .done (.responded (.ok response))⟩ →
        ∃ own ∈ service.writes, own.caller = index ∧ own.delta = request.value ∧
          Reports first.site.node.state.sum service.writes service.site.isCancelled
            request.requestId own response := by
  have sound := run.sound leads idle unwritten
  refine ⟨sound.tallies.sum_eq, sound.apart, fun index request response found => ?_⟩
  cases sound.fits index _ found with
  | answered mem serves reports => exact ⟨_, mem, serves.1, serves.2, reports⟩

end Histories

/-! ## Two clients at once -/

/-- A primary with one peer. -/
def hostConfig : Config :=
  ((Config.ofPrimary 1 (.v4 ⟨10, 0, 0, 1⟩ 1)).withPeer ⟨2, .v4 ⟨10, 0, 0, 2⟩ 1⟩).withRetry .single

/-- The primary when it has just been created and no client has asked. -/
def host : Service Recorder where
  site :=
    { moment := ⟨0, 0.0⟩
      carrier := {}
      member :=
        { node := (Node.create hostConfig hostConfig.bindAddress 0).toOption.getD default
          endpoint := 0 } }

/-- Two clients ask, and both writes are applied. -/
def overlapping : List Event :=
  [.ask ⟨1, 7⟩, .goOn 0, .ask ⟨2, 5⟩, .goOn 1]

/-- The first client is answered when its acknowledgements are overdue. -/
def overdue : List Event :=
  overlapping ++ [.pass 1000 0.0, .goOn 0]

/-- The first client is answered because the node is stopped. -/
def interrupted : List Event :=
  overlapping ++ [.stop, .goOn 0]

/-- If the peer acknowledges both writes, the first client is told its own, not the last. -/
theorem answers_report_writes_acknowledged :
    ∃ service own, host.Run service ∧ service.site.node.state.sum = 12 ∧
      service.calls[0]? = some ⟨⟨1, 7⟩, .done (.responded (.ok ⟨1, 7, 1, .ok, none⟩))⟩ ∧
      own ∈ service.writes ∧ own.caller = 0 ∧ own.delta = 7 ∧
      Reports 0 service.writes service.site.isCancelled 1 own ⟨1, 7, 1, .ok, none⟩ := by
  have asks : host.Run _ := run_of_run? overlapping rfl
  have hears : Run _ _ := .tail asks (.deed (.hear (.stateAck 2 2) (.v4 ⟨10, 0, 0, 2⟩ 1)) rfl rfl)
  have run : Run _ _ := hears.trans (run_of_run? [.pass 10 0.0, .goOn 0] rfl)
  obtain ⟨-, -, answers⟩ := answers_report_writes rfl rfl rfl run
  obtain ⟨own, mem, caller, delta, reports⟩ := answers 0 ⟨1, 7⟩ ⟨1, 7, 1, .ok, none⟩ rfl
  exact ⟨_, own, run, rfl, rfl, mem, caller, delta, reports⟩

/-- The answer for want of acknowledgements tells the sum after the write of another client, and in
a stopped node its number too. -/
theorem answers_report_later_writes :
    host.site.node.state.isPrimary = true ∧ host.calls = [] ∧ host.writes = [] ∧
      (∃ service own response, host.Run service ∧ own ∈ service.writes ∧ own.caller = 0 ∧
        service.calls[0]? = some ⟨⟨1, 7⟩, .done (.responded (.ok response))⟩ ∧
        response.status = .replicationIncomplete ∧ response.seqn = own.seqn ∧
        response.sum ≠ sumAt host.site.node.state.sum service.writes own.seqn) ∧
      ∃ service own response, host.Run service ∧ own ∈ service.writes ∧ own.caller = 0 ∧
        service.calls[0]? = some ⟨⟨1, 7⟩, .done (.responded (.ok response))⟩ ∧
        response.status = .replicationIncomplete ∧ response.seqn ≠ own.seqn ∧
        response.sum ≠ sumAt host.site.node.state.sum service.writes own.seqn := by
  refine ⟨rfl, rfl, rfl, ?_, ?_⟩
  · exact ⟨_, ⟨0, 7, 1⟩, ⟨1, 12, 1, .replicationIncomplete, none⟩, run_of_run? overdue rfl,
      by decide, rfl, rfl, rfl, rfl, by decide⟩
  · exact ⟨_, ⟨0, 7, 1⟩, ⟨1, 12, 2, .replicationIncomplete, none⟩, run_of_run? interrupted rfl,
      by decide, rfl, rfl, rfl, by decide, by decide⟩

end Service

end SumCluster
