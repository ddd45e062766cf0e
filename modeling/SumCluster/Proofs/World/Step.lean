import SumCluster.Proofs.World.Basic
import SumCluster.Proofs.Node.Speech
import SumCluster.Proofs.Node.Held
import SumCluster.Proofs.Node.Standing

/-!
# Steps of a world

What an action comes to (`World.Step`): either no node changes, or one member does a deed, having
heard at most what was on its way.  No other letters come up than those of the deed, and the ledger
only grows by the write that the deed is, apart from the progress of the writes in it.  What holds
of every deed thus holds of every step (`World.step_of_act?`).
-/

namespace SumCluster

/-- How a write can have gone on in a world. -/
structure Write.Continues {ι : Type} (world : World ι) (old new : Write ι) : Prop where
  writer : new.writer = old.writer
  sum : new.sum = old.sum
  seqn : new.seqn = old.seqn
  alive : ∀ id ∈ new.alive, id ∈ old.alive ∨
    (world.nodes old.writer).missingAcks old.seqn = [] ∧ id ∈ (world.nodes old.writer).aliveIds

theorem Write.Continues.refl {ι : Type} (world : World ι) (write : Write ι) :
    write.Continues world write :=
  ⟨rfl, rfl, rfl, fun _ same => .inl same⟩

/-- A write that its writer has just applied. -/
structure Write.IsNew {ι : Type} (world next : World ι) (write : Write ι) : Prop where
  alive : write.alive = []
  higher : (world.nodes write.writer).state.seqn < write.seqn
  held : (next.nodes write.writer).held = (write.sum, write.seqn)

namespace World

variable {ι : Type}

/-- The ledger after a step: every write stays, and every new one is the given one. -/
structure Grows (world next : World ι) (new : Write ι → Prop) : Prop where
  stays : ∀ write ∈ world.writes, ∃ later ∈ next.writes, write.Continues world later
  comes : ∀ later ∈ next.writes, new later ∨ ∃ write ∈ world.writes, write.Continues world later

/-- Whether an entry is new in the ledger because of what a member did. -/
def Enters (member : ι) : Cause → Write ι → Prop
  | .wrote sum seqn, write =>
    write.writer = member ∧ write.sum = sum ∧ write.seqn = seqn ∧ write.alive = []
  | _, _ => False

/-! ## The ledger -/

theorem Grows.of_writes_eq {world next : World ι} {new : Write ι → Prop}
    (same : next.writes = world.writes) : Grows world next new where
  stays := fun write mem => ⟨write, same ▸ mem, .refl world write⟩
  comes := fun write mem => .inr ⟨write, same ▸ mem, .refl world write⟩

theorem Grows.of_writes_eq_set {world next : World ι} {new : Write ι → Prop} {index : Nat}
    {write later : Write ι} (found : world.writes[index]? = some write)
    (continues : write.Continues world later)
    (set : next.writes = world.writes.set index later) : Grows world next new where
  stays := by
    intro other mem
    obtain ⟨place, inside, at_place⟩ := List.mem_iff_getElem.1 mem
    rw [set]
    by_cases same : index = place
    · subst same
      rw [List.getElem?_eq_getElem inside, at_place] at found
      obtain rfl := Option.some.inj found
      exact ⟨later, List.mem_set inside later, continues⟩
    · refine ⟨other, ?_, .refl world other⟩
      rw [List.mem_iff_getElem?]
      exact ⟨place, by rw [List.getElem?_set_ne same, List.getElem?_eq_getElem inside, at_place]⟩
  comes := by
    intro other mem
    rw [set] at mem
    rcases List.mem_or_eq_of_mem_set mem with mem | rfl
    · exact .inr ⟨other, mem, .refl world other⟩
    · exact .inr ⟨write, List.mem_of_getElem? found, continues⟩

/-! ## Letters -/

theorem mem_letters {world : World ι} {letter : Letter} :
    letter ∈ world.letters ↔ (∃ datagram ∈ world.inFlight, datagram.letter = letter) ∨
      ∃ write ∈ world.writes, letter ∈ write.unsent := by
  simp [letters]

/-- Progress of a write brings no letters up. -/
theorem mem_letters_of_set {world next : World ι} {index : Nat} {write later : Write ι}
    (found : world.writes[index]? = some write)
    (set : next.writes = world.writes.set index later)
    (unsent : ∀ letter ∈ later.unsent, letter ∈ write.unsent)
    (flying : ∀ datagram ∈ next.inFlight, datagram ∈ world.inFlight ∨
      datagram.letter ∈ write.unsent) {letter : Letter} (mem : letter ∈ next.letters) :
    letter ∈ world.letters := by
  have written : write ∈ world.writes := List.mem_of_getElem? found
  rw [mem_letters] at mem ⊢
  rcases mem with ⟨datagram, sent, rfl⟩ | ⟨other, inLedger, mem⟩
  · rcases flying datagram sent with sent | mem
    · exact .inl ⟨datagram, sent, rfl⟩
    · exact .inr ⟨write, written, mem⟩
  · rw [set] at inLedger
    rcases List.mem_or_eq_of_mem_set inLedger with inLedger | rfl
    · exact .inr ⟨other, inLedger, mem⟩
    · exact .inr ⟨write, written, unsent letter mem⟩

/-! ## Steps -/

variable [DecidableEq ι]

/-- What a step comes to. -/
inductive Step (world next : World ι) : Prop
  /-- No node changes. -/
  | rest (nodes : next.nodes = world.nodes)
    (letters : ∀ letter ∈ next.letters, letter ∈ world.letters)
    (ledger : Grows world next fun _ => False)
  /-- One member does a deed. -/
  | deed (member : ι) {cause : Cause} {node : Node} {sent : List Letter}
    (deed : (world.nodes member).Deed world.now cause node sent)
    (heard : ∀ message, cause = .heard message →
      ∃ letter ∈ world.letters, letter.message.bare = message)
    (nodes : next.nodes = Function.update world.nodes member node)
    (letters : ∀ letter ∈ next.letters, letter ∈ world.letters ∨ letter ∈ sent)
    (ledger : Grows world next (Enters member cause))
    (entered : ∀ sum seqn, cause = .wrote sum seqn → ∃ write ∈ next.writes,
      Enters member cause write)

theorem mem_letters_put {world : World ι} {member : ι} {node : Node} {sent : List Letter}
    {letter : Letter} (mem : letter ∈ (world.put member node sent).letters) :
    letter ∈ world.letters ∨ letter ∈ sent := by
  rw [mem_letters] at mem ⊢
  simp only [put, List.mem_append, List.mem_map] at mem
  rcases mem with ⟨datagram, flying | ⟨other, mem, rfl⟩, rfl⟩ | unsent
  · exact .inl (.inl ⟨datagram, flying, rfl⟩)
  · exact .inr mem
  · exact .inl (.inr unsent)

/-- A deed that is no write. -/
theorem Step.of_put {world : World ι} {member : ι} {cause : Cause} {node : Node}
    {sent : List Letter} (deed : (world.nodes member).Deed world.now cause node sent)
    (heard : ∀ message, cause = .heard message →
      ∃ letter ∈ world.letters, letter.message.bare = message)
    (noWrite : ∀ sum seqn, cause ≠ .wrote sum seqn) : Step world (world.put member node sent) :=
  .deed member deed heard rfl (fun _ => mem_letters_put) (.of_writes_eq rfl)
    fun sum seqn same => absurd same (noWrite sum seqn)

theorem Step.of_own {world : World ι} {member : ι} {node : Node} {sent : List Letter}
    (deed : (world.nodes member).Deed world.now .own node sent) :
    Step world (world.put member node sent) :=
  .of_put deed (fun _ same => nomatch same) fun _ _ same => nomatch same

/-- The update that a write sends. -/
theorem mem_letters_enter {world : World ι} {member : ι} {node : Node} {write : AppliedWrite}
    {letter : Letter} (mem : letter ∈ (world.enter member node write).letters) :
    letter ∈ world.letters ∨ letter ∈ write.letters := by
  rw [mem_letters] at mem ⊢
  rcases mem with flying | ⟨other, inLedger, mem⟩
  · exact .inl (.inl flying)
  · rcases List.mem_append.1 inLedger with inLedger | inLedger
    · exact .inl (.inr ⟨other, inLedger, mem⟩)
    · obtain rfl := List.mem_singleton.1 inLedger
      obtain ⟨original, original_mem, copy⟩ := List.mem_flatMap.1 mem
      obtain rfl := List.eq_of_mem_replicate copy
      exact .inr original_mem

theorem Step.of_enter {world : World ι} {member : ι} {delta : Int64} {seqn : Option Seqn}
    {node : Node} {write : AppliedWrite}
    (starts : (world.nodes member).startWrite world.now delta seqn = .applied node write) :
    Step world (world.enter member node write) := by
  refine .deed member (.write starts) (fun _ same => nomatch same) rfl
    (fun _ => mem_letters_enter) ⟨?_, ?_⟩ ?_
  · intro other mem
    exact ⟨other, List.mem_append_left _ mem, .refl world other⟩
  · intro other mem
    rcases List.mem_append.1 mem with mem | mem
    · exact .inr ⟨other, mem, .refl world other⟩
    · obtain rfl := List.mem_singleton.1 mem
      exact .inl ⟨rfl, rfl, rfl, rfl⟩
  · rintro sum seqn same
    obtain ⟨rfl, rfl⟩ := Cause.wrote.inj same
    exact ⟨_, List.mem_append_right _ (List.mem_singleton_self _), rfl, rfl, rfl, rfl⟩

theorem Step.of_look {world : World ι} {index : Nat} {write : Write ι}
    (found : world.writes[index]? = some write) : Step world (world.look index write) := by
  let node := world.nodes write.writer
  let polled := node.pollAcks world.now write.seqn write.deadline
  let later := { write with acks := polled.2.map (Except.map fun _ => node.aliveIds) }
  have set : (world.look index write).writes = world.writes.set index later := rfl
  have continues : write.Continues world later := by
    refine ⟨rfl, rfl, rfl, fun id mem => .inr ?_⟩
    cases result : polled.2 with
    | none => simp [later, Write.alive, result] at mem
    | some ended =>
      cases ended with
      | error error => simp [later, Write.alive, result, Except.map] at mem
      | ok _ =>
        refine ⟨Node.missingAcks_of_pollAcks result, ?_⟩
        simpa [later, Write.alive, result, Except.map] using mem
  refine .deed write.writer (.look write.seqn write.deadline) (fun _ same => nomatch same) rfl ?_
    (.of_writes_eq_set found continues set) fun _ _ same => nomatch same
  intro letter mem
  exact .inl (mem_letters_of_set found set (fun _ => id) (fun _ => .inl) mem)

/-- Progress of a write without a look. -/
theorem Step.of_set {world next : World ι} {index : Nat} {write later : Write ι}
    (found : world.writes[index]? = some write) (nodes : next.nodes = world.nodes)
    (set : next.writes = world.writes.set index later)
    (continues : write.Continues world later)
    (unsent : ∀ letter ∈ later.unsent, letter ∈ write.unsent)
    (flying : ∀ datagram ∈ next.inFlight, datagram ∈ world.inFlight ∨
      datagram.letter ∈ write.unsent) : Step world next :=
  .rest nodes (fun _ => mem_letters_of_set found set unsent flying)
    (.of_writes_eq_set found continues set)

/-- Every action is a step. -/
theorem step_of_act? {world next : World ι} {action : Action ι}
    (acts : world.act? action = some next) : Step world next := by
  cases action with
  | pass duration =>
    obtain rfl := Option.some.inj acts
    exact .rest rfl (fun _ => id) (.of_writes_eq rfl)
  | hear member index =>
    simp only [act?] at acts
    split at acts
    · simp at acts
    · rename_i datagram found
      split at acts
      · obtain rfl := Option.some.inj acts
        refine .of_put (.hear datagram.letter.message.bare datagram.source) ?_
          fun _ _ same => nomatch same
        rintro message same
        obtain rfl := Cause.heard.inj same
        exact ⟨datagram.letter, mem_letters.2 (.inl ⟨datagram, List.mem_of_getElem? found, rfl⟩),
          rfl⟩
      · simp at acts
  | drop member =>
    obtain rfl := Option.some.inj acts
    exact .of_own .drop
  | beat member tick =>
    obtain rfl := Option.some.inj acts
    exact .of_own (.beat tick)
  | contend member =>
    obtain ⟨⟨node, higher⟩, opens, rfl⟩ := Option.map_eq_some_iff.1 acts
    exact .of_own (.contend opens)
  | claim member =>
    obtain ⟨⟨node, letters⟩, claims, rfl⟩ := Option.map_eq_some_iff.1 acts
    exact .of_own (.claim claims)
  | giveUp member =>
    obtain rfl := Option.some.inj acts
    exact .of_own .giveUp
  | join member =>
    obtain ⟨address, target, rfl⟩ := Option.map_eq_some_iff.1 acts
    exact .of_own (.join target)
  | discover member address =>
    obtain rfl := Option.some.inj acts
    exact .of_own (.discover address)
  | write member delta seqn =>
    simp only [act?] at acts
    split at acts
    · rename_i starts
      obtain rfl := Option.some.inj acts
      exact .of_enter starts
    · simp at acts
    · simp at acts
  | send index copy =>
    obtain ⟨write, found, acts⟩ := Option.bind_eq_some_iff.1 acts
    obtain ⟨letter, copied, rfl⟩ := Option.map_eq_some_iff.1 acts
    refine .of_set found rfl rfl ⟨rfl, rfl, rfl, fun _ => .inl⟩
      (fun _ mem => List.mem_of_mem_eraseIdx mem) ?_
    intro datagram mem
    rcases List.mem_append.1 mem with mem | mem
    · exact .inl mem
    · obtain rfl := List.mem_singleton.1 mem
      exact .inr (List.mem_of_getElem? copied)
  | skip index copy =>
    obtain ⟨write, found, rfl⟩ := Option.map_eq_some_iff.1 acts
    exact .of_set found rfl rfl ⟨rfl, rfl, rfl, fun _ => .inl⟩
      (fun _ mem => List.mem_of_mem_eraseIdx mem) fun _ => .inl
  | look index =>
    obtain ⟨write, found, acts⟩ := Option.bind_eq_some_iff.1 acts
    split at acts
    · obtain rfl := Option.some.inj acts
      exact .of_look found
    · simp at acts
  | cancel index =>
    obtain ⟨write, found, acts⟩ := Option.bind_eq_some_iff.1 acts
    split at acts
    · obtain rfl := Option.some.inj acts
      exact .of_set found rfl rfl ⟨rfl, rfl, rfl, fun _ same => nomatch same⟩ (fun _ => id)
        fun _ => .inl
    · simp at acts

/-! ## What every step does -/

section

variable {world next : World ι} (step : Step world next) (member : ι)

include step

/-- A relation between a node and itself after a deed holds of every member. -/
theorem Step.nodes_induction {R : Node → Node → Prop} (same : ∀ node, R node node)
    (deeds : ∀ {node next : Node} {now : Int} {cause : Cause} {letters : List Letter},
      node.Deed now cause next letters → R node next) :
    R (world.nodes member) (next.nodes member) := by
  cases step with
  | rest nodes =>
    rw [nodes]
    exact same _
  | deed actor deed _ nodes =>
    rw [nodes]
    by_cases acting : member = actor
    · subst acting
      rw [Function.update_self]
      exact deeds deed
    · rw [Function.update_of_ne acting]
      exact same _

theorem Step.id_eq : (next.nodes member).id = (world.nodes member).id :=
  step.nodes_induction member (R := fun node next => next.id = node.id) (fun _ => rfl)
    fun deed => deed.id_eq

theorem Step.seqn_le : (world.nodes member).state.seqn ≤ (next.nodes member).state.seqn :=
  step.nodes_induction member (R := fun node next => node.state.seqn ≤ next.state.seqn)
    (fun _ => UInt64.le_refl _) fun deed => deed.seqn_le

end

/-- A letter that comes up is told by a member as it is then. -/
theorem Step.tells {world next : World ι} (step : Step world next) {letter : Letter}
    (mem : letter ∈ next.letters) :
    letter ∈ world.letters ∨ ∃ i, (next.nodes i).Tells letter.message := by
  cases step with
  | rest _ letters => exact .inl (letters letter mem)
  | deed actor deed _ nodes letters =>
    rcases letters letter mem with old | sent
    · exact .inl old
    · refine .inr ⟨actor, ?_⟩
      rw [nodes, Function.update_self]
      exact deed.tells letter sent

/-- A write in the ledger was there before, or its writer has just applied it. -/
theorem Step.comes {world next : World ι} (step : Step world next) {later : Write ι}
    (mem : later ∈ next.writes) :
    later.IsNew world next ∨ ∃ write ∈ world.writes, write.Continues world later := by
  cases step with
  | rest _ _ ledger => exact .inr ((ledger.comes later mem).resolve_left id)
  | @deed actor cause _ _ deed _ nodes _ ledger =>
    rcases ledger.comes later mem with enters | old
    · cases cause with
      | heard | own => exact enters.elim
      | wrote =>
        obtain ⟨rfl, rfl, rfl, alive⟩ := enters
        obtain ⟨holds, higher⟩ := deed.follows
        refine .inl ⟨alive, higher, ?_⟩
        rw [nodes, Function.update_self]
        exact holds
    · exact .inr old

theorem Step.stays {world next : World ι} (step : Step world next) {write : Write ι}
    (mem : write ∈ world.writes) : ∃ later ∈ next.writes, write.Continues world later := by
  cases step with
  | rest _ _ ledger => exact ledger.stays write mem
  | deed _ _ _ _ _ ledger => exact ledger.stays write mem

/-! ## Histories -/

section

variable {first world : World ι} {past : List (World ι)} (run : Run first past world)

include run

/-- What holds at first and is kept by every step holds at last. -/
theorem Run.invariant {I : World ι → Prop} (start : I first)
    (steps : ∀ {world next}, I world → Step world next → I next) : I world := by
  induction run with
  | start => exact start
  | step _ acts ih => exact steps ih (step_of_act? acts)

theorem Run.id_eq (member : ι) : (world.nodes member).id = (first.nodes member).id :=
  run.invariant (I := fun world => (world.nodes member).id = (first.nodes member).id) rfl
    fun same step => (step.id_eq member).trans same

theorem Run.seqn_le (member : ι) :
    (first.nodes member).state.seqn ≤ (world.nodes member).state.seqn :=
  run.invariant
    (I := fun world => (first.nodes member).state.seqn ≤ (world.nodes member).state.seqn)
    (UInt64.le_refl _) fun le step => UInt64.le_trans le (step.seqn_le member)

/-- A history goes through all the worlds in its past. -/
theorem Run.split {middle : World ι} (passed : middle ∈ world :: past) :
    ∃ earlier later, Run first earlier middle ∧ Run middle later world := by
  induction run with
  | start =>
    obtain rfl := List.mem_singleton.1 passed
    exact ⟨[], [], .start, .start⟩
  | step run acts ih =>
    rcases List.mem_cons.1 passed with rfl | passed
    · exact ⟨_, [], run.step acts, .start⟩
    · obtain ⟨earlier, later, before, after⟩ := ih passed
      exact ⟨earlier, _, before, after.step acts⟩

end

end World

end SumCluster
