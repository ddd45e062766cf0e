import SumCluster.Proofs.Work.Deeds
import SumCluster.Proofs.World.Basic

/-!
# Replication in a world

The replication of a write at a member is a history of the world.  Each of its steps sends or gives
up copies of the update and looks for acknowledgements, in the way of the entry in the ledger
(`World.brings_advance`, `World.brings_begin`), and when it is done, the entry has the same answer
for the caller.
-/

namespace SumCluster

/-- The copies that are left of several bursts. -/
def Burst.unsent (bursts : List Burst) : List Letter :=
  bursts.flatMap fun burst => List.replicate burst.left burst.letter

namespace Write

variable {ι : Type}

/-- A write in the ledger stands as the wait for its acknowledgements does. -/
inductive Awaits (write : Write ι) : AckWait → Prop
  | waiting (again : Int) (pending : write.acks = none) :
    Awaits write (.waiting write.deadline again)
  | settled {result : Except ClusterError Unit} {ended : Except ClusterError (List NodeId)}
    (acks : write.acks = some ended) (same : (ended.map fun _ => ()) = result) :
    Awaits write (.settled result)

/-- A write in the ledger stands as its replication does. -/
inductive Stands (write : Write ι) : Progress Replication Replication.Result → Prop
  | going {bursts : List Burst} {acks : AckWait} (unsent : write.unsent = Burst.unsent bursts)
    (awaits : write.Awaits acks) :
    Stands write (.going (.replicating write.sum write.seqn bursts acks))
  | done {result : Replication.Result} (ended : write.result? = some result) :
    Stands write (.done result)

theorem Awaits.withUnsent {write : Write ι} {acks : AckWait} (awaits : write.Awaits acks)
    (unsent : List Letter) : Awaits { write with unsent } acks := by
  cases awaits with
  | waiting again pending => exact .waiting again pending
  | settled acks same => exact .settled acks same

end Write

theorem Write.Awaits.stands_remaining {ι C : Type} {write : Write ι} {acks : AckWait}
    (awaits : write.Awaits acks) (site : Site C) {bursts : List Burst}
    (unsent : write.unsent = Burst.unsent bursts) :
    (Replication.remaining site write.sum write.seqn bursts acks).1 = site ∧
      write.Stands (Replication.remaining site write.sum write.seqn bursts acks).2 := by
  unfold Replication.remaining
  split
  · cases awaits with
    | @settled _ ended acks same =>
      refine ⟨rfl, .done ?_⟩
      have sent : write.unsent.isEmpty = true := by simp [unsent, Burst.unsent]
      rw [Write.result?, if_pos sent, acks, ← same]
      cases ended <;> rfl
  · exact ⟨rfl, .going unsent awaits⟩

namespace World

variable {ι : Type} [DecidableEq ι]

/-- A history in which the writer of an entry of the ledger brings it on.  No other node changes,
and no other entry. -/
structure Brings (world : World ι) (index : Nat) (node : Node) (later : Write ι)
    (next : World ι) : Prop where
  run : ∃ past, Run world past next
  now : next.now = world.now
  nodes : next.nodes = Function.update world.nodes later.writer node
  writes : next.writes = world.writes.set index later

theorem Run.trans {first middle last : World ι} {past past' : List (World ι)}
    (before : Run first past middle) (after : Run middle past' last) :
    Run first (past' ++ past) last := by
  induction after with
  | start => exact before
  | step _ acts ih => exact ih.step acts

section Brings

variable {world next : World ι} {index : Nat} {write later : Write ι} {node : Node}

theorem Brings.of_act? {action : Action ι} (acts : world.act? action = some next)
    (now : next.now = world.now)
    (nodes : next.nodes = Function.update world.nodes later.writer node)
    (writes : next.writes = world.writes.set index later) : Brings world index node later next :=
  ⟨⟨_, Run.start.step acts⟩, now, nodes, writes⟩

theorem Brings.refl (found : world.writes[index]? = some write) :
    Brings world index (world.nodes write.writer) write world where
  run := ⟨[], .start⟩
  now := rfl
  nodes := (Function.update_eq_self write.writer world.nodes).symm
  writes := by
    obtain ⟨inside, same⟩ := List.getElem?_eq_some_iff.1 found
    rw [← same, List.set_getElem_self]

theorem Brings.trans {node' : Node} {later' : Write ι} {last : World ι}
    (first : Brings world index node later next)
    (second : Brings next index node' later' last) (writer : later'.writer = later.writer) :
    Brings world index node' later' last where
  run := by
    obtain ⟨past, before⟩ := first.run
    obtain ⟨past', after⟩ := second.run
    exact ⟨_, before.trans after⟩
  now := second.now.trans first.now
  nodes := by rw [second.nodes, first.nodes, writer, Function.update_idem]
  writes := by rw [second.writes, first.writes, List.set_set]

theorem Brings.found (brings : Brings world index node later next)
    (found : world.writes[index]? = some write) : next.writes[index]? = some later := by
  obtain ⟨inside, -⟩ := List.getElem?_eq_some_iff.1 found
  rw [brings.writes, List.getElem?_set_self inside]

theorem Brings.node_eq (brings : Brings world index node later next) :
    next.nodes later.writer = node := by
  rw [brings.nodes, Function.update_self]

/-! ## Copies -/

/-- A history in which copies of a write are sent or given up until the given ones are left. -/
def Sends (world : World ι) (index : Nat) (write : Write ι) (unsent : List Letter)
    (next : World ι) : Prop :=
  Brings world index (world.nodes write.writer) { write with unsent } next

theorem Sends.refl (found : world.writes[index]? = some write) :
    Sends world index write write.unsent world :=
  Brings.refl found

theorem Sends.trans {middle last : World ι} {unsent unsent' : List Letter}
    (first : Sends world index write unsent middle)
    (second : Sends middle index { write with unsent } unsent' last) :
    Sends world index write unsent' last := by
  unfold Sends at first second ⊢
  have here : middle.nodes write.writer = world.nodes write.writer := first.node_eq
  simp only [here] at second
  exact first.trans second rfl

variable {sent rest : List Letter} {letter : Letter}

theorem exists_sends_cons (found : world.writes[index]? = some write)
    (unsent : write.unsent = sent ++ letter :: rest) :
    ∃ next, Sends world index write (sent ++ rest) next := by
  have copied : write.unsent[sent.length]? = some letter := by simp [unsent]
  have erased : write.unsent.eraseIdx sent.length = sent ++ rest := by
    simp [unsent, List.eraseIdx_append_of_length_le]
  have acts : world.act? (.send index sent.length) = some
      { world with
        inFlight := world.inFlight ++ [⟨(world.nodes write.writer).address, letter⟩]
        writes := world.writes.set index { write with unsent := sent ++ rest } } := by
    simp [act?, found, copied, erased]
  exact ⟨_, .of_act? acts rfl (Function.update_eq_self write.writer world.nodes).symm rfl⟩

/-- The copies of a burst are given up. -/
theorem exists_sends_nothing {left : Nat} (found : world.writes[index]? = some write)
    (unsent : write.unsent = sent ++ (List.replicate left letter ++ rest)) :
    ∃ next, Sends world index write (sent ++ rest) next := by
  induction left generalizing world write with
  | zero => exact ⟨world, unsent ▸ Sends.refl found⟩
  | succ left ih =>
    have erased : write.unsent.eraseIdx sent.length =
        sent ++ (List.replicate left letter ++ rest) := by
      simp [unsent, List.replicate_succ, List.eraseIdx_append_of_length_le]
    have acts : world.act? (.skip index sent.length) = some
        { world with
          writes := world.writes.set index
            { write with unsent := sent ++ (List.replicate left letter ++ rest) } } := by
      simp [act?, found, erased]
    have skips : Sends world index write (sent ++ (List.replicate left letter ++ rest)) _ :=
      .of_act? acts rfl (Function.update_eq_self write.writer world.nodes).symm rfl
    obtain ⟨next, others⟩ := ih (Brings.found skips found) rfl
    exact ⟨next, skips.trans others⟩

variable {C : Type} [Carrier C]

/-- The copies of a burst are sent until one is to be waited for. -/
theorem exists_sends_sendCopies (policy : RetryPolicy) {left : Nat} (site : Site C)
    (found : world.writes[index]? = some write)
    (unsent : write.unsent = sent ++ (List.replicate left letter ++ rest)) :
    ∃ next, Sends world index write
      (sent ++ (Burst.unsent (Burst.sendCopies site letter policy left).2.toList ++ rest))
      next := by
  induction left generalizing site world write with
  | zero => exact exists_sends_nothing found unsent
  | succ left ih =>
    simp only [Burst.sendCopies]
    split
    · exact exists_sends_nothing found unsent
    · have front : write.unsent = sent ++ letter :: (List.replicate left letter ++ rest) := by
        simpa [List.replicate_succ] using unsent
      obtain ⟨middle, sends⟩ := exists_sends_cons found front
      split
      · obtain ⟨next, others⟩ := ih (site.send letter).2 (Brings.found sends found) rfl
        exact ⟨next, sends.trans others⟩
      · exact ⟨middle, by simpa [Burst.unsent] using sends⟩

theorem exists_sends_advanceAll (bursts : List Burst) (site : Site C)
    (found : world.writes[index]? = some write)
    (unsent : write.unsent = sent ++ Burst.unsent bursts) :
    ∃ next, Sends world index write
      (sent ++ Burst.unsent (Burst.advanceAll site bursts).2) next := by
  induction bursts generalizing site world write sent with
  | nil => exact ⟨world, unsent ▸ Sends.refl found⟩
  | cons burst others ih =>
    have first : ∃ next, Sends world index write
        (sent ++ (Burst.unsent (burst.advance site).2.toList ++ Burst.unsent others)) next := by
      unfold Burst.advance
      split
      · exact exists_sends_sendCopies burst.policy site found unsent
      · refine ⟨world, ?_⟩
        have same : write.unsent = sent ++ (Burst.unsent [burst] ++ Burst.unsent others) := by
          simpa [Burst.unsent] using unsent
        exact same ▸ Sends.refl found
    obtain ⟨middle, begins⟩ := first
    obtain ⟨next, goesOn⟩ := ih (burst.advance site).1 (Brings.found begins found)
      (List.append_assoc ..).symm
    refine ⟨next, ?_⟩
    have sends := begins.trans goesOn
    simpa [Burst.advanceAll, Burst.unsent] using sends

/-! ## Acknowledgements -/

/-- The wait for the acknowledgements of a write ends because the writer is stopped. -/
theorem exists_brings_cancel (found : world.writes[index]? = some write)
    (pending : write.acks = none) :
    ∃ next, Brings world index (world.nodes write.writer)
      { write with acks := some (.error .shutdown) } next := by
  have acts : world.act? (.cancel index) = some { world with
      writes := world.writes.set index { write with acks := some (.error .shutdown) } } := by
    simp [act?, found, pending]
  exact ⟨_, .of_act? acts rfl (Function.update_eq_self write.writer world.nodes).symm rfl⟩

variable {site : Site C} (found : world.writes[index]? = some write)
  (node_eq : site.node = world.nodes write.writer) (now_eq : site.now = world.now)

include found node_eq now_eq

omit [Carrier C] in
theorem exists_brings_look (pending : write.acks = none) :
    ∃ next acks, Brings world index (Replication.look site write.seqn write.deadline).1.node
      { write with acks } next ∧
        Write.Awaits { write with acks }
          (Replication.look site write.seqn write.deadline).2 := by
  have acts : world.act? (.look index) = some (world.look index write) := by
    simp [act?, found, pending]
  obtain ⟨⟨node, result⟩, polled⟩ :
    ∃ polled, site.node.pollAcks site.now write.seqn write.deadline = polled := ⟨_, rfl⟩
  let acks := result.map (·.map fun _ => site.node.aliveIds)
  have looks : Brings world index node { write with acks } (world.look index write) := by
    refine .of_act? acts rfl ?_ ?_
    · simp only [World.look, ← node_eq, ← now_eq, polled]
    · simp only [World.look, ← node_eq, ← now_eq, polled, acks]
  unfold Replication.look
  rw [polled]
  cases result with
  | some result =>
    have same : ((result.map fun _ => site.node.aliveIds).map fun _ => ()) = result := by
      cases result <;> rfl
    exact ⟨_, acks, looks, .settled rfl same⟩
  | none =>
    simp only
    split
    · obtain ⟨next, cancels⟩ := exists_brings_cancel (looks.found found) rfl
      have here : (world.look index write).nodes write.writer = node := looks.node_eq
      simp only [here] at cancels
      exact ⟨next, _, looks.trans cancels rfl, .settled rfl rfl⟩
    · exact ⟨_, none, looks, .waiting _ rfl⟩

omit [Carrier C] in
theorem exists_brings_advanceAcks {acks : AckWait} (awaits : write.Awaits acks) :
    ∃ next acks', Brings world index (Replication.advanceAcks site write.seqn acks).1.node
      { write with acks := acks' } next ∧
        Write.Awaits { write with acks := acks' }
          (Replication.advanceAcks site write.seqn acks).2 := by
  have stays : Brings world index site.node { write with acks := write.acks } world := by
    rw [node_eq]
    exact .refl found
  cases awaits with
  | waiting again pending =>
    simp only [Replication.advanceAcks]
    split
    · obtain ⟨next, cancels⟩ := exists_brings_cancel found pending
      rw [← node_eq] at cancels
      exact ⟨next, _, cancels, .settled rfl rfl⟩
    · split
      · exact exists_brings_look found node_eq now_eq pending
      · exact ⟨world, write.acks, stays, .waiting again pending⟩
  | settled acks same => exact ⟨world, write.acks, stays, .settled acks same⟩

end Brings

/-! ## Replications -/

section Replication

variable {world : World ι} {C : Type} [Carrier C] {site : Site C}

/-- What is left of a write when the copies that are due are sent and the writer has waited in some
way. -/
def afterWait (site : Site C) (write : Write ι) (bursts : List Burst)
    (wait : Site C → Site C × AckWait) : Replication.Step C :=
  let sent := Burst.advanceAll site bursts
  let waited := wait sent.1
  Replication.remaining waited.1 write.sum write.seqn sent.2 waited.2

/-- Whether the writer brings a write on when it waits in some way, whatever is left to send. -/
def Waits (index : Nat) (write : Write ι) (wait : Site C → Site C × AckWait) : Prop :=
  ∀ (world : World ι) (unsent : List Letter) (site : Site C),
    world.writes[index]? = some { write with unsent } →
    site.node = world.nodes write.writer → site.now = world.now →
    ∃ next acks, Brings world index (wait site).1.node { write with unsent, acks } next ∧
      Write.Awaits { write with unsent, acks } (wait site).2

omit [Carrier C] in
theorem waits_look (index : Nat) (write : Write ι) (pending : write.acks = none) :
    Waits index write fun site : Site C =>
      Replication.look site write.seqn write.deadline :=
  fun _ _ _ found node_eq now_eq => exists_brings_look found node_eq now_eq pending

omit [Carrier C] in
theorem waits_advanceAcks (index : Nat) {write : Write ι} {acks : AckWait}
    (awaits : write.Awaits acks) :
    Waits index write fun site : Site C => Replication.advanceAcks site write.seqn acks :=
  fun _ unsent _ found node_eq now_eq =>
    exists_brings_advanceAcks found node_eq now_eq (awaits.withUnsent unsent)

theorem brings_afterWait {index : Nat} {write : Write ι}
    (found : world.writes[index]? = some write)
    (node_eq : site.node = world.nodes write.writer) (now_eq : site.now = world.now)
    {bursts : List Burst} (unsent : write.unsent = Burst.unsent bursts)
    {wait : Site C → Site C × AckWait} (waits : Waits index write wait) :
    ∃ next later, Brings world index (afterWait site write bursts wait).1.node later next ∧
      later.writer = write.writer ∧ later.Stands (afterWait site write bursts wait).2 := by
  have front : write.unsent = [] ++ Burst.unsent bursts := unsent
  obtain ⟨middle, sends⟩ := exists_sends_advanceAll bursts site found front
  rw [List.nil_append] at sends
  obtain ⟨carrier, same⟩ := Burst.exists_carrier_advanceAll bursts site
  have node_eq' : site.node = middle.nodes write.writer :=
    node_eq.trans (Brings.node_eq sends).symm
  have now_eq' : site.now = middle.now := now_eq.trans (Brings.now sends).symm
  obtain ⟨next, acks, brings, awaits⟩ := waits middle _ (site.withCarrier carrier)
    (Brings.found sends found) node_eq' now_eq'
  simp only [afterWait, same]
  generalize wait (site.withCarrier carrier) = waited at brings awaits ⊢
  generalize left_eq : Burst.unsent (Burst.advanceAll site bursts).2 = left at sends brings awaits
  obtain ⟨site_eq, stands⟩ := awaits.stands_remaining waited.1 left_eq.symm
  refine ⟨next, { write with unsent := left, acks }, ?_, rfl, stands⟩
  rw [site_eq]
  exact Brings.trans sends brings rfl

/-- A step of a replication is a history of the world. -/
theorem brings_advance {index : Nat} {write : Write ι} (found : world.writes[index]? = some write)
    (node_eq : site.node = world.nodes write.writer) (now_eq : site.now = world.now)
    {replication : Replication} (stands : write.Stands (.going replication)) :
    ∃ next later, Brings world index (replication.advance site).1.node later next ∧
      later.writer = write.writer ∧ later.Stands (replication.advance site).2 := by
  cases stands with
  | @going bursts acks unsent awaits =>
    exact brings_afterWait found node_eq now_eq unsent (waits_advanceAcks index awaits)

omit [DecidableEq ι] in
theorem begin_eq_afterWait {i : ι} {delta : Int64} {seqn : Option Seqn} {node : Node}
    {write : AppliedWrite}
    (starts : (world.nodes i).startWrite world.now delta seqn = .applied node write)
    (node_eq : site.node = world.nodes i) (now_eq : site.now = world.now) :
    Replication.begin site delta seqn = afterWait (site.withNode node) (world.entry i node write)
      (write.letters.map (Burst.starting node.config.retry site.now))
      fun here => Replication.look here (world.entry i node write).seqn
        (world.entry i node write).deadline := by
  -- sending takes no time, so the deadline may be counted from before it
  obtain ⟨carrier, same⟩ := Burst.exists_carrier_advanceAll
    (write.letters.map (Burst.starting node.config.retry site.now)) (site.withNode node)
  have later_now : ((site.withNode node).withCarrier carrier).now = world.now := now_eq
  have begins : Replication.begin site delta seqn = afterWait (site.withNode node)
      (world.entry i node write)
      (write.letters.map (Burst.starting node.config.retry site.now))
      fun here => Replication.look here write.seqn
        (Time.after here.now node.config.ackTimeout) := by
    unfold Replication.begin
    rw [node_eq, now_eq, starts, ← now_eq]
    rfl
  rw [begins]
  simp only [afterWait, same, later_now]
  rfl

/-- A write that a member applies enters the ledger, and its first step is a history of the
world. -/
theorem brings_begin {i : ι} {delta : Int64} {seqn : Option Seqn} {node : Node}
    {write : AppliedWrite}
    (starts : (world.nodes i).startWrite world.now delta seqn = .applied node write)
    (node_eq : site.node = world.nodes i) (now_eq : site.now = world.now) :
    ∃ past next later, Run world past next ∧ next.now = world.now ∧
      next.nodes = Function.update world.nodes i
        (Replication.begin site delta seqn).1.node ∧
      next.writes = world.writes ++ [later] ∧ later.writer = i ∧
      later.Stands (Replication.begin site delta seqn).2 := by
  have acts : world.act? (.write i delta seqn) = some (world.enter i node write) := by
    simp [act?, starts]
  have found : (world.enter i node write).writes[world.writes.length]? =
      some (world.entry i node write) := by
    simp [enter, entry]
  have unsent : (world.entry i node write).unsent =
      Burst.unsent (write.letters.map (Burst.starting node.config.retry site.now)) := by
    simp [entry, Burst.unsent, Burst.starting, List.flatMap_map]
  have here : (site.withNode node).node = (world.enter i node write).nodes i :=
    (Function.update_self i node world.nodes).symm
  have waits := waits_look (C := C) world.writes.length (world.entry i node write) rfl
  obtain ⟨next, later, brings, writer, stands⟩ :=
    brings_afterWait found here now_eq unsent waits
  rw [begin_eq_afterWait starts node_eq now_eq]
  obtain ⟨past, run⟩ := brings.run
  refine ⟨_, next, later, (Run.start.step acts).trans run, brings.now, ?_, ?_, writer, stands⟩
  · rw [brings.nodes, writer]
    exact Function.update_idem ..
  · rw [brings.writes]
    simp [enter]

end Replication

end World

end SumCluster
