import SumCluster.Proofs.Node.Acks
import SumCluster.Proofs.Node.Boot
import SumCluster.Proofs.World.Step
import SumCluster.Work.Replication
import SumCluster.Carrier.Network

/-!
# Acknowledgements are never premature

Whatever happens in a cluster, an acknowledgement tells the truth (`World.Acked`): a number in a
directory has been reached by both nodes, one in a message has been reached by its sender, and the
number of an acknowledged write has been reached by all nodes that were marked alive when the wait
for acknowledgements ended (`World.Run.alive_of_mem`).
-/

namespace SumCluster

namespace World

variable {ι : Type}

/-- Whether the node with an identifier, if it is in the cluster, has reached a number. -/
def Reached (world : World ι) (id : NodeId) (seqn : Seqn) : Prop :=
  ∀ j, (world.nodes j).id = id → seqn ≤ (world.nodes j).state.seqn

/-- Every acknowledgement tells the truth. -/
structure Acked (world : World ι) : Prop where
  distinct : Function.Injective fun i => (world.nodes i).id
  recorded : ∀ i, (world.nodes i).AcksSatisfy fun id seqn =>
    seqn ≤ (world.nodes i).state.seqn ∧ world.Reached id seqn
  spoken : ∀ letter ∈ world.letters, ∀ seqn, letter.message.acknowledged? = some seqn →
    world.Reached letter.message.sender seqn
  complete : ∀ write ∈ world.writes, ∀ id ∈ write.alive, world.Reached id write.seqn

theorem reached_self {world : World ι} (distinct : Function.Injective fun i => (world.nodes i).id)
    {i : ι} {seqn : Seqn} (le : seqn ≤ (world.nodes i).state.seqn) :
    world.Reached (world.nodes i).id seqn := by
  intro j same
  rw [distinct same]
  exact le

theorem Reached.of_le {world : World ι} {id : NodeId} {seqn seqn' : Seqn}
    (reached : world.Reached id seqn') (le : seqn ≤ seqn') : world.Reached id seqn :=
  fun j same => UInt64.le_trans le (reached j same)

/-- When no acknowledgement of a number is missing, the nodes marked alive have reached it. -/
theorem Acked.reached_of_missingAcks {world : World ι} (acked : Acked world) {i : ι} {seqn : Seqn}
    (none : (world.nodes i).missingAcks seqn = []) {id : NodeId}
    (mem : id ∈ (world.nodes i).aliveIds) : world.Reached id seqn := by
  obtain ⟨peer, peer_mem, rfl⟩ := List.mem_map.1 mem
  obtain ⟨record, record_mem, other, alive, rfl⟩ := Directory.mem_alivePeers.1 peer_mem
  have acknowledged : seqn ≤ record.acked :=
    Directory.le_acked_of_missingAcks_eq_nil none record_mem other alive
  exact (acked.recorded i record record_mem).2.of_le acknowledged

variable [DecidableEq ι]

theorem Reached.step {world next : World ι} {id : NodeId} {seqn : Seqn}
    (reached : world.Reached id seqn) (step : Step world next) : next.Reached id seqn := by
  intro j same
  rw [step.id_eq] at same
  exact UInt64.le_trans (reached j same) (step.seqn_le j)

omit [DecidableEq ι] in
theorem acked_of_booted {first : World ι} (booted : first.Booted) : Acked first where
  distinct := booted.distinct_ids
  recorded := by
    intro i
    obtain ⟨config, address, since, created⟩ := booted.created i
    exact Node.acksSatisfy_of_create created fun id =>
      ⟨UInt64.zero_le, fun _ _ => UInt64.zero_le⟩
  spoken := by
    intro letter mem
    simp [letters, booted.silent, booted.unwritten] at mem
  complete := by
    intro write mem
    simp [booted.unwritten] at mem

/-! ## Steps -/

/-- A member records acknowledgements that are on their way, and no others. -/
theorem Step.acksSatisfy {world next : World ι} (step : Step world next)
    {P : NodeId → Seqn → Prop} (zero : ∀ id, P id 0) {i : ι}
    (old : (world.nodes i).AcksSatisfy P)
    (new : ∀ letter ∈ world.letters, ∀ seqn, letter.message.acknowledged? = some seqn →
      seqn ≤ (next.nodes i).state.seqn → P letter.message.sender seqn) :
    (next.nodes i).AcksSatisfy P := by
  cases step with
  | rest nodes =>
    rw [nodes]
    exact old
  | deed actor deed heard nodes =>
    by_cases acting : i = actor
    · subst acting
      rw [nodes, Function.update_self] at new ⊢
      refine deed.acksSatisfy zero old fun message seqn same acknowledges reached => ?_
      obtain ⟨letter, mem, rfl⟩ := heard message same
      rw [Message.acknowledged?_bare] at acknowledges
      rw [Message.sender_bare]
      exact new letter mem seqn acknowledges reached
    · rw [nodes, Function.update_of_ne acting]
      exact old

section Step

variable {world next : World ι} (acked : Acked world) (step : Step world next)

include acked step

theorem Acked.distinct_step : Function.Injective fun i => (next.nodes i).id := by
  intro i j same
  simp only [step.id_eq] at same
  exact acked.distinct same

theorem Acked.recorded_step (i : ι) : (next.nodes i).AcksSatisfy fun id seqn =>
    seqn ≤ (next.nodes i).state.seqn ∧ next.Reached id seqn := by
  refine step.acksSatisfy (fun id => ⟨UInt64.zero_le, fun _ _ => UInt64.zero_le⟩) ?_ ?_
  · exact Directory.AcksSatisfy.mono (acked.recorded i) fun id seqn le =>
      ⟨UInt64.le_trans le.1 (step.seqn_le i), le.2.step step⟩
  · intro letter mem seqn acknowledges reached
    exact ⟨reached, (acked.spoken letter mem seqn acknowledges).step step⟩

theorem Acked.spoken_step {letter : Letter} (mem : letter ∈ next.letters) {seqn : Seqn}
    (acknowledges : letter.message.acknowledged? = some seqn) :
    next.Reached letter.message.sender seqn := by
  rcases step.tells mem with old | ⟨i, tells⟩
  · exact (acked.spoken letter old seqn acknowledges).step step
  · rw [tells.sender_eq]
    exact reached_self (acked.distinct_step step) (tells.acknowledged?_le acknowledges)

theorem Acked.complete_step {later : Write ι} (mem : later ∈ next.writes) {id : NodeId}
    (alive : id ∈ later.alive) : next.Reached id later.seqn := by
  rcases step.comes mem with new | ⟨write, old, continues⟩
  · rw [new.alive] at alive
    simp at alive
  · rw [continues.seqn]
    rcases continues.alive id alive with alive | ⟨none, alive⟩
    · exact (acked.complete write old id alive).step step
    · exact (acked.reached_of_missingAcks none alive).step step

theorem acked_step : Acked next where
  distinct := acked.distinct_step step
  recorded := acked.recorded_step step
  spoken := fun _ mem _ acknowledges => acked.spoken_step step mem acknowledges
  complete := fun _ mem _ alive => acked.complete_step step mem alive

end Step

theorem Run.acked {first world : World ι} {past : List (World ι)} (run : Run first past world)
    (booted : first.Booted) : Acked world :=
  run.invariant (acked_of_booted booted) acked_step

/-! ## Histories -/

section History

variable {first world : World ι} {past : List (World ι)} (run : Run first past world)
  (booted : first.Booted)

include run

/-- The nodes that count as alive for a write are among those that its writer had marked alive at a
moment when it found no acknowledgement missing. -/
theorem Run.alive_of_mem (unwritten : first.writes = []) {write : Write ι}
    (mem : write ∈ world.writes) {id : NodeId} (alive : id ∈ write.alive) :
    ∃ moment ∈ past, (moment.nodes write.writer).missingAcks write.seqn = [] ∧
      id ∈ (moment.nodes write.writer).aliveIds := by
  induction run generalizing write with
  | start => simp [unwritten] at mem
  | step run acts ih =>
    rcases (step_of_act? acts).comes mem with new | ⟨earlier, old, continues⟩
    · rw [new.alive] at alive
      simp at alive
    · rw [continues.writer, continues.seqn]
      rcases continues.alive id alive with alive | found
      · obtain ⟨moment, passed, found⟩ := ih old alive
        exact ⟨moment, List.mem_cons_of_mem _ passed, found⟩
      · exact ⟨_, List.mem_cons_self, found⟩

include booted

/-- Who was alive when a write was acknowledged has its number from then on. -/
theorem Run.seqn_le_of_alive {moment : World ι} (passed : moment ∈ world :: past)
    {write : Write ι} (mem : write ∈ moment.writes) {q : ι}
    (alive : (world.nodes q).id ∈ write.alive) : write.seqn ≤ (world.nodes q).state.seqn := by
  obtain ⟨earlier, later, before, after⟩ := run.split passed
  rw [after.id_eq] at alive
  have reached := (before.acked booted).complete write mem _ alive q rfl
  exact UInt64.le_trans reached (after.seqn_le q)

/-- A write is applied under a number that nobody has acknowledged. -/
theorem Run.acked_lt_of_startWrite {p : ι} {delta : Int64} {seqn : Option Seqn} {node : Node}
    {write : AppliedWrite}
    (starts : (world.nodes p).startWrite world.now delta seqn = .applied node write)
    {record : Record} (mem : record ∈ node.state.directory.records) :
    record.acked < write.seqn := by
  obtain ⟨-, higher, applied⟩ := Node.applied_of_startWrite starts
  rw [(Prod.mk.inj applied).1] at mem
  have acked := ((run.acked booted).recorded p record mem).1
  exact UInt64.lt_of_le_of_lt acked higher

end History

/-- A node that leads and has reached a number takes a write under it for done. -/
theorem begin_of_seqn_le {C : Type} [Carrier C] {site : Site C} {seqn : Seqn} (delta : Int64)
    (leads : site.node.state.isPrimary = true) (reached : seqn ≤ site.node.state.seqn) :
    Replication.begin site delta (some seqn) = (site, .done (.ok site.node.held)) := by
  unfold Replication.begin Node.startWrite
  simp only [leads, reached, Bool.not_true, if_true]
  rfl

/-- Acknowledgements are never premature, and an acknowledged write is never applied again: a
recorded number has been reached by both nodes, nothing counts for a write before it is applied, and
whoever was alive when the write was acknowledged has its number for ever, so that a write under the
same number succeeds there without doing anything. -/
theorem acknowledged_writes_last {C : Type} [Carrier C] {first world : World ι}
    {past : List (World ι)} (booted : first.Booted) (run : Run first past world) :
    (∀ p q, p ≠ q → ∀ record ∈ (world.nodes p).state.directory.records,
      record.id = (world.nodes q).id →
        record.acked ≤ (world.nodes p).state.seqn ∧
          record.acked ≤ (world.nodes q).state.seqn) ∧
    (∀ p delta seqn node write,
      (world.nodes p).startWrite world.now delta seqn = .applied node write →
        ∀ record ∈ node.state.directory.records, record.acked < write.seqn) ∧
    ∀ moment ∈ world :: past, ∀ write ∈ moment.writes, ∀ answer,
      write.result? = some (.ok answer) → ∀ q, (world.nodes q).id ∈ write.alive →
        write.seqn ≤ (world.nodes q).state.seqn ∧
          ((world.nodes q).state.isPrimary = true →
            ∀ (site : Site C) delta, site.node = world.nodes q →
              Replication.begin site delta (some write.seqn) =
                (site, .done (.ok (world.nodes q).held))) := by
  refine ⟨?_, ?_, ?_⟩
  · intro p q _ record mem same
    obtain ⟨own, others⟩ := (run.acked booted).recorded p record mem
    exact ⟨own, others q same.symm⟩
  · intro p delta seqn node write starts record mem
    exact run.acked_lt_of_startWrite booted starts mem
  · intro moment passed write mem answer _ q alive
    have reached := run.seqn_le_of_alive booted passed mem alive
    refine ⟨reached, fun leads site delta same => ?_⟩
    rw [← same] at leads reached ⊢
    exact begin_of_seqn_le delta leads reached

/-- The backup has acknowledged a write and takes the lead; there the write counts as done. -/
theorem acknowledged_writes_last_failover :
    ∃ past world, Run duo past world ∧ (world.nodes 1).state.isPrimary = true ∧
      (∀ record ∈ (world.nodes 0).state.directory.records, record.id = (world.nodes 1).id →
        record.acked ≤ (world.nodes 1).state.seqn) ∧
      ∃ write ∈ world.writes, write.returned? = some (5, 1) ∧
        ∀ (site : Site Network) delta, site.node = world.nodes 1 →
          Replication.begin site delta (some write.seqn) =
            (site, .done (.ok (world.nodes 1).held)) := by
  have happens : ∃ past world, Run duo past world ∧ (world.nodes 1).state.isPrimary = true ∧
      ∃ write ∈ world.writes, write.returned? = some (5, 1) ∧ (world.nodes 1).id ∈ write.alive :=
    exists_run [.join 1, .hear 0 0, .write 0 5 none, .send 0 0, .hear 1 3, .hear 0 4,
      .look 0, .send 0 0, .send 0 0, .contend 1, .claim 1] (by decide)
  obtain ⟨past, world, run, leads, write, mem, returned, alive⟩ := happens
  obtain ⟨recorded, -, lasts⟩ := acknowledged_writes_last (C := Network) duo_booted run
  refine ⟨past, world, run, leads, ?_, write, mem, returned, ?_⟩
  · intro record record_mem same
    exact (recorded 0 1 (by decide) record record_mem same).2
  · have result := Write.result?_of_returned? returned
    exact (lasts world List.mem_cons_self write mem _ result 1 alive).2 leads

/-- A node that is marked alive again when the wait has ended, but the update is still being sent,
may lack the write for ever, and apply another one under its number later. -/
theorem late_node_applies_acknowledged_number :
    ∃ past moment later world, Run duo past moment ∧ Run moment later world ∧
      ((∀ before ∈ past, ∀ write ∈ before.writes, write.result? = none) ∧
        (∃ write ∈ moment.writes, write.writer = 0 ∧ write.returned? = some (5, 1)) ∧
        (moment.nodes 1).id ∈ (moment.nodes 0).aliveIds) ∧
      ∃ write ∈ world.writes, write.writer = 1 ∧ (write.sum, write.seqn) = (7, 1) := by
  -- The first copies are lost until node 1 counts as dead; it comes back before the last copy goes.
  have returns : ∃ past moment, Run duo past moment ∧
      ((∀ before ∈ past, ∀ write ∈ before.writes, write.result? = none) ∧
        (∃ write ∈ moment.writes, write.writer = 0 ∧ write.returned? = some (5, 1)) ∧
        (moment.nodes 1).id ∈ (moment.nodes 0).aliveIds) ∧
      (run? [] moment [.contend 1, .claim 1, .write 1 7 (some 1)]).any (fun reached =>
        ∃ write ∈ reached.2.writes, write.writer = 1 ∧ (write.sum, write.seqn) = (7, 1)) = true :=
    exists_run [.join 1, .hear 0 0, .write 0 5 none, .send 0 0, .pass 400, .beat 0 5, .look 0,
      .send 0 0, .discover 1 (.v4 ⟨10, 0, 0, 1⟩ 1), .hear 0 5, .pass 400, .send 0 0] (by decide)
  obtain ⟨past, moment, before, told, goesOn⟩ := returns
  have repeats : ∃ later world, Run moment later world ∧
      ∃ write ∈ world.writes, write.writer = 1 ∧ (write.sum, write.seqn) = (7, 1) :=
    exists_run [.contend 1, .claim 1, .write 1 7 (some 1)] goesOn
  obtain ⟨later, world, after, repeats⟩ := repeats
  exact ⟨past, moment, later, world, before, after, told, repeats⟩

end World

end SumCluster
