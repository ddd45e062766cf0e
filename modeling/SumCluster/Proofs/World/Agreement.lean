import SumCluster.Proofs.World.Acks
import SumCluster.Proofs.World.States

/-!
# What an acknowledged number stands for

Every state in a cluster is the first one or stems from a write in the ledger, and a node never
applies two writes under one number (`World.Ledger`).  So a node that has reached the number of an
acknowledged write holds a newer state, the state after that write, or one that another node has
applied under the same number (`World.acknowledged_state_held`).
-/

namespace SumCluster

namespace World

variable {ι : Type}

/-- Whether a state is the first one or stems from a write in the ledger. -/
def Known (world : World ι) (state : Int64 × Seqn) : Prop :=
  state = (0, 0) ∨ ∃ write ∈ world.writes, state = (write.sum, write.seqn)

/-- The ledger accounts for all states, and for each number of each writer once. -/
structure Ledger (world : World ι) : Prop where
  states : States world.Known world
  positive : ∀ write ∈ world.writes, 0 < write.seqn
  reached : ∀ write ∈ world.writes, write.seqn ≤ (world.nodes write.writer).state.seqn
  unique : ∀ a ∈ world.writes, ∀ b ∈ world.writes, a.writer = b.writer → a.seqn = b.seqn →
    a.sum = b.sum

theorem ledger_of_booted {first : World ι} (booted : first.Booted) : Ledger first where
  states := states_of_booted booted (.inl rfl)
  positive := by simp [booted.unwritten]
  reached := by simp [booted.unwritten]
  unique := by simp [booted.unwritten]

variable [DecidableEq ι]

section Step

variable {world next : World ι} (ledger : Ledger world) (step : Step world next)

include ledger step

theorem Ledger.states_step : States next.Known next := by
  refine ledger.states.step step ?_ ?_
  · rintro state (rfl | ⟨write, mem, rfl⟩)
    · exact .inl rfl
    · obtain ⟨later, later_mem, continues⟩ := step.stays mem
      exact .inr ⟨later, later_mem, by rw [continues.sum, continues.seqn]⟩
  · rintro i ⟨-, write, mem, -, same⟩
    exact .inr ⟨write, mem, same.symm⟩

theorem Ledger.positive_step {later : Write ι} (mem : later ∈ next.writes) : 0 < later.seqn := by
  rcases step.comes mem with new | ⟨write, old, continues⟩
  · exact UInt64.lt_of_le_of_lt UInt64.zero_le new.higher
  · rw [continues.seqn]
    exact ledger.positive write old

theorem Ledger.reached_step {later : Write ι} (mem : later ∈ next.writes) :
    later.seqn ≤ (next.nodes later.writer).state.seqn := by
  rcases step.comes mem with new | ⟨write, old, continues⟩
  · have same : (next.nodes later.writer).state.seqn = later.seqn := congrArg Prod.snd new.held
    rw [same]
    exact UInt64.le_refl _
  · rw [continues.seqn, continues.writer]
    exact UInt64.le_trans (ledger.reached write old) (step.seqn_le write.writer)

/-- A number that a node uses for a write is one that it has not used before. -/
theorem Ledger.sum_eq_of_new {a b : Write ι} (new : a.IsNew world next) (mem : b ∈ next.writes)
    (writer : a.writer = b.writer) (seqn : a.seqn = b.seqn) : a.sum = b.sum := by
  rcases step.comes mem with new' | ⟨write, old, continues⟩
  · have same : (a.sum, a.seqn) = (b.sum, b.seqn) := by
      rw [← new.held, ← new'.held, writer]
    exact congrArg Prod.fst same
  · have before := ledger.reached write old
    rw [← continues.writer, ← continues.seqn, ← writer, ← seqn] at before
    exact absurd (UInt64.lt_of_le_of_lt before new.higher) (UInt64.lt_irrefl _)

theorem Ledger.unique_step {a b : Write ι} (a_mem : a ∈ next.writes) (b_mem : b ∈ next.writes)
    (writer : a.writer = b.writer) (seqn : a.seqn = b.seqn) : a.sum = b.sum := by
  rcases step.comes a_mem with new | ⟨a', a'_mem, a_continues⟩
  · exact ledger.sum_eq_of_new step new b_mem writer seqn
  · rcases step.comes b_mem with new | ⟨b', b'_mem, b_continues⟩
    · exact (ledger.sum_eq_of_new step new a_mem writer.symm seqn.symm).symm
    · rw [a_continues.sum, b_continues.sum]
      rw [a_continues.writer, b_continues.writer] at writer
      rw [a_continues.seqn, b_continues.seqn] at seqn
      exact ledger.unique a' a'_mem b' b'_mem writer seqn

theorem ledger_step : Ledger next where
  states := ledger.states_step step
  positive := fun _ mem => ledger.positive_step step mem
  reached := fun _ mem => ledger.reached_step step mem
  unique := fun _ a_mem _ b_mem => ledger.unique_step step a_mem b_mem

end Step

section History

variable {first world : World ι} {past : List (World ι)} (run : Run first past world)

include run

theorem Run.ledger (booted : first.Booted) : Ledger world :=
  run.invariant (ledger_of_booted booted) ledger_step

theorem Run.stays {write : Write ι} (mem : write ∈ first.writes) :
    ∃ later ∈ world.writes, later.writer = write.writer ∧ later.sum = write.sum ∧
      later.seqn = write.seqn := by
  induction run with
  | start => exact ⟨write, mem, rfl, rfl, rfl⟩
  | step run acts ih =>
    obtain ⟨middle, middle_mem, writer, sum, seqn⟩ := ih
    obtain ⟨later, later_mem, continues⟩ := (step_of_act? acts).stays middle_mem
    exact ⟨later, later_mem, continues.writer.trans writer, continues.sum.trans sum,
      continues.seqn.trans seqn⟩

end History

/-- Who was alive when a write was acknowledged has a newer state from then on, or the state after
the write, or one that another node has applied under the same number. -/
theorem acknowledged_state_held {first world : World ι} {past : List (World ι)}
    (booted : first.Booted) (run : Run first past world) :
    ∀ moment ∈ world :: past, ∀ write ∈ moment.writes, ∀ sum seqn,
      write.result? = some (.ok (sum, seqn)) →
        ∀ q, q ≠ write.writer → (world.nodes q).id ∈ write.alive →
          seqn < (world.nodes q).state.seqn ∨ (world.nodes q).held = (sum, seqn) ∨
            ∃ other ∈ world.writes, other.writer ≠ write.writer ∧ other.seqn = seqn ∧
              (world.nodes q).held = (other.sum, other.seqn) := by
  intro moment passed write mem sum seqn returns q _ alive
  obtain ⟨rfl, rfl⟩ := Prod.mk.inj (Write.answer_of_result? returns)
  have reached := run.seqn_le_of_alive booted passed mem alive
  rcases UInt64.lt_or_eq_of_le reached with newer | same
  · exact .inl newer
  · obtain ⟨earlier, later, before, after⟩ := run.split passed
    have ledger := run.ledger booted
    rcases ledger.states.held q with zero | ⟨other, other_mem, holds⟩
    · have seqn_eq : (world.nodes q).state.seqn = 0 := congrArg Prod.snd zero
      have positive := (before.ledger booted).positive write mem
      rw [same, seqn_eq] at positive
      exact absurd positive (UInt64.lt_irrefl 0)
    · have other_seqn : (world.nodes q).state.seqn = other.seqn := congrArg Prod.snd holds
      -- a writer never uses a number twice, so the same writer means the same sum
      by_cases writer : other.writer = write.writer
      · obtain ⟨kept, kept_mem, kept_writer, kept_sum, kept_seqn⟩ := after.stays mem
        have sum_eq : other.sum = kept.sum :=
          ledger.unique other other_mem kept kept_mem (writer.trans kept_writer.symm)
            (by rw [kept_seqn, same, other_seqn])
        refine .inr (.inl ?_)
        rw [holds, sum_eq, kept_sum, ← other_seqn, same]
      · exact .inr (.inr ⟨other, other_mem, writer, by rw [same, other_seqn], holds⟩)

/-- The backup has acknowledged a write, and holds the state after it. -/
theorem acknowledged_state_held_duo :
    ∃ past world, Run duo past world ∧ ∃ write ∈ world.writes, write.returned? = some (5, 1) ∧
      (1 < (world.nodes 1).state.seqn ∨ (world.nodes 1).held = (5, 1) ∨
        ∃ other ∈ world.writes, other.writer ≠ write.writer ∧ other.seqn = 1 ∧
          (world.nodes 1).held = (other.sum, other.seqn)) := by
  have happens : ∃ past world, Run duo past world ∧ ∃ write ∈ world.writes,
      write.returned? = some (5, 1) ∧ 1 ≠ write.writer ∧ (world.nodes 1).id ∈ write.alive :=
    exists_run [.join 1, .hear 0 0, .write 0 5 none, .send 0 0, .hear 1 3, .hear 0 4, .look 0,
      .send 0 0, .send 0 0] (by decide)
  obtain ⟨past, world, run, write, mem, returned, other, alive⟩ := happens
  have result := Write.result?_of_returned? returned
  exact ⟨past, world, run, write, mem, returned, acknowledged_state_held duo_booted run world
    List.mem_cons_self write mem 5 1 result 1 other alive⟩

/-- A node that is marked alive when a write returns may hold something else.  It may have applied a
write of its own under the same number, and handed over the state after it when a victory made it
step down: the winner takes that for an acknowledgement of its own write.  And it may have come back
after the wait for acknowledgements, while the update was still being sent. -/
theorem acknowledged_state_not_held :
    (∃ past world, Run duo past world ∧
      (∀ before ∈ past, ∀ write ∈ before.writes, write.result? = none) ∧
      (∃ write ∈ world.writes, write.writer = 1 ∧ write.returned? = some (7, 1)) ∧
      (world.nodes 0).id ∈ (world.nodes 1).aliveIds ∧
      ¬(1 < (world.nodes 0).state.seqn ∨
        (world.nodes 0).state.seqn = 1 ∧ (world.nodes 0).state.sum = 7)) ∧
    ∃ past world, Run duo past world ∧
      (∀ before ∈ past, ∀ write ∈ before.writes, write.result? = none) ∧
      (∃ write ∈ world.writes, write.writer = 0 ∧ write.returned? = some (5, 1)) ∧
      (world.nodes 1).id ∈ (world.nodes 0).aliveIds ∧
      ¬(1 < (world.nodes 1).state.seqn ∨
        (world.nodes 1).state.seqn = 1 ∧ (world.nodes 1).state.sum = 5) := by
  constructor
  · exact exists_run [.join 1, .hear 0 0, .write 0 5 none, .contend 1, .claim 1, .hear 0 3,
      .write 1 7 none, .hear 1 4, .look 1, .send 1 0, .send 1 0, .send 1 0] (by decide)
  · exact exists_run [.join 1, .hear 0 0, .write 0 5 none, .send 0 0, .pass 400, .beat 0 5,
      .look 0, .send 0 0, .discover 1 (.v4 ⟨10, 0, 0, 1⟩ 1), .hear 0 5, .pass 400, .send 0 0]
      (by decide)

end World

end SumCluster
