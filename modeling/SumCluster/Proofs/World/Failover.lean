import SumCluster.Proofs.World.Acks
import SumCluster.Proofs.World.States

/-!
# The first failover

A cluster boots with one primary.  Up to the moment when a node first wins an election nobody else
leads (`World.Run.leads`), so every node holds what the primary holds or once held
(`World.Run.held_of_sole`).  With the truth of acknowledgements, the winner has every write that was
acknowledged while it was alive (`World.single_writer_consistent`).
-/

namespace SumCluster

namespace World

variable {ι : Type} [DecidableEq ι]

section Step

variable {world next : World ι} (step : Step world next) (i : ι)

include step

theorem Step.leads_or_won (leads : (next.nodes i).state.isPrimary = true) :
    (world.nodes i).state.isPrimary = true ∨ 0 < (next.nodes i).stats.electionsWon :=
  step.nodes_induction i
    (R := fun node next => next.state.isPrimary = true →
      node.state.isPrimary = true ∨ 0 < next.stats.electionsWon)
    (fun _ => .inl) (fun deed => deed.leads_or_won) leads

theorem Step.leads_of_won
    (won : (world.nodes i).stats.electionsWon < (next.nodes i).stats.electionsWon) :
    (next.nodes i).state.isPrimary = true :=
  step.nodes_induction i
    (R := fun node next => node.stats.electionsWon < next.stats.electionsWon →
      next.state.isPrimary = true)
    (fun _ won => absurd won (Nat.lt_irrefl _)) (fun deed => deed.leads_of_won) won

end Step

/-- No node has won an election. -/
def Quiet (world : World ι) : Prop :=
  ∀ i, (world.nodes i).stats.electionsWon = 0

section History

variable {first world : World ι} {past : List (World ι)} {p : ι}
  (run : Run first past world) (quiet : ∀ moment ∈ past, moment.Quiet)

include run quiet

/-- Until somebody wins an election, only the first primary leads. -/
theorem Run.leads (sole : ∀ i, (first.nodes i).state.isPrimary = true → i = p) {i : ι}
    (leads : (world.nodes i).state.isPrimary = true) :
    i = p ∨ 0 < (world.nodes i).stats.electionsWon := by
  induction run with
  | start => exact .inl (sole i leads)
  | @step past world next action run acts ih =>
    rcases (step_of_act? acts).leads_or_won i leads with before | won
    · have still := quiet world List.mem_cons_self i
      rcases ih (fun moment mem => quiet moment (List.mem_cons_of_mem _ mem)) before with
        same | won
      · exact .inl same
      · rw [still] at won
        exact absurd won (Nat.lt_irrefl 0)
    · exact .inr won

/-- Until then, every state in the cluster is one of the first primary, at that moment or before. -/
theorem Run.states_of_sole (sole : ∀ i, (first.nodes i).state.isPrimary = true → i = p)
    (booted : first.Booted) :
    States (fun state => ∃ moment ∈ world :: past, state = (moment.nodes p).held) world := by
  induction run with
  | start =>
    obtain ⟨config, address, since, created⟩ := booted.created p
    exact states_of_booted booted
      ⟨first, List.mem_singleton_self first, (Node.held_of_create created).symm⟩
  | @step past world next action run acts ih =>
    have before : ∀ moment ∈ past, moment.Quiet :=
      fun moment mem => quiet moment (List.mem_cons_of_mem _ mem)
    refine (ih before).step (step_of_act? acts) ?_ ?_
    · rintro state ⟨moment, passed, same⟩
      exact ⟨moment, List.mem_cons_of_mem _ passed, same⟩
    · intro i writes
      rcases run.leads before sole writes.leads with rfl | won
      · exact ⟨next, List.mem_cons_self, rfl⟩
      · rw [quiet world List.mem_cons_self i] at won
        exact absurd won (Nat.lt_irrefl 0)

/-- Who has won an election then leads. -/
theorem Run.leads_of_won (booted : first.Booted) {i : ι}
    (won : 0 < (world.nodes i).stats.electionsWon) : (world.nodes i).state.isPrimary = true := by
  cases run with
  | start =>
    obtain ⟨config, address, since, created⟩ := booted.created i
    rw [Node.stats_of_create created] at won
    exact absurd won (Nat.lt_irrefl 0)
  | @step past world next action run acts =>
    have still := quiet world List.mem_cons_self i
    exact (step_of_act? acts).leads_of_won i (still ▸ won)

end History

/-- A cluster with one primary stays consistent up to the moment when somebody first wins an
election: every other node holds what the primary holds or once held, and has every write that was
acknowledged while it was alive.  So no such write is lost if it is the one who wins. -/
theorem single_writer_consistent {first world : World ι} {past : List (World ι)} {p : ι}
    (booted : first.Booted) (sole : ∀ i, (first.nodes i).state.isPrimary = true ↔ i = p)
    (run : Run first past world) (quiet : ∀ moment ∈ past, moment.Quiet) :
    (∀ i, i ≠ p → ∃ moment ∈ world :: past, (world.nodes i).held = (moment.nodes p).held) ∧
    ∀ moment ∈ world :: past, ∀ write ∈ moment.writes, write.writer = p → ∀ sum seqn,
      write.result? = some (.ok (sum, seqn)) → ∀ q, q ≠ p → (world.nodes q).id ∈ write.alive →
        seqn ≤ (world.nodes q).state.seqn ∧
        (0 < (world.nodes q).stats.electionsWon → (world.nodes q).state.isPrimary = true ∧
          ∃ source ∈ world :: past, (world.nodes q).held = (source.nodes p).held) := by
  have states := run.states_of_sole quiet (fun i => (sole i).1) booted
  refine ⟨fun i _ => states.held i, ?_⟩
  intro moment passed write mem _ sum seqn returns q _ alive
  obtain ⟨rfl, rfl⟩ := Prod.mk.inj (Write.answer_of_result? returns)
  have reached := run.seqn_le_of_alive booted passed mem alive
  exact ⟨reached, fun won => ⟨run.leads_of_won quiet booted won, states.held q⟩⟩

/-- The backup has acknowledged a write of the primary when it wins, and so keeps it. -/
theorem single_writer_consistent_failover :
    ∃ past world, Run duo past world ∧ 0 < (world.nodes 1).stats.electionsWon ∧
      (∃ write ∈ world.writes, write.returned? = some (5, 1)) ∧
      1 ≤ (world.nodes 1).state.seqn ∧ (world.nodes 1).state.isPrimary = true ∧
      ∃ source ∈ world :: past, (world.nodes 1).held = (source.nodes 0).held := by
  have happens : ∃ past world, Run duo past world ∧ 0 < (world.nodes 1).stats.electionsWon ∧
      (∀ moment ∈ past, ∀ i, (moment.nodes i).stats.electionsWon = 0) ∧
      ∃ write ∈ world.writes, write.returned? = some (5, 1) ∧ write.writer = 0 ∧
        (world.nodes 1).id ∈ write.alive :=
    exists_run [.join 1, .hear 0 0, .write 0 5 none, .send 0 0, .hear 1 3, .hear 0 4, .look 0,
      .send 0 0, .send 0 0, .contend 1, .claim 1] (by decide)
  obtain ⟨past, world, run, won, quiet, write, mem, returned, writer, alive⟩ := happens
  have sole : ∀ i, (duo.nodes i).state.isPrimary = true ↔ i = 0 := by decide
  have result := Write.result?_of_returned? returned
  obtain ⟨reached, wins⟩ := (single_writer_consistent duo_booted sole run quiet).2 world
    List.mem_cons_self write mem writer 5 1 result 1 (by decide) alive
  exact ⟨past, world, run, won, ⟨write, mem, returned⟩, reached, wins won⟩

/-- A node that is marked alive again when the wait for acknowledgements has ended, but the update
is still being sent, may lack the write when the primary returns. -/
theorem late_node_lacks_write :
    ∃ past world, Run duo past world ∧ (∀ i, (duo.nodes i).state.isPrimary = true ↔ i = 0) ∧
      (∀ moment ∈ world :: past, ∀ i, (moment.nodes i).stats.electionsWon = 0) ∧
      (∀ before ∈ past, ∀ write ∈ before.writes, write.result? = none) ∧
      (∃ write ∈ world.writes, write.writer = 0 ∧ write.returned? = some (5, 1)) ∧
      (world.nodes 1).id ∈ (world.nodes 0).aliveIds ∧ ¬1 ≤ (world.nodes 1).state.seqn :=
  -- The first copies are lost until node 1 counts as dead; it comes back before the last copy goes.
  exists_run [.join 1, .hear 0 0, .write 0 5 none, .send 0 0, .pass 400, .beat 0 5, .look 0,
    .send 0 0, .discover 1 (.v4 ⟨10, 0, 0, 1⟩ 1), .hear 0 5, .pass 400, .send 0 0] (by decide)

end World

end SumCluster
