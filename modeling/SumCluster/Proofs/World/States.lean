import SumCluster.Proofs.Node.Standing
import SumCluster.Proofs.World.Step

/-!
# The states in a world

All the sums with their numbers that nodes hold and letters carry (`World.States`).  A step adds
none to them but the one that a node leaves that leads and applies a write (`World.States.step`).
-/

namespace SumCluster

namespace World

variable {ι : Type}

/-- Everything that nodes hold and letters carry satisfies a predicate. -/
structure States (K : Int64 × Seqn → Prop) (world : World ι) : Prop where
  held : ∀ i, K (world.nodes i).held
  carried : ∀ letter ∈ world.letters, ∀ state, letter.message.state? = some state → K state

theorem states_of_booted {K : Int64 × Seqn → Prop} {first : World ι} (booted : first.Booted)
    (zero : K (0, 0)) : States K first where
  held := by
    intro i
    obtain ⟨config, address, since, created⟩ := booted.created i
    rw [Node.held_of_create created]
    exact zero
  carried := by
    intro letter mem
    simp [letters, booted.silent, booted.unwritten] at mem

variable [DecidableEq ι]

/-- A member of a world leads and applies a write in a step. -/
structure Writes (world next : World ι) (i : ι) : Prop where
  leads : (world.nodes i).state.isPrimary = true
  entered : ∃ write ∈ next.writes, write.writer = i ∧
    (write.sum, write.seqn) = (next.nodes i).held

/-- A member keeps what it holds, takes over what a letter carries, or applies a write. -/
theorem Step.held_cases {world next : World ι} (step : Step world next) (i : ι) :
    (next.nodes i).held = (world.nodes i).held ∨
      (∃ letter ∈ world.letters, letter.message.state? = some (next.nodes i).held) ∨
      Writes world next i := by
  cases step with
  | rest nodes =>
    rw [nodes]
    exact .inl rfl
  | @deed actor cause node sent deed heard nodes _ _ entered =>
    by_cases acting : i = actor
    · subst acting
      have here : next.nodes i = node := (congrFun nodes i).trans (Function.update_self ..)
      have follows := deed.follows
      cases cause with
      | heard message =>
        rw [here]
        cases follows with
        | kept same => exact .inl same
        | taken offered =>
          obtain ⟨letter, mem, rfl⟩ := heard message rfl
          rw [Message.state?_bare] at offered
          exact .inr (.inl ⟨letter, mem, offered⟩)
      | own =>
        rw [here]
        exact .inl follows
      | wrote sum seqn =>
        obtain ⟨write, mem, writer, sum_eq, seqn_eq, -⟩ := entered sum seqn rfl
        refine .inr (.inr ⟨deed.leads_of_wrote, write, mem, writer, ?_⟩)
        rw [here, follows.1, sum_eq, seqn_eq]
    · rw [nodes, Function.update_of_ne acting]
      exact .inl rfl

theorem States.step {K K' : Int64 × Seqn → Prop} {world next : World ι} (states : States K world)
    (step : Step world next) (mono : ∀ state, K state → K' state)
    (written : ∀ i, Writes world next i → K' (next.nodes i).held) : States K' next := by
  have held : ∀ i, K' (next.nodes i).held := by
    intro i
    rcases step.held_cases i with same | ⟨letter, mem, carries⟩ | writes
    · rw [same]
      exact mono _ (states.held i)
    · exact mono _ (states.carried letter mem _ carries)
    · exact written i writes
  refine ⟨held, fun letter mem state carries => ?_⟩
  rcases step.tells mem with old | ⟨i, tells⟩
  · exact mono _ (states.carried letter old state carries)
  · rw [tells.state?_eq carries]
    exact held i

end World

end SumCluster
