import SumCluster.Proofs.Node.Integrity
import SumCluster.Proofs.Node.Room

/-!
# What heartbeats repair

A node that follows a heartbeat compares the number in it with its own, and nothing else.  If they
differ, it ends up with the state of the primary or hands over its own newer one, so that the two
meet.  If they do not, it keeps its sum whatever that is, and acknowledges the number
(`Node.heartbeat_repairs`): a sum that was written elsewhere under the same number stays
(`Node.heartbeat_spares_rival`).
-/

namespace SumCluster

namespace Node

variable {node next : Node} {now : Int} {sender : NodeId} {sum : Int64} {seqn : Seqn}

/-- A node that decides whom to follow does not touch its state for that. -/
theorem held_of_heed? (heeds : node.heed? now sender = some next) :
    next.held = node.held ∧ next.id = node.id := by
  unfold heed? at heeds
  split at heeds
  · split at heeds
    · exact nomatch heeds
    · obtain rfl := Option.some.inj heeds
      exact ⟨rfl, rfl⟩
  · split at heeds
    · obtain rfl := Option.some.inj heeds
      exact ⟨rfl, rfl⟩
    · split at heeds
      · exact nomatch heeds
      · obtain rfl := Option.some.inj heeds
        exact ⟨rfl, rfl⟩

theorem held_yieldTo (node : Node) (sender : NodeId) :
    (node.yieldTo sender).held = node.held ∧ (node.yieldTo sender).id = node.id := by
  unfold yieldTo
  split <;> exact ⟨rfl, rfl⟩

theorem catchUp_of_lt (newer : node.state.seqn < seqn) :
    (node.catchUp sum seqn).held = (sum, seqn) ∧ (node.catchUp sum seqn).id = node.id := by
  have taken : node.state.adopt? sum seqn =
      some { node.state with sum := sum, seqn := seqn, hasInitial := true } :=
    if_neg (UInt64.not_lt.2 (UInt64.le_of_lt newer))
  simp only [catchUp, if_pos newer, State.adopt, taken]
  exact ⟨rfl, rfl⟩

theorem catchUp_of_le (notNewer : seqn ≤ node.state.seqn) : node.catchUp sum seqn = node :=
  if_neg (UInt64.not_lt.2 notNewer)

section Handle

variable {timestamp : UInt64} {source : Address} {effects : Effects}
  (other : sender ≠ node.id) (room : node.state.directory.HasRoom [sender])
  (handled : node.handle now (.heartbeat sender sum seqn timestamp) source = (next, effects))

include other room handled

/-- A node that is a backup of the sender after a heartbeat has caught up with it, and has answered
with what it holds then. -/
theorem caughtUp_of_heartbeat (backup : next.state.isPrimary = false)
    (follows : next.state.primary = some sender) :
    ∃ heeder : Node, heeder.held = node.held ∧ heeder.id = node.id ∧
      next = heeder.catchUp sum seqn ∧ effects = next.acknowledge source seqn := by
  have address := @addressOf?_meet_of_hasRoom node [sender] now sender source room
    (List.mem_singleton_self sender)
  rcases heeds_or_ignores other address handled with ⟨heeder, heeds, rfl, rfl⟩ | ⟨ignores, rfl, -⟩
  · obtain ⟨held, id⟩ := held_of_heed? heeds
    obtain ⟨held', id'⟩ := held_yieldTo heeder sender
    exact ⟨heeder.yieldTo sender, held'.trans held, id'.trans id, rfl, rfl⟩
  · -- who ignores the sender leads or follows another node, and stays so
    rcases heed?_eq_none_iff.1 ignores with ⟨leads, -⟩ | ⟨-, another, -⟩
    · exact absurd leads (Bool.eq_false_iff.1 backup)
    · exact absurd follows another

/-- A node that follows the heartbeat of a peer with another number than its own holds what the
heartbeat says and acknowledges that, or answers with the newer state that it holds.  One that has
reached the very number keeps its state, and acknowledges the number as well. -/
theorem heartbeat_repairs (backup : next.state.isPrimary = false)
    (follows : next.state.primary = some sender) :
    (node.state.seqn ≠ seqn →
      next.held = (sum, seqn) ∧ effects = .reply source (.stateAck node.id seqn) ∨
      next.held = node.held ∧ seqn < next.state.seqn ∧
        effects = .send source (.victoryAck node.id next.state.sum next.state.seqn)) ∧
    (node.state.seqn = seqn →
      next.held = node.held ∧ effects = .reply source (.stateAck node.id seqn)) := by
  obtain ⟨heeder, held, id, rfl, rfl⟩ :=
    caughtUp_of_heartbeat other room handled backup follows
  have number : heeder.state.seqn = node.state.seqn := congrArg (·.2) held
  constructor
  · intro differ
    by_cases behind : heeder.state.seqn < seqn
    · obtain ⟨taken, id'⟩ := @catchUp_of_lt heeder sum seqn behind
      have reached : (heeder.catchUp sum seqn).state.seqn = seqn := congrArg (·.2) taken
      refine .inl ⟨taken, ?_⟩
      rw [acknowledge, if_neg (by simp [reached]), stateAck, reached, id', id]
    · have ahead : seqn < heeder.state.seqn :=
        UInt64.lt_of_le_of_ne (UInt64.not_lt.1 behind) fun same => differ (number ▸ same.symm)
      rw [catchUp_of_le (UInt64.le_of_lt ahead)]
      refine .inr ⟨held, ahead, ?_⟩
      rw [acknowledge, if_pos ahead, victoryAck, id]
  · intro level
    have level : heeder.state.seqn = seqn := number.trans level
    rw [catchUp_of_le (UInt64.le_of_eq level.symm)]
    refine ⟨held, ?_⟩
    rw [acknowledge, if_neg (by simp [level]), stateAck, level, id]

end Handle

/-- A backup that is one write behind. -/
theorem heartbeat_repairs_straggler :
    ∃ first node next effects, create followerConfig followerConfig.bindAddress 0 = .ok first ∧
      first.Deeds node ∧ node.held = (5, 1) ∧ (3 : NodeId) ≠ node.id ∧
      node.state.directory.HasRoom [3] ∧
      node.handle 1 (.heartbeat 3 9 2 0) (.v4 ⟨10, 0, 0, 3⟩ 1) = (next, effects) ∧
      next.state.isPrimary = false ∧ next.state.primary = some 3 ∧
      next.held = (9, 2) ∧ effects = .reply (.v4 ⟨10, 0, 0, 3⟩ 1) (.stateAck 2 2) := by
  let first := ((create followerConfig followerConfig.bindAddress 0).toOption).getD default
  have created : create followerConfig followerConfig.bindAddress 0 = .ok first := rfl
  have hears : first.Deed 0 _ _ _ := .hear (.stateUpdate 1 5 1 0) (.v4 ⟨10, 0, 0, 1⟩ 1)
  have deeds : first.Deeds _ := .single hears
  let node := (first.handle 0 (.stateUpdate 1 5 1 0) (.v4 ⟨10, 0, 0, 1⟩ 1)).1
  have other : (3 : NodeId) ≠ node.id := by decide
  have room : node.state.directory.HasRoom [3] := by decide
  let result := node.handle 1 (.heartbeat 3 9 2 0) (.v4 ⟨10, 0, 0, 3⟩ 1)
  have backup : result.1.state.isPrimary = false := by decide
  have follows : result.1.state.primary = some 3 := by decide
  obtain ⟨repairs, -⟩ := heartbeat_repairs other room (Prod.eta result).symm backup follows
  refine ⟨first, node, result.1, result.2, created, deeds, by decide, other, room,
    (Prod.eta result).symm, backup, follows, ?_⟩
  rcases repairs (by decide) with taken | ⟨-, ahead, -⟩
  · exact taken
  · exact absurd ahead (by decide)

/-- A backup that has taken over the first write of its primary, and then follows another one that
has written something else first: the backup acknowledges that it is level, and keeps its sum. -/
theorem heartbeat_spares_rival :
    ∃ first node next effects, create followerConfig followerConfig.bindAddress 0 = .ok first ∧
      first.Deeds node ∧ (3 : NodeId) ≠ node.id ∧ node.state.directory.HasRoom [3] ∧
      node.handle 1 (.heartbeat 3 9 1 0) (.v4 ⟨10, 0, 0, 3⟩ 1) = (next, effects) ∧
      next.state.isPrimary = false ∧ next.state.primary = some 3 ∧
      ¬((next.held = (9, 1) ∧ effects = .reply (.v4 ⟨10, 0, 0, 3⟩ 1) (.stateAck 2 1)) ∨
        ((1 : Seqn) < next.state.seqn ∧
          effects = .send (.v4 ⟨10, 0, 0, 3⟩ 1) next.victoryAck)) := by
  let first := ((create followerConfig followerConfig.bindAddress 0).toOption).getD default
  have created : create followerConfig followerConfig.bindAddress 0 = .ok first := rfl
  have hears : first.Deed 0 _ _ _ := .hear (.stateUpdate 1 5 1 0) (.v4 ⟨10, 0, 0, 1⟩ 1)
  let node := (first.handle 0 (.stateUpdate 1 5 1 0) (.v4 ⟨10, 0, 0, 1⟩ 1)).1
  let result := node.handle 1 (.heartbeat 3 9 1 0) (.v4 ⟨10, 0, 0, 3⟩ 1)
  exact ⟨first, node, result.1, result.2, created, .single hears, by decide, by decide,
    (Prod.eta result).symm, by decide, by decide, by decide⟩

end Node

end SumCluster
