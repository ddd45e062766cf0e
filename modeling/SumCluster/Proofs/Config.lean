import SumCluster.Config.Basic

/-!
# Valid configurations

A configuration is valid just when each of its rules is met (`Config.isValid_iff`).  Then the beats
between two sweeps are at least one, and take no longer than the primary may be silent.
-/

namespace SumCluster

namespace Config

variable {config : Config}

/-- The rules that a valid configuration meets. -/
theorem isValid_iff :
    config.IsValid ↔
      config.roleDefect? = none ∧ (∀ peer ∈ config.peers, peer.id ≠ config.id) ∧
      config.peers.length < config.maxReplicas ∧
      (∀ interval ∈ config.intervals, interval.2 ≠ 0) ∧
      config.heartbeatInterval < config.primaryTimeout := by
  unfold IsValid defect?
  rw [Option.or_eq_none_iff]
  refine and_congr_right fun _ => ?_
  have own : config.peers.any (·.id == config.id) = true ↔
      ¬∀ peer ∈ config.peers, peer.id ≠ config.id := by
    simp [List.any_eq_true]
  have zero : config.intervals.find? (·.2 == 0) = none ↔
      ∀ interval ∈ config.intervals, interval.2 ≠ 0 := by
    simp [List.find?_eq_none]
  rw [← zero]
  split
  · rename_i listed
    exact ⟨nofun, fun sound => absurd sound.1 (own.1 listed)⟩
  · rename_i unlisted
    have others := Decidable.of_not_not (mt own.2 unlisted)
    split
    · rename_i none
      exact ⟨nofun, fun sound => absurd sound.2.1 (none ▸ Nat.not_lt_zero _)⟩
    · split
      · rename_i crowded
        exact ⟨nofun, fun sound => absurd sound.2.1 (Nat.not_lt.2 crowded)⟩
      · rename_i room
        cases config.intervals.find? (·.2 == 0) with
        | some interval => exact ⟨nofun, fun sound => nomatch sound.2.2.1⟩
        | none =>
          have room := Nat.not_le.1 room
          by_cases hasty : config.primaryTimeout ≤ config.heartbeatInterval
          · simp [hasty, Nat.not_lt.2 hasty]
          · simp only [hasty, if_false, true_iff]
            exact ⟨others, room, trivial, Nat.not_le.1 hasty⟩

section Valid

variable (valid : config.IsValid)

include valid

/-- No node is among its own peers. -/
theorem IsValid.ne_id {peer : Peer} (mem : peer ∈ config.peers) : peer.id ≠ config.id :=
  (isValid_iff.1 valid).2.1 peer mem

/-- The primary of a backup is another node, one of its peers. -/
theorem IsValid.exists_peer (backup : config.role = .backup) {primary : NodeId}
    (follows : config.primary = some primary) :
    primary ≠ config.id ∧ ∃ peer ∈ config.peers, peer.id = primary := by
  have sound := (isValid_iff.1 valid).1
  unfold roleDefect? at sound
  rw [backup, follows] at sound
  simp only at sound
  split at sound
  · simp at sound
  · rename_i other
    split at sound
    · rename_i listed
      obtain ⟨peer, mem, same⟩ := List.any_eq_true.1 listed
      exact ⟨other, peer, mem, eq_of_beq same⟩
    · simp at sound

/-- All durations of a valid configuration that may not be zero are not. -/
theorem IsValid.interval_pos {interval : String × Nat} (mem : interval ∈ config.intervals) :
    0 < interval.2 :=
  Nat.pos_of_ne_zero ((isValid_iff.1 valid).2.2.2.1 interval mem)

theorem IsValid.heartbeatInterval_pos : 0 < config.heartbeatInterval :=
  @interval_pos _ valid ("heartbeat_interval", _) (List.mem_cons_self ..)

theorem IsValid.pollInterval_pos : 0 < config.pollInterval :=
  @interval_pos _ valid ("ack_poll_interval", _) (List.mem_of_getLast? rfl)

theorem IsValid.heartbeatInterval_lt : config.heartbeatInterval < config.primaryTimeout :=
  (isValid_iff.1 valid).2.2.2.2

/-- The guards of the sweep period against a zero are never needed. -/
theorem IsValid.sweepPeriod_eq :
    config.sweepPeriod = config.primaryTimeout / config.heartbeatInterval := by
  have pos := valid.heartbeatInterval_pos
  have whole : 1 ≤ config.primaryTimeout / config.heartbeatInterval :=
    (Nat.one_le_div_iff pos).2 (Nat.le_of_lt valid.heartbeatInterval_lt)
  rw [sweepPeriod, Nat.max_eq_left pos, Nat.max_eq_left whole]

/-- Between two sweeps a primary is silent for no longer than it may be. -/
theorem IsValid.sweepPeriod_mul_le :
    config.sweepPeriod * config.heartbeatInterval ≤ config.primaryTimeout := by
  rw [valid.sweepPeriod_eq]
  exact Nat.div_mul_le_self _ _

end Valid

theorem sweepPeriod_pos (config : Config) : 1 ≤ config.sweepPeriod :=
  Nat.le_max_right _ _

end Config

end SumCluster
