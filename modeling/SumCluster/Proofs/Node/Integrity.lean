import SumCluster.Proofs.Node.Boot
import SumCluster.Proofs.Node.Move
import SumCluster.Proofs.Work.Deeds

/-!
# Where a state comes from

A node that leads takes itself for the primary, whatever has happened to it since it booted
(`Node.Deeds.leadsItself`).  So it rejects the updates of others, and a message changes the state
that a node holds in two ways only (`Node.Absorbs`): a backup takes over what the primary that it
follows says, unless the number is lower, and a primary takes over a state with a higher number from
an acknowledgement (`Node.absorbs_handle`).  The number of a node never falls
(`Node.state_integrity`).
-/

namespace SumCluster

/-- Whether a message carries the state of its sender as that of a primary. -/
def Message.isFromPrimary : Message → Bool
  | heartbeat .. | stateUpdate .. | victory .. => true
  | _ => false

namespace Node

/-! ## Who leads -/

/-- If the node leads, it takes itself for the primary. -/
def LeadsItself (node : Node) : Prop :=
  node.state.isPrimary = true → node.state.primary = some node.id

theorem leadsItself_of_create {config : Config} {address : Address} {now : Int} {node : Node}
    (created : create config address now = .ok node) : node.LeadsItself := by
  obtain ⟨directory, rfl, -⟩ := of_create created
  intro leads
  have role : config.role = .primary := of_decide_eq_true leads
  simp [State.boot, role, id]

theorem leadsItself_handle {node : Node} (itself : node.LeadsItself) (now : Int)
    (message : Message) (source : Address) :
    (node.handle now message source).1.LeadsItself := by
  have id : (node.handle now message source).1.id = node.id :=
    congrArg (·.1) (changes_handle node now message source).standing_eq
  intro leads
  have led : node.state.isPrimary = true :=
    (changes_handle node now message source).leads leads
  rw [id, ← itself led]
  unfold handle at leads ⊢
  split
  · rfl
  · rename_i other
    simp only [other, if_false] at leads
    exact (place_hear (node.meet now message.sender source) now _ message).primary_eq leads

theorem Deed.leadsItself {node next : Node} {now : Int} {cause : Cause} {letters : List Letter}
    (deed : node.Deed now cause next letters) (itself : node.LeadsItself) : next.LeadsItself := by
  cases deed.move with
  | hears message source => exact leadsItself_handle itself now message source
  | stays keeps =>
    intro leads
    rw [keeps.primary, deed.id_eq]
    exact itself (keeps.leads.symm.trans leads)
  | contends | rests => exact itself
  | leads => exact fun _ => rfl

/-- Whatever has happened to a node, it takes itself for the primary if it leads. -/
theorem Deeds.leadsItself {node next : Node} (deeds : node.Deeds next)
    (itself : node.LeadsItself) : next.LeadsItself :=
  deeds.invariant (fun itself deed => deed.leadsItself itself) itself

/-! ## What a message does to the state -/

/-- How a message may change the state that a node holds. -/
inductive Absorbs (node : Node) (message : Message) (next : Node) : Prop
  | kept (same : next.held = node.held)
  /-- A backup takes over the state of the primary that it follows. -/
  | followed (fromPrimary : message.isFromPrimary = true)
      (offered : message.state? = some next.held) (notLower : node.state.seqn ≤ next.state.seqn)
      (backup : next.state.isPrimary = false) (primary : next.state.primary = some message.sender)
  /-- A primary takes over a newer state from an acknowledgement. -/
  | recovered (acknowledges : message.kind = .victoryAck)
      (offered : message.state? = some next.held) (leads : node.state.isPrimary = true)
      (newer : node.state.seqn < next.state.seqn)

section Absorbs

variable (node : Node) (now : Int) (sender : NodeId) (sum : Int64) (seqn : Seqn)

/-- A node that reacts to a message of a primary by following it takes over nothing else. -/
theorem absorbs_of_yields {node next : Node} {message : Message}
    (reacts : Changes (.heard message) node next) (fromPrimary : message.isFromPrimary = true)
    (yields : node.Yields next message.sender) : node.Absorbs message next := by
  cases reacts.follows with
  | kept same => exact .kept same
  | taken offered notLower =>
    exact .followed fromPrimary offered notLower yields.follows yields.primary

theorem absorbs_hearHeartbeat (timestamp : UInt64) :
    node.Absorbs (.heartbeat sender sum seqn timestamp)
      (node.hearHeartbeat now sender sum seqn).1 := by
  have reacts : Changes (.heard (.heartbeat sender sum seqn timestamp)) node
      (node.hearHeartbeat now sender sum seqn).1 :=
    changes_hearHeartbeat node now sender rfl
  revert reacts
  unfold hearHeartbeat
  split
  · exact fun _ => .kept rfl
  · split
    · rename_i heeds
      refine fun reacts => absorbs_of_yields reacts rfl ?_
      exact ((yields_of_heed? heeds).1.trans_keeps keeps_yieldTo).trans_keeps
        (keeps_catchUp sum seqn)
    · exact fun _ => .kept rfl

theorem absorbs_hearVictory (timestamp : UInt64) :
    node.Absorbs (.victory sender sum seqn timestamp)
      (node.hearVictory now sender sum seqn).1 := by
  have reacts : Changes (.heard (.victory sender sum seqn timestamp)) node
      (node.hearVictory now sender sum seqn).1 :=
    changes_hearVictory node now sender rfl
  revert reacts
  unfold hearVictory
  split
  · exact fun _ => .kept rfl
  · split
    · exact fun _ => .kept rfl
    · refine fun reacts => absorbs_of_yields reacts rfl ?_
      exact Yields.trans_keeps ⟨rfl, rfl, rfl⟩ (keeps_adopt sum seqn)

theorem absorbs_hearUpdate (timestamp : UInt64) {node : Node} (itself : node.LeadsItself)
    (other : sender ≠ node.id) :
    node.Absorbs (.stateUpdate sender sum seqn timestamp) (node.hearUpdate sender sum seqn).1 := by
  unfold hearUpdate
  simp only
  generalize follower_eq : (if node.state.primary.isNone && !node.state.isPrimary then
    node.recognise sender else node) = follower
  have held : follower.held = node.held := by
    rw [← follower_eq]
    split <;> rfl
  split
  · exact .kept held
  · rename_i accepted
    have primary : follower.state.primary = some sender := by simpa using accepted
    -- one that leads follows itself, and so rejects the update
    have backup : follower.state.isPrimary = false := by
      rw [← follower_eq] at primary ⊢
      split at primary
      · rename_i first
        rw [if_pos first]
        have backup : node.state.isPrimary = false := by
          simpa using (Bool.and_eq_true_iff.1 first).2
        exact (yields_recognise backup sender).follows
      · rename_i settled
        rw [if_neg settled]
        refine Bool.eq_false_iff.2 fun leads => other ?_
        exact Option.some.inj (primary.symm.trans (itself leads))
    split
    · exact .kept held
    · split
      · rename_i adopts
        unfold State.adopt? at adopts
        split at adopts
        · simp at adopts
        · rename_i notLower
          obtain rfl := Option.some.inj adopts
          have seqn_eq : follower.state.seqn = node.state.seqn := congrArg Prod.snd held
          exact .followed rfl rfl (seqn_eq ▸ UInt64.not_lt.1 notLower) backup primary
      · exact .kept held

theorem absorbs_hearVictoryAck :
    node.Absorbs (.victoryAck sender sum seqn) (node.hearVictoryAck sender sum seqn) := by
  unfold hearVictoryAck
  simp only
  split
  · rename_i recovers
    have notLower : ¬seqn < node.state.seqn :=
      UInt64.not_lt.2 (UInt64.le_of_lt recovers.2)
    simp only [State.adopt, State.adopt?, notLower, if_false, Option.getD_some]
    split <;> exact .recovered rfl rfl recovers.1 recovers.2
  · split <;> exact .kept rfl

/-- A message without a state leaves the state of a node as it is. -/
theorem absorbs_of_silent {node next : Node} {message : Message}
    (reacts : Changes (.heard message) node next) (silent : message.state? = none) :
    node.Absorbs message next := by
  cases reacts.follows with
  | kept same => exact .kept same
  | taken offered => exact nomatch silent.symm.trans offered

theorem absorbs_hear {node : Node} (itself : node.LeadsItself) (isNew : Bool)
    (message : Message) (other : message.sender ≠ node.id) :
    node.Absorbs message (node.hear now isNew message).1 := by
  cases message with
  | heartbeat sender sum seqn => exact absorbs_hearHeartbeat node now sender sum seqn _
  | stateUpdate sender sum seqn => exact absorbs_hearUpdate sender sum seqn _ itself other
  | victory sender sum seqn => exact absorbs_hearVictory node now sender sum seqn _
  | victoryAck sender sum seqn => exact absorbs_hearVictoryAck node sender sum seqn
  | _ => exact absorbs_of_silent (changes_hear node now isNew _) rfl

theorem absorbs_handle {node : Node} (itself : node.LeadsItself) (message : Message)
    (source : Address) : node.Absorbs message (node.handle now message source).1 := by
  unfold handle
  split
  · exact .kept rfl
  · rename_i other
    -- to meet the sender changes neither the state nor who leads
    cases @absorbs_hear now (node.meet now message.sender source) itself _ message other with
    | kept same => exact .kept same
    | followed fromPrimary offered notLower backup primary =>
      exact .followed fromPrimary offered notLower backup primary
    | recovered acknowledges offered leads newer =>
      exact .recovered acknowledges offered leads newer

end Absorbs

/-! ## Every run -/

theorem role_of_not_isPrimary {state : State} (backup : state.isPrimary = false) :
    state.role = .backup := by
  unfold State.isPrimary at backup
  cases role : state.role with
  | primary => simp [role] at backup
  | backup => rfl

/-- Whatever has happened to a node since it booted: a message leaves its state as it is or
replaces it by the one in the message, under a number that is not lower, if the node is then a
backup of the sender, or if it is a primary and the message acknowledges a higher number.  And the
number never falls, whatever happens next. -/
theorem state_integrity {config : Config} {address : Address} {since : Int} {first node : Node}
    (created : create config address since = .ok first) (deeds : first.Deeds node) :
    (∀ now message source, ∀ next, (node.handle now message source).1 = next →
      next.held = node.held ∨
      message.state? = some next.held ∧ node.state.seqn ≤ next.state.seqn ∧
        ((message.kind = .heartbeat ∨ message.kind = .stateUpdate ∨ message.kind = .victory) ∧
            next.state.primary = some message.sender ∧ next.state.role = .backup ∨
          message.kind = .victoryAck ∧ node.state.role = .primary ∧
            node.state.seqn < next.state.seqn)) ∧
    ∀ next, node.Deeds next → node.state.seqn ≤ next.state.seqn := by
  refine ⟨?_, fun next later => later.seqn_le⟩
  rintro now message source next rfl
  have itself := deeds.leadsItself (leadsItself_of_create created)
  cases absorbs_handle now itself message source with
  | kept same => exact .inl same
  | followed fromPrimary offered notLower backup primary =>
    refine .inr ⟨offered, notLower, .inl ⟨?_, primary, ?_⟩⟩
    · cases message <;> simp_all [Message.isFromPrimary, Message.kind]
    · exact role_of_not_isPrimary backup
  | recovered acknowledges offered leads newer =>
    exact .inr ⟨offered, UInt64.le_of_lt newer, .inr ⟨acknowledges, of_decide_eq_true leads, newer⟩⟩

/-- A backup with a primary. -/
def followerConfig : Config :=
  .ofBackup 2 (.v4 ⟨10, 0, 0, 2⟩ 1) ⟨1, .v4 ⟨10, 0, 0, 1⟩ 1⟩

/-- A backup that has taken over a heartbeat of its primary, and then hears an older one. -/
theorem state_integrity_follower :
    ∃ first node next, create followerConfig followerConfig.bindAddress 0 = .ok first ∧
      first.Deeds node ∧ node.held = (5, 3) ∧
      (node.handle 1 (.heartbeat 1 4 2 0) (.v4 ⟨10, 0, 0, 1⟩ 1)).1 = next ∧
      next.held = (5, 3) ∧ node.state.seqn ≤ next.state.seqn := by
  let first := ((create followerConfig followerConfig.bindAddress 0).toOption).getD default
  have created : create followerConfig followerConfig.bindAddress 0 = .ok first := rfl
  have hears : first.Deed 0 _ _ _ := .hear (.heartbeat 1 5 3 0) (.v4 ⟨10, 0, 0, 1⟩ 1)
  have deeds : first.Deeds _ := .single hears
  obtain ⟨changes, rises⟩ := state_integrity created deeds
  refine ⟨_, _, _, created, deeds, by decide, rfl, ?_, rises _ (.single (.hear _ _))⟩
  obtain same | ⟨offered, -⟩ := changes 1 (.heartbeat 1 4 2 0) (.v4 ⟨10, 0, 0, 1⟩ 1) _ rfl
  · exact same
  · exact absurd offered (by decide)

end Node

end SumCluster
