import SumCluster.Proofs.Node.Hearsay
import SumCluster.Proofs.World.Step

/-!
# Gossip

The lists that travel through a cluster never make a node take a live one for dead.  Whoever is
marked dead, in a directory or in a list on its way, has been silent for longer than the timeout that
all nodes share (`World.Fair`), and a list that is late only makes the silence it tells of longer.
So a node that was heard itself within the timeout is alive, and does not lose its followers
(`World.live_peers_spared`).
-/

namespace SumCluster

namespace World

variable {ι : Type}

/-- The ages of all records fit into the word that tells them. -/
def AgesFit (world : World ι) : Prop :=
  ∀ i, (world.nodes i).state.directory.All fun record =>
    Time.elapsed record.lastHeard world.now < UInt64.size

instance {n : Nat} (world : World (Fin n)) : Decidable world.AgesFit :=
  inferInstanceAs (Decidable (∀ i, ∀ record ∈ (world.nodes i).state.directory.records, _))

/-- Nobody is taken for dead, or told to be, of whom something was heard within the timeout. -/
structure Fair (timeout : Nat) (world : World ι) : Prop where
  nodes : ∀ i, (world.nodes i).IsFair timeout world.now
  told : ∀ letter ∈ world.letters, ∀ entry ∈ letter.message.entries, entry.IsFair timeout

theorem fair_of_created {first : World ι} {timeout : Nat}
    (created : ∀ i, ∃ config address since, config.primaryTimeout = timeout ∧
      Node.create config address since = .ok (first.nodes i))
    (silent : first.inFlight = []) (unwritten : first.writes = []) : Fair timeout first where
  nodes i := by
    obtain ⟨config, address, since, shared, creates⟩ := created i
    exact shared ▸ Node.isFair_of_create creates
  told letter mem := by
    simp [letters, silent, unwritten] at mem

variable [DecidableEq ι]

/-! ## Steps -/

/-- Time never goes back. -/
theorem now_le_of_act? {world next : World ι} {action : Action ι}
    (acts : world.act? action = some next) : world.now ≤ next.now := by
  cases action with
  | pass duration =>
    obtain rfl := Option.some.inj acts
    exact Int.le_add_of_nonneg_right (Int.natCast_nonneg duration)
  | drop | beat | giveUp | discover =>
    obtain rfl := Option.some.inj acts
    exact Int.le_refl _
  | contend | claim | join | skip =>
    obtain ⟨_, -, rfl⟩ := Option.map_eq_some_iff.1 acts
    exact Int.le_refl _
  | hear =>
    simp only [act?] at acts
    split at acts
    · simp at acts
    · split at acts
      · obtain rfl := Option.some.inj acts
        exact Int.le_refl _
      · simp at acts
  | write =>
    simp only [act?] at acts
    split at acts
    · obtain rfl := Option.some.inj acts
      exact Int.le_refl _
    · simp at acts
    · simp at acts
  | send =>
    obtain ⟨_, -, acts⟩ := Option.bind_eq_some_iff.1 acts
    obtain ⟨_, -, rfl⟩ := Option.map_eq_some_iff.1 acts
    exact Int.le_refl _
  | look | cancel =>
    obtain ⟨_, -, acts⟩ := Option.bind_eq_some_iff.1 acts
    split at acts
    · obtain rfl := Option.some.inj acts
      exact Int.le_refl _
    · simp at acts

/-- The cluster stays fair, as long as ages fit. -/
theorem Fair.step {world next : World ι} {timeout : Nat} (fair : Fair timeout world)
    (step : Step world next) (passed : world.now ≤ next.now) (fit : next.AgesFit) :
    Fair timeout next := by
  cases step with
  | rest nodes letters =>
    refine ⟨fun i => ?_, fun letter mem => fair.told letter (letters letter mem)⟩
    rw [nodes]
    exact (fair.nodes i).later passed
  | @deed member cause node sent deed heard nodes letters =>
    have told : ∀ message, cause = .heard message →
        ∀ entry ∈ message.entries, entry.IsFair timeout := by
      intro message hears entry mem
      obtain ⟨letter, flies, rfl⟩ := heard message hears
      rw [Message.entries_bare] at mem
      obtain ⟨original, original_mem, rfl⟩ := List.mem_map.1 mem
      exact fair.told letter flies original original_mem
    have fairly := deed.isFair (fair.nodes member) told
    constructor
    · rw [nodes]
      exact (Function.forall_update_iff world.nodes
        (p := fun _ (node : Node) => node.IsFair timeout next.now)).2
        ⟨fairly.later passed, fun i _ => (fair.nodes i).later passed⟩
    · intro letter mem entry entry_mem
      rcases letters letter mem with old | new
      · exact fair.told letter old entry entry_mem
      · obtain ⟨record, record_mem, rfl⟩ := deed.entries new entry_mem
        refine (fairly.records record record_mem).entry ?_
        have fits := fit member
        rw [nodes, Function.update_self] at fits
        have small := fits record record_mem
        unfold Time.elapsed at small ⊢
        omega

/-! ## Histories -/

/-- In a history, the latest world first, a member heard a node at an instant. -/
inductive HeardAt (member : ι) (id : NodeId) (instant : Int) : List (World ι) → Prop
  | last {before after : World ι} {earlier : List (World ι)} {index : Nat} {datagram : Datagram}
    (found : before.inFlight[index]? = some datagram)
    (sender : datagram.letter.message.sender = id) (now : before.now = instant)
    (hears : before.act? (.hear member index) = some after) :
    HeardAt member id instant (after :: before :: earlier)
  | earlier {world : World ι} {past : List (World ι)} (heard : HeardAt member id instant past) :
    HeardAt member id instant (world :: past)

section Histories

variable {first world : World ι} {past : List (World ι)} (run : Run first past world)

include run

theorem Run.fair {timeout : Nat} (fair : Fair timeout first)
    (fit : ∀ moment ∈ world :: past, moment.AgesFit) : Fair timeout world := by
  induction run with
  | start => exact fair
  | step run acts ih =>
    obtain ⟨fits, fit⟩ := List.forall_mem_cons.1 fit
    exact (ih fit).step (step_of_act? acts) (now_le_of_act? acts) fits

/-- Who heard another node remembers the instant, unless it has no room for that. -/
theorem Run.heardSince {i : ι} {id : NodeId} {instant : Int}
    (heard : HeardAt i id instant (world :: past)) (other : id ≠ (first.nodes i).id) :
    instant ≤ world.now ∧ (world.nodes i).state.directory.HeardSince instant id := by
  induction run with
  | start =>
    cases heard with
    | earlier heard => exact nomatch heard
  | step run acts ih =>
    cases heard with
    | @last _ _ _ index datagram found sender now hears =>
      refine ⟨now ▸ now_le_of_act? acts, ?_⟩
      rw [← run.id_eq i] at other
      simp only [act?, found] at hears
      split at hears
      · obtain rfl := Option.some.inj hears
        subst now sender
        rw [← Message.sender_bare] at other ⊢
        simp only [put, Function.update_self]
        exact Node.heardSince_handle datagram.source other
      · simp at hears
    | earlier heard =>
      obtain ⟨le, since⟩ := ih heard
      refine ⟨Int.le_trans le (now_le_of_act? acts), ?_⟩
      cases step_of_act? acts with
      | rest nodes => rwa [nodes]
      | @deed member _ _ _ deed _ nodes =>
        rw [nodes]
        by_cases acting : i = member
        · subst acting
          rw [Function.update_self]
          exact deed.heardSince le since
        · rwa [Function.update_of_ne acting]

end Histories

/-- In a cluster whose nodes share one timeout, a record that is marked dead is older than that.  So
another node on record that a member has heard within the timeout is alive there, and if it is the
one that the member follows, it is not suspected. -/
theorem live_peers_spared {first world : World ι} {past : List (World ι)} {timeout : Nat}
    (created : ∀ i, ∃ config address since, config.primaryTimeout = timeout ∧
      Node.create config address since = .ok (first.nodes i))
    (silent : first.inFlight = []) (unwritten : first.writes = []) (run : Run first past world)
    (fit : ∀ moment ∈ world :: past, moment.AgesFit) (i : ι) :
    ((world.nodes i).state.directory.All fun record =>
      record.isAlive = false → (timeout : Int) < world.now - record.lastHeard) ∧
    ∀ id instant, HeardAt i id instant (world :: past) → world.now - instant ≤ timeout →
      (∀ record, (world.nodes i).state.directory.find? id = some record →
        id ≠ (world.nodes i).id → record.isAlive = true) ∧
      ((world.nodes i).state.isPrimary = false → (world.nodes i).state.primary = some id →
        (world.nodes i).state.directory.contains id = true →
        (world.nodes i).suspectsPrimary world.now = false) := by
  have fair := run.fair (fair_of_created created silent unwritten) fit
  have fairly := fair.nodes i
  refine ⟨fun record mem dead => ?_, fun id instant heard lately => ?_⟩
  · have late := fairly.records record mem dead
    unfold Time.elapsed at late
    omega
  · have lately : world.now ≤ Time.after instant timeout := by
      unfold Time.after
      omega
    have since (other : id ≠ (world.nodes i).id) :
        (world.nodes i).state.directory.HeardSince instant id :=
      (run.heardSince heard (run.id_eq i ▸ other)).2
    refine ⟨fun record found other => ?_, fun backup follows known => ?_⟩
    · have fresh := fairly.isFresh (since other) lately found
      exact (Bool.and_eq_true_iff.1 fresh).1
    · -- a backup never follows itself
      have other : id ≠ (world.nodes i).id := by
        rintro rfl
        exact absurd (fairly.others follows) (Bool.eq_false_iff.1 backup)
      exact fairly.suspectsPrimary_eq_false (since other) lately follows known

/-- The backup hears the primary, and then nothing for exactly as long as the timeout. -/
theorem live_peers_spared_duo :
    ∃ past world, Run duo past world ∧ (∀ moment ∈ world :: past, moment.AgesFit) ∧
      HeardAt 1 1 100 (world :: past) ∧ world.now = 400 ∧
      (world.nodes 1).suspectsPrimary world.now = false := by
  let later (after : World (Fin 2)) : World (Fin 2) := { after with now := Time.after after.now 300 }
  obtain ⟨earlier, before, run, now, flies, goesOn⟩ : ∃ past before, Run duo past before ∧
      before.now = 100 ∧
      (before.inFlight[1]?.any fun datagram => datagram.letter.message.sender == 1) = true ∧
      ((before.act? (.hear 1 1)).any fun after =>
        (∀ moment ∈ later after :: after :: before :: past, moment.AgesFit) ∧
        (later after).now = 400 ∧ ((later after).nodes 1).state.isPrimary = false ∧
        ((later after).nodes 1).state.primary = some 1 ∧
        ((later after).nodes 1).state.directory.contains 1 = true) = true :=
    exists_run [.pass 100, .join 1, .hear 0 0] (by decide)
  obtain ⟨datagram, found, sender⟩ := (Option.any_eq_true _ _).1 flies
  obtain ⟨after, hears, facts⟩ := (Option.any_eq_true _ _).1 goesOn
  obtain ⟨fit, passed, backup, follows, known⟩ := of_decide_eq_true facts
  have passes : after.act? (.pass 300) = some (later after) := rfl
  have run := (run.step hears).step passes
  have heard : HeardAt 1 1 100 (later after :: after :: before :: earlier) :=
    .earlier (.last found (beq_iff_eq.1 sender) now hears)
  have created (i : Fin 2) : ∃ config address since, config.primaryTimeout = 300 ∧
      Node.create config address since = .ok (duo.nodes i) :=
    ⟨duoConfig i, _, 0, by decide +revert, create_boot (by decide +revert)⟩
  have spared := (live_peers_spared created rfl rfl run fit 1).2 1 100 heard (by omega)
  exact ⟨_, _, run, fit, heard, passed, spared.2 backup follows known⟩

end World

end SumCluster
