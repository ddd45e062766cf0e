import SumCluster.Proofs.World.Race

/-!
# The highest node wins

When the race for the lead is over, the highest node leads.  Others that led before may still do,
but a heartbeat of the highest node makes each other node fall in behind it, for nobody knows a
higher one (`Campaign.Rallying`).  So it is the only one that leads, and all follow it
(`Campaign.highest_id_wins`).
-/

namespace SumCluster

namespace Campaign

variable {ι : Type}

section Rallying

variable (team : ι → Seat) (top : ι) (campaign : Campaign ι)

/-- What is on its way when the highest member is heard: its heartbeats and what they are answered
with. -/
inductive Hails : Datagram → Prop
  | heartbeat {j : ι} (other : j ≠ top) (sum : Int64) (seqn : Seqn) (timestamp : UInt64) :
    Hails (datagram team top j (.heartbeat (team top).id sum seqn timestamp))
  | victoryAck {j : ι} (other : j ≠ top) (sum : Int64) (seqn : Seqn) :
    Hails (datagram team j top (.victoryAck (team j).id sum seqn))
  | stateAck {j : ι} (other : j ≠ top) (seqn : Seqn) :
    Hails (datagram team j top (.stateAck (team j).id seqn))

/-- A heartbeat of the highest member to another one is on its way. -/
def Heartens (j : ι) : Prop :=
  ∃ sum seqn timestamp,
    datagram team top j (.heartbeat (team top).id sum seqn timestamp) ∈ campaign.inFlight

/-- What holds while the highest member is heard. -/
structure Rallying : Prop where
  acquainted : ∀ i, Acquainted team campaign.now i (campaign.nodes i)
  flying : ∀ d ∈ campaign.inFlight, Hails team top d
  idle : campaign.calls = []
  leads : (campaign.nodes top).state.isPrimary = true
  follows : ∀ j, j ≠ top → Heartens team top campaign j ∨
    (campaign.nodes j).state.isPrimary = false ∧
      (campaign.nodes j).state.primary = some (team top).id

end Rallying

section Hearing

variable [DecidableEq ι] {team : ι → Seat} {top j : ι} {campaign : Campaign ι} {next : Node}
  {effects : Effects} {sent : List Datagram} (rallying : Rallying team top campaign)
  (distinct : Function.Injective fun i => (team i).id)
  (addresses : Function.Injective fun i => (team i).address)
  (other : j ≠ top)

include other

omit [DecidableEq ι] in
/-- The highest member is answered with an acknowledgement. -/
theorem hails_of_acknowledge {now : Int} (hearer : Acquainted team now j next) {seqn : Seqn}
    {letter : Letter} (mem : letter ∈ (next.acknowledge (team top).address seqn).letters) :
    Hails team top ⟨next.address, letter⟩ := by
  unfold Node.acknowledge at mem
  rw [hearer.address_eq]
  split at mem
  · obtain rfl := List.mem_singleton.1 mem
    unfold Node.victoryAck
    rw [hearer.id_eq]
    exact .victoryAck other _ _
  · obtain rfl := List.mem_singleton.1 mem
    unfold Node.stateAck
    rw [hearer.id_eq]
    exact .stateAck other _

include rallying distinct addresses

/-- A heartbeat of the highest member arrives. -/
theorem rallying_heartbeat (highest : ∀ i, (team i).id ≤ (team top).id) {sum : Int64} {seqn : Seqn}
    {timestamp : UInt64}
    (handled : (campaign.nodes j).handle campaign.now
      (.heartbeat (team top).id sum seqn timestamp) (team top).address = (next, effects))
    (copies : Copies next.address effects.letters sent) :
    Rallying team top (campaign.received j
      (datagram team top j (.heartbeat (team top).id sum seqn timestamp)) next effects sent) := by
  have acquainted := rallying.acquainted j
  have hearer : Acquainted team campaign.now j next := by
    have sender : (Message.heartbeat (team top).id sum seqn timestamp).sender = (team top).id := rfl
    have handles := acquainted.handle sender rfl
    rwa [handled] at handles
  have lower : (team top).id ≠ (campaign.nodes j).id := by
    rw [acquainted.id_eq]
    exact fun same => other (distinct same).symm
  obtain ⟨yields, rfl⟩ := Node.handle_heartbeat_of_highest lower (acquainted.knows top)
    (fun id known => acquainted.le_of_contains highest known) (acquainted.id_eq ▸ highest j)
    handled
  have quiet : (next.acknowledge (team top).address seqn).elects = false := by
    unfold Node.acknowledge
    split <;> rfl
  refine ⟨forall_put campaign rallying.acquainted hearer, ?_, ?_, ?_, ?_⟩
  · intro d mem
    rcases List.mem_append.1 mem with old | new
    · exact rallying.flying d (List.mem_of_mem_erase old)
    · obtain ⟨letter, letter_mem, rfl⟩ := (copies d).1 new
      exact hails_of_acknowledge other hearer letter_mem
  · simp [received, put, rallying.idle, quiet]
  · unfold received
    rw [nodes_put_of_ne _ other.symm]
    exact rallying.leads
  · intro k lower
    unfold received
    by_cases acting : k = j
    · subst acting
      rw [nodes_put_self]
      exact .inr ⟨yields.follows, yields.primary⟩
    · rw [nodes_put_of_ne _ acting]
      rcases rallying.follows k lower with ⟨sum, seqn, timestamp, flies⟩ | follows
      · refine .inl ⟨sum, seqn, timestamp, mem_received flies fun same => ?_⟩
        exact acting (datagram_inj addresses same).2.1
      · exact .inr follows

omit distinct other in
/-- An acknowledgement arrives at the highest member. -/
theorem rallying_ack {message : Message} (sender : message.sender = (team j).id)
    (entries : message.entries = []) (kind : message.kind ≠ .heartbeat)
    (handled : (campaign.nodes top).handle campaign.now message (team j).address =
      (next, effects))
    (keeps : (campaign.nodes top).Keeps next) (silent : effects = .none)
    (copies : Copies next.address effects.letters sent) :
    Rallying team top (campaign.received top (datagram team j top message) next effects sent) := by
  have hearer : Acquainted team campaign.now top next := by
    have handles := (rallying.acquainted top).handle sender entries
    rwa [handled] at handles
  subst silent
  refine ⟨forall_put campaign rallying.acquainted hearer, ?_, ?_, ?_, ?_⟩
  · intro d mem
    rcases List.mem_append.1 mem with old | new
    · exact rallying.flying d (List.mem_of_mem_erase old)
    · obtain ⟨letter, letter_mem, rfl⟩ := (copies d).1 new
      simp [Effects.letters, Effects.none] at letter_mem
  · simp [received, put, rallying.idle, Effects.none]
  · unfold received
    rw [nodes_put_self, keeps.leads]
    exact rallying.leads
  · intro k lower
    unfold received
    rw [nodes_put_of_ne _ lower]
    rcases rallying.follows k lower with ⟨sum, seqn, timestamp, flies⟩ | follows
    · refine .inl ⟨sum, seqn, timestamp, mem_received flies fun same => kind ?_⟩
      rw [← (datagram_inj addresses same).2.2]
      rfl
    · exact .inr follows

end Hearing

section Rally

variable [DecidableEq ι] {team : ι → Seat} {top : ι} {campaign next : Campaign ι}
  (distinct : Function.Injective fun i => (team i).id)
  (addresses : Function.Injective fun i => (team i).address)
  (highest : ∀ i, (team i).id ≤ (team top).id)

include distinct addresses highest

theorem rallying_step (rallying : Rallying team top campaign) (step : Step campaign next) :
    Rallying team top next := by
  cases step with
  | @deliver member d sent node effects flies reaches handled copies =>
    rw [(rallying.acquainted member).address_eq] at reaches
    have ids : ∀ {j : ι}, j ≠ top → (team j).id ≠ (campaign.nodes top).id := by
      intro j other
      rw [(rallying.acquainted top).id_eq]
      exact fun same => other (distinct same)
    cases rallying.flying d flies with
    | @heartbeat j other sum seqn timestamp =>
      obtain rfl : j = member := addresses reaches
      exact rallying_heartbeat rallying distinct addresses other highest handled copies
    | @victoryAck j other sum seqn =>
      obtain rfl : top = member := addresses reaches
      obtain ⟨keeps, -, silent⟩ := Node.handle_victoryAck (ids other) handled
      exact rallying_ack rallying addresses rfl rfl nofun handled keeps silent copies
    | @stateAck j other seqn =>
      obtain rfl : top = member := addresses reaches
      obtain ⟨keeps, silent⟩ := Node.handle_stateAck (ids other) handled
      exact rallying_ack rallying addresses rfl rfl nofun handled keeps silent copies
  | advance called =>
    simp [rallying.idle] at called

theorem rallying_run (rallying : Rallying team top campaign) (run : Run campaign next) :
    Rallying team top next := by
  induction run with
  | refl => exact rallying
  | tail _ step ih => exact rallying_step distinct addresses highest ih step

end Rally

/-! ## The whole election -/

/-- A cluster whose nodes know each other, and nobody else, and have just been called for elections
or not. -/
structure Ready (first : Campaign ι) : Prop where
  distinct_ids : Function.Injective fun i => (first.nodes i).id
  distinct_addresses : Function.Injective fun i => (first.nodes i).address
  itself : ∀ i, (first.nodes i).LeadsItself
  idle : ∀ i, (first.nodes i).state.election = .idle
  knows : ∀ i j, (first.nodes i).state.directory.contains (first.nodes j).id = true
  records : ∀ i, ∀ record ∈ (first.nodes i).state.directory.records,
    ∃ j, record.id = (first.nodes j).id ∧ record.address = (first.nodes j).address ∧
      record.isFresh first.now (first.nodes i).config.replicaTimeout = true
  silent : first.inFlight = []
  opening : ∀ call ∈ first.calls, call.2 = .opening

theorem Ready.racing {first : Campaign ι} {top : ι} (ready : first.Ready)
    (someone : ∃ i, (i, .opening) ∈ first.calls ∧ (first.nodes i).state.isPrimary = false) :
    Racing (fun i => (first.nodes i).seat) top first where
  acquainted i := ⟨rfl, ready.itself i, ready.knows i, ready.records i⟩
  flying := by simp [ready.silent]
  prompt call mem := .inl (ready.opening call mem)
  contended := by simp [ready.idle, Election.isElecting]
  claims := by simp [ready.idle, Election.isElecting]
  claimed mem := nomatch ready.opening _ mem
  answered := by
    rintro i ⟨timestamp, mem⟩
    simp [ready.silent] at mem
  due := .inr (.inr someone)

/-- Several nodes that know each other are called for elections, one of them that does not lead
among them, and everything that comes of it happens, in any order.  When nothing is left to happen,
the highest node leads and no election runs.  And when one heartbeat of it to each other node has
been handled, with all that comes of it, it is the only one that leads, and all follow it. -/
theorem highest_id_wins [DecidableEq ι] {first settled : Campaign ι} {top : ι} (ready : first.Ready)
    (highest : ∀ i, (first.nodes i).id ≤ (first.nodes top).id)
    (someone : ∃ i, (i, .opening) ∈ first.calls ∧ (first.nodes i).state.isPrimary = false)
    (run : first.Run settled) (quiet : settled.IsQuiet) :
    (settled.nodes top).state.isPrimary = true ∧
    (∀ i, (settled.nodes i).state.election.isElecting = false) ∧
    ∀ sent last, (∀ d, d ∈ sent ↔ ∃ j, j ≠ top ∧ d = ⟨(settled.nodes top).address,
        ⟨(settled.nodes j).address, (settled.nodes top).heartbeat settled.now⟩⟩) →
      Run { settled with inFlight := sent } last → last.IsQuiet →
      ∀ i, ((last.nodes i).state.isPrimary = true ↔ i = top) ∧
        (last.nodes i).state.primary = some (first.nodes top).id := by
  have racing := racing_run ready.distinct_ids ready.distinct_addresses highest
    (ready.racing someone) run
  obtain ⟨leads, idle⟩ := racing.leads_of_isQuiet quiet
  refine ⟨leads, idle, fun sent last heartbeats run last_quiet => ?_⟩
  have sends : ∀ d, d ∈ sent ↔ ∃ j, j ≠ top ∧ d = datagram (fun i => (first.nodes i).seat) top j
      (.heartbeat (first.nodes top).id (settled.nodes top).state.sum
        (settled.nodes top).state.seqn (Time.stamp settled.now)) := by
    intro d
    rw [heartbeats]
    refine exists_congr fun j => and_congr_right fun _ => ?_
    unfold Node.heartbeat
    rw [(racing.acquainted top).address_eq, (racing.acquainted j).address_eq,
      (racing.acquainted top).id_eq]
    rfl
  have rallying : Rallying (fun i => (first.nodes i).seat) top
      { settled with inFlight := sent } := by
    refine ⟨racing.acquainted, fun d mem => ?_, quiet.2, leads, fun j other =>
      .inl ⟨_, _, _, (sends _).2 ⟨j, other, rfl⟩⟩⟩
    obtain ⟨j, other, rfl⟩ := (sends d).1 mem
    exact .heartbeat other _ _ _
  have rallied := rallying_run ready.distinct_ids ready.distinct_addresses highest rallying run
  intro i
  by_cases first_i : i = top
  · subst first_i
    refine ⟨⟨fun _ => rfl, fun _ => rallied.leads⟩, ?_⟩
    rw [(rallied.acquainted i).itself rallied.leads, (rallied.acquainted i).id_eq]
    rfl
  · rcases rallied.follows i first_i with ⟨_, _, _, flies⟩ | ⟨follows, primary⟩
    · simp [last_quiet.1] at flies
    · exact ⟨⟨fun leads => absurd leads (by simp [follows]), fun same => absurd same first_i⟩,
        primary⟩

/-! ## Two backups -/

/-- The backups with the identifiers 1 and 2, which know each other. -/
def peerConfig (isHigher : Bool) : Config :=
  if isHigher then Config.ofBackup 2 (.v4 ⟨10, 0, 0, 2⟩ 1) ⟨1, .v4 ⟨10, 0, 0, 1⟩ 1⟩
  else Config.ofBackup 1 (.v4 ⟨10, 0, 0, 1⟩ 1) ⟨2, .v4 ⟨10, 0, 0, 2⟩ 1⟩

/-- The lower one is called for an election. -/
def pair : Campaign Bool where
  now := 0
  nodes := (World.boot peerConfig 0).nodes
  inFlight := []
  calls := [(false, .opening)]

theorem pair_ready : pair.Ready where
  distinct_ids := by unfold Function.Injective; decide
  distinct_addresses := by unfold Function.Injective; decide
  itself := by unfold Node.LeadsItself; decide
  idle := by decide
  knows := by decide
  records := by decide
  silent := rfl
  opening := by decide

/-- What the lower one sends to the higher one, or the other way round. -/
def pairDatagram (fromHigher : Bool) (message : Message) : Datagram :=
  datagram (fun i => (pair.nodes i).seat) fromHigher (!fromHigher) message

/-- The higher one has answered, and has taken the lead. -/
def pairSettled : Campaign Bool :=
  ((((((pair.goOn false .opening).tell true (pairDatagram false (.startElection 1 0))).tell
    false (pairDatagram true (.electionResponse 2 0))).goOn true .opening).goOn true .claiming).tell
    false (pairDatagram true (.victory 2 0 0 0))).tell true (pairDatagram false (.victoryAck 1 0 0))

theorem pair_run : pair.Run pairSettled :=
  (((((((Run.refl pair).goOn (by decide)).tell (by decide) (by decide)).tell (by decide)
    (by decide)).goOn (by decide)).goOn (by decide)).tell (by decide) (by decide)).tell (by decide)
    (by decide)

/-- The heartbeat of the higher one is on its way. -/
def pairHailed : Campaign Bool :=
  { pairSettled with inFlight := [pairDatagram true (.heartbeat 2 0 0 0)] }

/-- The lower one has followed it. -/
def pairRallied : Campaign Bool :=
  (pairHailed.tell false (pairDatagram true (.heartbeat 2 0 0 0))).tell true
    (pairDatagram false (.stateAck 1 0))

theorem pairHailed_run : pairHailed.Run pairRallied :=
  ((Run.refl pairHailed).tell (by decide) (by decide)).tell (by decide) (by decide)

/-- The lower backup challenges the higher one, which takes the lead and is followed. -/
theorem highest_id_wins_pair :
    (pairSettled.nodes true).state.isPrimary = true ∧
      (∀ i, (pairSettled.nodes i).state.election.isElecting = false) ∧
      ∀ i, ((pairRallied.nodes i).state.isPrimary = true ↔ i = true) ∧
        (pairRallied.nodes i).state.primary = some 2 := by
  have highest : ∀ i, (pair.nodes i).id ≤ (pair.nodes true).id := by decide
  obtain ⟨leads, idle, rallies⟩ := highest_id_wins pair_ready highest ⟨false, by decide, by decide⟩
    pair_run ⟨by decide, by decide⟩
  refine ⟨leads, idle, rallies _ pairRallied (fun d => ?_) pairHailed_run
    ⟨by decide, by decide⟩⟩
  rw [List.mem_singleton]
  refine ⟨fun same => ⟨false, nofun, same⟩, fun ⟨j, lower, same⟩ => ?_⟩
  rw [Bool.eq_false_iff.2 lower] at same
  exact same

end Campaign

end SumCluster
