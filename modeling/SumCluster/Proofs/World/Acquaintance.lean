import SumCluster.Proofs.Node.Integrity
import SumCluster.Proofs.Node.Records
import SumCluster.Proofs.World.Campaign

/-!
# Nodes that know each other

The nodes of a cluster at a fixed instant that know all the others and nobody else, and what they
say to each other during an election: challenges go up, answers and claims go down
(`Campaign.Said`), and a challenge is answered by a node that leads or contends itself
(`Campaign.Arrival`).
-/

namespace SumCluster

namespace Campaign

variable {ι : Type}

section Acquaintance

variable (team : ι → Seat) (now : Int) (i : ι)

/-- The record is that of a member, at the right address, and fresh. -/
def Lists (record : Record) : Prop :=
  ∃ j, record.id = (team j).id ∧ record.address = (team j).address ∧
    record.isFresh now (team i).config.replicaTimeout = true

/-- A node that knows the members and nobody else. -/
structure Acquainted (node : Node) : Prop where
  seat : node.seat = team i
  itself : node.LeadsItself
  knows : ∀ j, node.state.directory.contains (team j).id = true
  records : node.state.directory.All (Lists team now i)

end Acquaintance

section Acquainted

variable {team : ι → Seat} {now : Int} {i : ι} {node : Node}
  (distinct : Function.Injective fun i => (team i).id)

theorem isFresh_now {record : Record} (alive : record.isAlive = true)
    (heard : record.lastHeard = now) (timeout : Nat) : record.isFresh now timeout = true := by
  simp [Record.isFresh, alive, heard, Time.elapsed]

namespace Acquainted

variable (acquainted : Acquainted team now i node)

include acquainted

theorem id_eq : node.id = (team i).id :=
  congrArg Seat.id acquainted.seat

theorem address_eq : node.address = (team i).address :=
  congrArg Seat.address acquainted.seat

/-- Messages of members, unless they are lists, change nothing of it. -/
theorem handle {s : ι} {message : Message} (sender : message.sender = (team s).id)
    (entries : message.entries = []) :
    Acquainted team now i (node.handle now message (team s).address).1 where
  seat := (node.seat_handle now message _).trans acquainted.seat
  itself := Node.leadsItself_handle acquainted.itself now message _
  knows j := (Node.changes_handle node now message _).extends _ (acquainted.knows j)
  records := by
    refine Node.all_handle acquainted.records (fun record same _ => ?_) (fun _ => ?_)
      ⟨fun record same lists => ?_, fun record acked lists => lists, fun record lists => lists,
        fun entry mem => ?_⟩
    · exact ⟨s, same.trans sender, rfl, isFresh_now rfl rfl _⟩
    · exact ⟨s, sender, rfl, isFresh_now rfl rfl _⟩
    · obtain ⟨j, id, address, -⟩ := lists
      exact ⟨j, id, address, isFresh_now rfl rfl _⟩
    · simp [entries] at mem

/-- It knows nobody above the highest member. -/
theorem le_of_contains {top : ι} (highest : ∀ j, (team j).id ≤ (team top).id) {id : NodeId}
    (knows : node.state.directory.contains id = true) : id ≤ (team top).id := by
  obtain ⟨record, found⟩ := Option.isSome_iff_exists.1 knows
  obtain ⟨j, id_eq, -⟩ := acquainted.records.of_find? found
  rw [← Directory.id_of_find? found, id_eq]
  exact highest j

theorem mem_rivals {peer : Peer} (mem : peer ∈ node.rivals now) :
    ∃ j, peer.address = (team j).address ∧ (team i).id < (team j).id := by
  obtain ⟨record, record_mem, rfl, higher⟩ := Node.record_of_mem_rivals mem
  obtain ⟨j, id, address, -⟩ := acquainted.records record record_mem
  refine ⟨j, address, ?_⟩
  rwa [acquainted.id_eq, id] at higher

include distinct

theorem find? (j : ι) : ∃ record, node.state.directory.find? (team j).id = some record ∧
    record.address = (team j).address ∧
    record.isFresh now (team i).config.replicaTimeout = true := by
  obtain ⟨record, found⟩ := Option.isSome_iff_exists.1 (acquainted.knows j)
  obtain ⟨k, id, address, fresh⟩ := acquainted.records.of_find? found
  have same : k = j := distinct (id.symm.trans (Directory.id_of_find? found))
  subst same
  exact ⟨record, found, address, fresh⟩

/-- Every higher member is challenged. -/
theorem exists_rival {j : ι} (higher : (team i).id < (team j).id) :
    ∃ peer ∈ node.rivals now, peer.address = (team j).address := by
  obtain ⟨record, found, address, fresh⟩ := acquainted.find? distinct j
  rw [Node.rivals, Directory.freshHigher_eq]
  refine ⟨record.peer, List.mem_map.2 ⟨record, List.mem_filter.2 ⟨?_, ?_⟩, rfl⟩, address⟩
  · exact Directory.mem_of_find? found
  · have config : node.config = (team i).config := congrArg Seat.config acquainted.seat
    rw [config, acquainted.id_eq, Directory.id_of_find? found, fresh, Bool.and_true]
    exact decide_eq_true higher

omit distinct in
theorem mem_others {peer : Peer} (mem : peer ∈ node.others) :
    ∃ j, j ≠ i ∧ peer.address = (team j).address := by
  obtain ⟨record, record_mem, rfl, other⟩ := Node.record_of_mem_others mem
  obtain ⟨j, id, address, -⟩ := acquainted.records record record_mem
  refine ⟨j, ?_, address⟩
  rintro rfl
  exact other (id.trans acquainted.id_eq.symm)

end Acquainted

end Acquainted

theorem below_of_ne_top {team : ι → Seat} {top j : ι}
    (distinct : Function.Injective fun i => (team i).id)
    (highest : ∀ i, (team i).id ≤ (team top).id) (lower : j ≠ top) :
    (team j).id < (team top).id :=
  UInt32.lt_of_le_of_ne (highest j) fun same => lower (distinct same)

/-! ## What is said in an election -/

/-- What a member may say to another one during an election. -/
inductive Said (team : ι → Seat) (s r : ι) : Message → Prop
  | challenge (timestamp : UInt64) (up : (team s).id < (team r).id) :
    Said team s r (.startElection (team s).id timestamp)
  | answer (timestamp : UInt64) (down : (team r).id < (team s).id) :
    Said team s r (.electionResponse (team s).id timestamp)
  | claim (sum : Int64) (seqn : Seqn) (timestamp : UInt64) (down : (team r).id < (team s).id) :
    Said team s r (.victory (team s).id sum seqn timestamp)
  | ack (sum : Int64) (seqn : Seqn) : Said team s r (.victoryAck (team s).id sum seqn)

section Said

variable {team : ι → Seat} {s r : ι} {message : Message} (said : Said team s r message)

include said

theorem Said.bare : message.bare = message := by
  cases said <;> rfl

theorem Said.sender : message.sender = (team s).id := by
  cases said <;> rfl

theorem Said.entries : message.entries = [] := by
  cases said <;> rfl

end Said

/-- What a member does when it hears another one. -/
structure Arrival (team : ι → Seat) (s r : ι) (message : Message) (node next : Node)
    (effects : Effects) : Prop where
  sent : ∀ letter ∈ effects.letters,
    letter.destination = (team s).address ∧ Said team r s letter.message
  /-- A challenge is answered, by a node that leads or will contend. -/
  answers : ∀ timestamp, message = .startElection (team s).id timestamp →
    ∃ timestamp', ⟨(team s).address, .electionResponse (team r).id timestamp'⟩ ∈ effects.letters
  willing : ∀ letter ∈ effects.letters, letter.message.kind = .electionResponse →
    next.state.isPrimary = true ∨ effects.elects = true
  /-- An answer ends an election. -/
  answered : message.kind = .electionResponse → next.state.election.isElecting = false

section Arrival

variable {team : ι → Seat} {now : Int} {s r : ι} {message : Message} {node next : Node}
  {effects : Effects} (acquainted : Acquainted team now r node)

include acquainted

/-- A challenge is answered; a node that leads adds its claim, and another one contends. -/
theorem arrival_of_challenge {timestamp : UInt64} (up : (team s).id < (team r).id)
    (handled : node.handle now (.startElection (team s).id timestamp) (team s).address =
      (next, effects)) :
    Arrival team s r (.startElection (team s).id timestamp) node next effects := by
  have id := acquainted.id_eq
  have higher : (team s).id < node.id := id ▸ up
  have stands := node.stands_handle now (.startElection (team s).id timestamp) (team s).address
  rw [handled] at stands
  have leads : next.state.isPrimary = node.state.isPrimary := by
    cases stands with
    | kept _ leads => exact leads
    | ended _ outranked => exact absurd outranked (UInt32.not_lt.2 (UInt32.le_of_lt higher))
  have answer : Said team r s (node.electionResponse now) := by
    unfold Node.electionResponse
    rw [id]
    exact .answer _ up
  have claim : Said team r s (node.victory now) := by
    unfold Node.victory
    rw [id]
    exact .claim _ _ _ up
  obtain rfl := Node.handle_challenge higher (acquainted.knows s) handled
  by_cases led : node.state.isPrimary = true
  · rw [if_pos led]
    refine ⟨?_, fun _ _ => ⟨Time.stamp now, ?_⟩, fun _ _ _ => .inl (leads.trans led), nofun⟩
    · intro letter mem
      simp only [Effects.letters, List.cons_append, List.nil_append, List.mem_cons,
        List.not_mem_nil, or_false] at mem
      rcases mem with rfl | rfl
      · exact ⟨rfl, claim⟩
      · exact ⟨rfl, answer⟩
    · simp [Effects.letters, Node.electionResponse, id]
  · rw [if_neg led]
    refine ⟨?_, fun _ _ => ⟨Time.stamp now, ?_⟩, fun _ _ _ => .inr rfl, nofun⟩
    · intro letter mem
      obtain rfl := List.mem_singleton.1 mem
      exact ⟨rfl, answer⟩
    · simp [Effects.letters, Node.electionResponse, id]

/-- A claim of a higher member is acknowledged. -/
theorem arrival_of_claim {sum : Int64} {seqn : Seqn} {timestamp : UInt64}
    (down : (team r).id < (team s).id)
    (handled : node.handle now (.victory (team s).id sum seqn timestamp) (team s).address =
      (next, effects)) :
    Arrival team s r (.victory (team s).id sum seqn timestamp) node next effects := by
  have seat := node.seat_handle now (.victory (team s).id sum seqn timestamp) (team s).address
  rw [handled] at seat
  have next_id : next.id = (team r).id := (congrArg Seat.id seat).trans acquainted.id_eq
  obtain ⟨-, -, rfl⟩ := Node.handle_victory (acquainted.id_eq ▸ down) (acquainted.knows s) handled
  refine ⟨?_, nofun, ?_, nofun⟩
  · intro letter mem
    obtain rfl := List.mem_singleton.1 mem
    refine ⟨rfl, ?_⟩
    unfold Node.victoryAck
    rw [next_id]
    exact .ack _ _
  · intro letter mem kind
    obtain rfl := List.mem_singleton.1 mem
    exact nomatch kind

theorem arrival_of_said (distinct : Function.Injective fun i => (team i).id) (ne : s ≠ r)
    (said : Said team s r message)
    (handled : node.handle now message (team s).address = (next, effects)) :
    Arrival team s r message node next effects := by
  have other : (team s).id ≠ node.id := by
    rw [acquainted.id_eq]
    exact fun same => ne (distinct same)
  cases said with
  | challenge timestamp up => exact arrival_of_challenge acquainted up handled
  | answer timestamp down =>
    have higher : node.id < (Message.electionResponse (team s).id timestamp).sender :=
      acquainted.id_eq ▸ down
    have idle := Node.idle_of_response rfl higher now (team s).address
    rw [handled] at idle
    obtain ⟨-, rfl⟩ := Node.handle_response handled
    exact ⟨nofun, nofun, nofun, fun _ => idle⟩
  | claim sum seqn timestamp down => exact arrival_of_claim acquainted down handled
  | ack sum seqn =>
    obtain ⟨-, -, rfl⟩ := Node.handle_victoryAck other handled
    exact ⟨nofun, nofun, nofun, nofun⟩

end Arrival

end Campaign

end SumCluster
