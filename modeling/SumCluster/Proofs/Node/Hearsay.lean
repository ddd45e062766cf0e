import SumCluster.Proofs.Node.Coherence
import SumCluster.Proofs.Node.Primary
import SumCluster.Proofs.Node.Replies
import SumCluster.Proofs.Node.Unease

/-!
# Hearsay

What a node believes of the others it has heard itself or been told by a list.  It takes nobody for
dead of whom something was heard within its timeout, as long as nobody tells it otherwise
(`Record.IsFair`, `Node.Deed.fair`), and it tells no more than it believes (`Node.Deed.entries`).
Once it has heard a node itself, its record never goes back behind that
(`Node.heardSince_handle`, `Node.Deed.heardSince`).
-/

namespace SumCluster

/-! ## Fair records -/

/-- A node is on record as dead only if nothing was heard of it for longer than a timeout. -/
def Record.IsFair (timeout : Nat) (now : Int) (record : Record) : Prop :=
  record.isAlive = false → timeout < Time.elapsed record.lastHeard now

/-- An entry says so of a node only with an age beyond the timeout. -/
def PeerEntry.IsFair (timeout : Nat) (entry : PeerEntry) : Prop :=
  entry.isAlive = false → timeout < entry.age.toNat

namespace Record

variable {timeout : Nat} {now now' : Int} {record : Record}

theorem IsFair.later (fair : record.IsFair timeout now) (passed : now ≤ now') :
    record.IsFair timeout now' := by
  intro dead
  have silent := fair dead
  unfold Time.elapsed at silent ⊢
  omega

theorem isFair_of_alive (alive : record.isAlive = true) : record.IsFair timeout now :=
  fun dead => nomatch alive.symm.trans dead

/-- What is told of a fair record is fair, if the age fits into the word for it. -/
theorem IsFair.entry (fair : record.IsFair timeout now)
    (fits : Time.elapsed record.lastHeard now < UInt64.size) :
    (record.entry now).IsFair timeout := by
  intro dead
  have age : (record.entry now).age.toNat = Time.elapsed record.lastHeard now :=
    UInt64.toNat_ofNat_of_lt' fits
  exact age ▸ fair dead

end Record

namespace Directory

variable {directory directory' : Directory} {P : Record → Prop} {id : NodeId} {now : Int}

theorem all_expire {self : NodeId} {timeout : Nat} (all : directory.All P)
    (silent : ∀ record, timeout < Time.elapsed record.lastHeard now → P record →
      P { record with isAlive := false }) : (directory.expire self now timeout).All P := by
  intro record mem
  obtain ⟨before, before_mem, rfl⟩ := List.mem_map.1 mem
  have holds := all before before_mem
  by_cases overdue : isOverdue self now timeout before = true
  · simp only [overdue, if_true]
    have late : timeout < Time.elapsed before.lastHeard now := by
      simp only [isOverdue, Bool.and_eq_true, decide_eq_true_eq] at overdue
      exact overdue.2
    exact silent before late holds
  · simp only [overdue]
    exact holds

/-- A fair entry is told of a fair record. -/
theorem tells_of_isFair {timeout : Nat} {isNew : Prop} {entry : PeerEntry}
    (fair : entry.IsFair timeout) : Tells (Record.IsFair timeout now) now isNew entry := by
  have silent : timeout < entry.age.toNat → timeout < Time.elapsed (heardAt entry now) now := by
    unfold Time.elapsed heardAt
    omega
  exact ⟨fun _ _ _ _ dead => silent (fair dead), fun _ dead => silent (fair dead)⟩

/-! ## Nodes without a record and without room -/

/-- A node has no record, and there is no room for one. -/
def Excludes (directory : Directory) (id : NodeId) : Prop :=
  directory.isFull = true ∧ directory.contains id = false

theorem Excludes.mapRecords (excludes : directory.Excludes id) (change : Record → Record) :
    (directory.mapRecords change).Excludes id := by
  have full : (directory.mapRecords change).isFull = directory.isFull := by
    unfold isFull size Directory.mapRecords
    rw [List.length_map]
  exact ⟨full.trans excludes.1, (contains_mapRecords directory change id).trans excludes.2⟩

theorem Learning.excludes (learning : directory.Learning directory')
    (excludes : directory.Excludes id) : directory'.Excludes id := by
  cases learning with
  | change => exact excludes.mapRecords _
  | insert _ room =>
    have full : directory.capacity ≤ directory.records.length := of_decide_eq_true excludes.1
    omega

theorem Learns.excludes (learns : directory.Learns directory')
    (excludes : directory.Excludes id) : directory'.Excludes id := by
  induction learns with
  | refl => exact excludes
  | tail _ learning ih => exact learning.excludes ih

theorem Excludes.all (excludes : directory.Excludes id) :
    directory.All fun record => record.id = id → P record := by
  rintro record mem rfl
  have known : directory.contains record.id = true :=
    Option.isSome_iff_exists.2 ⟨record, find?_of_mem mem⟩
  exact absurd known (Bool.eq_false_iff.1 excludes.2)

/-! ## Heard since -/

/-- Whatever is on record of a node is not older than an instant; without a record there is no room
for an older one either. -/
def HeardSince (directory : Directory) (since : Int) (id : NodeId) : Prop :=
  (directory.All fun record => record.id = id → since ≤ record.lastHeard) ∧
    (directory.contains id = true ∨ directory.Excludes id)

theorem Excludes.heardSince (excludes : directory.Excludes id) (since : Int) :
    directory.HeardSince since id :=
  ⟨excludes.all, .inr excludes⟩

theorem HasMet.heardSince (met : directory.HasMet now id) : directory.HeardSince now id :=
  ⟨fun record mem same => (met.all record mem same).2, .inl met.contains⟩

end Directory

namespace Node

/-! ## Deeds and the directory -/

section Deeds

variable {node next : Node} {now : Int} {cause : Cause} {letters : List Letter}

/-- The directory changes when something is heard, and when the silent ones are marked dead. -/
theorem Deed.directory_cases (deed : node.Deed now cause next letters) :
    (∃ message source, cause = .heard message ∧ next = (node.handle now message source).1) ∨
      next.state.directory = node.state.directory ∨
      cause = .own ∧ next.state.directory =
        node.state.directory.expire node.id now node.config.primaryTimeout := by
  cases deed with
  | hear message source => exact .inl ⟨message, source, rfl, rfl⟩
  | drop | giveUp | join | discover => exact .inr (.inl rfl)
  | beat tick =>
    unfold Node.beat
    split
    · exact .inr (.inl rfl)
    · exact .inr (.inr ⟨rfl, rfl⟩)
  | contend opens =>
    obtain ⟨-, -, rfl⟩ := of_openElection? opens
    exact .inr (.inl rfl)
  | claim claims =>
    obtain ⟨-, rfl, -⟩ := of_claimVictory? claims
    exact .inr (.inl rfl)
  | write starts =>
    obtain ⟨-, -, applied⟩ := applied_of_startWrite starts
    obtain ⟨rfl, -⟩ := Prod.mk.inj applied
    exact .inr (.inl rfl)
  | look seqn deadline =>
    unfold pollAcks
    simp only
    split
    · exact .inr (.inl rfl)
    · split <;> exact .inr (.inl rfl)

/-- A predicate on all records is kept by a deed, if it is kept when something is heard and when a
silent node is marked dead. -/
theorem Deed.all {P : Record → Prop} (deed : node.Deed now cause next letters)
    (all : node.state.directory.All P)
    (hears : ∀ message source, cause = .heard message →
      (node.handle now message source).1.state.directory.All P)
    (silent : ∀ record, node.config.primaryTimeout < Time.elapsed record.lastHeard now →
      P record → P { record with isAlive := false }) : next.state.directory.All P := by
  rcases deed.directory_cases with ⟨message, source, heard, rfl⟩ | same | ⟨-, expires⟩
  · exact hears message source heard
  · exact same ▸ all
  · exact expires ▸ Directory.all_expire all silent

theorem message_of_mem_toEach {message : Message} {peers : List Peer} {letter : Letter}
    (mem : letter ∈ message.toEach peers) : letter.message = message := by
  obtain ⟨peer, -, rfl⟩ := List.mem_map.1 mem
  rfl

/-- A node sends no list but its own, and that only when it hears a request to join. -/
theorem Deed.listed (deed : node.Deed now cause next letters) {letter : Letter}
    (sent : letter ∈ letters) (list : letter.message.kind = .replicaList) :
    letter.message = next.replicaList now ∧
      ∃ joiner timestamp, cause = .heard (.joinRequest joiner timestamp) := by
  cases deed with
  | hear message source =>
    cases handled : node.handle now message source with
    | mk next effects =>
      rw [handled] at sent
      by_cases own : message.sender = node.id
      · obtain rfl := (handle_of_own handled own).2
        exact nomatch sent
      · obtain ⟨kind, same⟩ := (replies_handle handled own letter sent).listed list
        cases message with
        | joinRequest joiner timestamp => exact ⟨same, joiner, timestamp, rfl⟩
        | _ => exact nomatch kind
  | drop | giveUp | look => exact nomatch sent
  | beat tick =>
    unfold Node.beat at sent
    split at sent
    · exact nomatch sent
    · rw [message_of_mem_toEach sent] at list
      exact nomatch list
  | contend opens =>
    rw [message_of_mem_toEach sent] at list
    exact nomatch list
  | claim claims =>
    obtain ⟨-, -, rfl⟩ := of_claimVictory? claims
    rw [message_of_mem_toEach sent] at list
    exact nomatch list
  | join | discover =>
    obtain rfl := List.mem_singleton.1 sent
    exact nomatch list
  | write starts =>
    obtain ⟨-, -, applied⟩ := applied_of_startWrite starts
    rw [congrArg AppliedWrite.letters (Prod.mk.inj applied).2] at sent
    rw [message_of_mem_toEach sent] at list
    exact nomatch list

/-- Whatever entries a node sends are those of its directory. -/
theorem Deed.entries (deed : node.Deed now cause next letters) {letter : Letter}
    (sent : letter ∈ letters) {entry : PeerEntry} (mem : entry ∈ letter.message.entries) :
    ∃ record ∈ next.state.directory.records, entry = record.entry now := by
  rw [(deed.listed sent (Message.kind_of_mem_entries mem)).1] at mem
  exact exists_record_of_mem_replicaList mem

end Deeds

/-! ## Fairness -/

/-- The node has a given timeout, follows nobody but others, and takes nobody for dead of whom
something was heard within the timeout. -/
structure IsFair (timeout : Nat) (now : Int) (node : Node) : Prop where
  shares : node.config.primaryTimeout = timeout
  others : node.FollowsOthers
  records : node.state.directory.All (Record.IsFair timeout now)

section Fairness

variable {node next : Node} {now since : Int} {timeout : Nat} {cause : Cause}
  {letters : List Letter}

theorem IsFair.later {now' : Int} (fair : node.IsFair timeout now) (passed : now ≤ now') :
    node.IsFair timeout now' :=
  ⟨fair.shares, fair.others, fun record mem => (fair.records record mem).later passed⟩

theorem alive_registerAll {peers : List Peer} {directory directory' : Directory}
    (alive : directory.All fun record => record.isAlive = true)
    (registered : registerAll peers directory now = .ok directory') :
    directory'.All fun record => record.isAlive = true := by
  induction peers generalizing directory with
  | nil =>
    obtain rfl := Except.ok.inj registered
    exact alive
  | cons peer rest ih =>
    obtain ⟨middle, first, others⟩ := registerAll_cons registered
    exact ih (Directory.all_register alive (fun _ _ _ => rfl) (fun _ => rfl) first) others

/-- A created node takes nobody for dead. -/
theorem isFair_of_create {config : Config} {address : Address}
    (created : create config address since = .ok node) :
    node.IsFair config.primaryTimeout now := by
  have others := followsOthers_of_create created
  obtain ⟨directory, rfl, registered⟩ := of_create created
  have empty : (Directory.empty config.maxReplicas).All fun record => record.isAlive = true :=
    fun _ mem => nomatch mem
  have alive := alive_registerAll empty registered
  exact ⟨rfl, others, fun record mem => Record.isFair_of_alive (alive record mem)⟩

/-- What is heard leaves the records of a node fair, if the entries that it is told are. -/
theorem fair_handle {message : Message} (source : Address)
    (fair : node.state.directory.All (Record.IsFair timeout now))
    (told : ∀ entry ∈ message.entries, entry.IsFair timeout) :
    (node.handle now message source).1.state.directory.All (Record.IsFair timeout now) :=
  all_handle fair (fun _ _ _ => Record.isFair_of_alive rfl) (fun _ => Record.isFair_of_alive rfl)
    { heard _ _ _ := Record.isFair_of_alive rfl
      acked _ _ fair := fair
      joined _ fair := fair
      told entry mem _ := Directory.tells_of_isFair (told entry mem) }

theorem Deed.isFair (deed : node.Deed now cause next letters) (fair : node.IsFair timeout now)
    (told : ∀ message, cause = .heard message →
      ∀ entry ∈ message.entries, entry.IsFair timeout) : next.IsFair timeout now where
  shares := by
    have config : next.config = node.config := by
      rcases deed.standing_eq with same | ⟨same, -⟩ <;> exact congrArg (·.2.2.1) same
    rw [config, fair.shares]
  others := deed.followsOthers fair.others
  records := deed.all fair.records
    (fun message source heard => fair_handle source fair.records (told message heard))
    fun _ late _ _ => fair.shares ▸ late

end Fairness

/-! ## Whom a node has heard itself -/

section Heard

variable {node next : Node} {now since : Int} {id : NodeId} {cause : Cause} {letters : List Letter}

theorem Change.excludes (change : Change cause node next)
    (excludes : node.state.directory.Excludes id) : next.state.directory.Excludes id := by
  cases change with
  | follow | recognise | elect | count | adopt => exact excludes
  | learn learns => exact learns.excludes excludes
  | note => exact excludes.mapRecords _

theorem Changes.excludes (changes : Changes cause node next)
    (excludes : node.state.directory.Excludes id) : next.state.directory.Excludes id := by
  induction changes with
  | refl => exact excludes
  | tail _ change ih => exact change.excludes ih

theorem Deed.excludes (deed : node.Deed now cause next letters)
    (excludes : node.state.directory.Excludes id) : next.state.directory.Excludes id := by
  cases deed.outcome with
  | heard changes => exact changes.excludes excludes
  | own changes => exact changes.excludes excludes
  | claimed | wrote => exact excludes

/-- Nothing that is said of a node that was heard since an instant sets it back behind that. -/
theorem sustains_heardSince (known : node.state.directory.contains id = true) (le : since ≤ now)
    (message : Message) :
    Sustains node.state.directory node.id now message
      fun record => record.id = id → since ≤ record.lastHeard where
  heard _ _ _ _ := le
  acked _ _ holds := holds
  joined _ holds := holds
  told entry _ _ := by
    refine ⟨fun record _ holds newer same => ?_, fun unknown same => ?_⟩
    · exact Int.le_trans (holds same) (Int.le_of_lt newer)
    · have same : entry.id = id := same
      rw [same] at unknown
      exact absurd known (Bool.eq_false_iff.1 unknown)

/-- Whatever a node does later, it does not forget when it heard another one. -/
theorem Deed.heardSince (deed : node.Deed now cause next letters) (le : since ≤ now)
    (heard : node.state.directory.HeardSince since id) :
    next.state.directory.HeardSince since id := by
  obtain ⟨all, known | excludes⟩ := heard
  · refine ⟨deed.all all (fun message source _ => ?_) fun _ _ holds => holds,
      .inl (deed.extends id known)⟩
    exact all_handle all (fun _ _ _ _ => le) (fun _ _ => le) (sustains_heardSince known le message)
  · exact (deed.excludes excludes).heardSince since

/-- A node that hears another one notes the instant, unless there is no room. -/
theorem heardSince_handle {message : Message} (source : Address)
    (other : message.sender ≠ node.id) :
    (node.handle now message source).1.state.directory.HeardSince now message.sender := by
  rcases @hasMet_handle_or_unknown node now message source other with met | unmet
  · exact met.heardSince
  · have excludes : node.state.directory.Excludes message.sender :=
      ⟨isFull_of_unmet unmet, unknown_of_unmet unmet⟩
    exact ((changes_handle node now message source).excludes excludes).heardSince now

/-! ## Whom a node has heard lately -/

section Lately

variable {timeout : Nat} (fair : node.IsFair timeout now)
  (heard : node.state.directory.HeardSince since id) (lately : now ≤ Time.after since timeout)

include fair heard lately

/-- A node on record that was heard within the timeout is alive and fresh. -/
theorem IsFair.isFresh {record : Record} (found : node.state.directory.find? id = some record) :
    record.isFresh now timeout = true := by
  have age : Time.elapsed record.lastHeard now ≤ timeout := by
    have last := heard.1.of_find? found (Directory.id_of_find? found)
    rw [Time.elapsed_le_iff]
    unfold Time.after at lately ⊢
    omega
  have alive : record.isAlive = true := Bool.ne_false_iff.1 fun dead =>
    Nat.not_lt.2 age (fair.records.of_find? found dead)
  simp [Record.isFresh, alive, age]

/-- A node does not suspect a primary on record that it has heard within the timeout. -/
theorem IsFair.suspectsPrimary_eq_false (follows : node.state.primary = some id)
    (known : node.state.directory.contains id = true) : node.suspectsPrimary now = false := by
  obtain ⟨record, found⟩ := Option.isSome_iff_exists.1 known
  have lives : node.hasLivePrimary now = true := by
    unfold hasLivePrimary Directory.isPrimaryAlive
    rw [follows, Option.bind_some, found, fair.shares]
    exact fair.isFresh heard lately found
  simp [suspectsPrimary, lives]

end Lately

end Heard

end Node

end SumCluster
