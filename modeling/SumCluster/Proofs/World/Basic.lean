import Mathlib.Logic.Function.Basic
import SumCluster.Proofs.Node.Boot

/-!
# Worlds

A cluster as a whole: its nodes, the datagrams on their way and a ledger of all writes that were
applied.  Whatever happens is an action of one member, or time passes (`World.act?`).  The network
is free to do what it likes: a datagram may arrive at any time, any number of times, or never.

* `World.Run`: a finite history of a cluster;
* `World.Booted`: how a cluster begins.

The actions of members are what the handlers and duties of a node do.  Those of a write in the ledger
are the steps of its replication (`World.brings_begin`, `World.brings_advance`).
-/

namespace SumCluster

/-- A letter on its way, with the address that it comes from. -/
structure Datagram where
  source : Address
  letter : Letter
  deriving DecidableEq, Repr

/-- A write that was applied, and how far its replication has come. -/
structure Write (ι : Type) where
  writer : ι
  sum : Int64
  seqn : Seqn
  /-- Copies of its update that are still to be sent. -/
  unsent : List Letter
  /-- When the wait for acknowledgements ends at the latest. -/
  deadline : Int
  /-- How the wait for acknowledgements ended: none was missing and these nodes were marked alive,
  or it failed. -/
  acks : Option (Except ClusterError (List NodeId)) := none

/-- The answer to the caller.  There is one as soon as everything is sent and the wait for
acknowledgements has ended. -/
def Write.result? {ι : Type} (write : Write ι) : Option (Except ClusterError (Int64 × Seqn)) :=
  if write.unsent.isEmpty then write.acks.map (·.map fun _ => (write.sum, write.seqn)) else none

/-- What the caller is told if the write succeeded. -/
def Write.returned? {ι : Type} (write : Write ι) : Option (Int64 × Seqn) :=
  write.result?.bind Except.toOption

theorem Write.result?_of_returned? {ι : Type} {write : Write ι} {answer : Int64 × Seqn}
    (returned : write.returned? = some answer) : write.result? = some (.ok answer) := by
  obtain ⟨result, ended, succeeded⟩ := Option.bind_eq_some_iff.1 returned
  cases result with
  | error error => simp [Except.toOption] at succeeded
  | ok told =>
    obtain rfl := Option.some.inj succeeded
    exact ended

theorem Write.answer_of_result? {ι : Type} {write : Write ι} {answer : Int64 × Seqn}
    (returns : write.result? = some (.ok answer)) : answer = (write.sum, write.seqn) := by
  unfold result? at returns
  split at returns
  · obtain ⟨result, -, mapped⟩ := Option.map_eq_some_iff.1 returns
    cases result with
    | error error => simp [Except.map] at mapped
    | ok alive => exact (Except.ok.inj mapped).symm
  · simp at returns

/-- The nodes that were marked alive when the wait for acknowledgements ended well. -/
def Write.alive {ι : Type} (write : Write ι) : List NodeId :=
  match write.acks with
  | some (.ok alive) => alive
  | _ => []

/-- The other nodes that a node has marked alive. -/
def Node.aliveIds (node : Node) : List NodeId :=
  (node.state.directory.alivePeers node.id).map (·.id)

/-- A cluster as a whole. -/
structure World (ι : Type) where
  now : Int
  nodes : ι → Node
  /-- The datagrams that may arrive. -/
  inFlight : List Datagram
  /-- All writes that were applied, in this order. -/
  writes : List (Write ι)

/-- What can happen in a cluster. -/
inductive Action (ι : Type)
  /-- Time passes. -/
  | pass (duration : Nat)
  /-- A datagram arrives.  It stays on its way, for it may arrive again. -/
  | hear (member : ι) (datagram : Nat)
  | drop (member : ι)
  | beat (member : ι) (tick : Nat)
  | contend (member : ι)
  | claim (member : ι)
  | giveUp (member : ι)
  | join (member : ι)
  | discover (member : ι) (address : Address)
  /-- A user asks for a write. -/
  | write (member : ι) (delta : Int64) (seqn : Option Seqn)
  /-- A copy of the update of a write is sent. -/
  | send (write copy : Nat)
  /-- A copy of the update of a write cannot be sent. -/
  | skip (write copy : Nat)
  /-- The writer looks for the acknowledgements of a write. -/
  | look (write : Nat)
  /-- The wait for the acknowledgements of a write ends because the writer is stopped. -/
  | cancel (write : Nat)
  deriving Repr

namespace World

variable {ι : Type}

/-- Every letter that is on its way or still to be sent. -/
def letters (world : World ι) : List Letter :=
  world.inFlight.map (·.letter) ++ world.writes.flatMap (·.unsent)

/-- A cluster begins with nodes that have just been created, and in silence. -/
structure Booted (first : World ι) : Prop where
  created : ∀ i, ∃ config address since, Node.create config address since = .ok (first.nodes i)
  distinct_ids : Function.Injective fun i => (first.nodes i).id
  distinct_addresses : Function.Injective fun i => (first.nodes i).address
  silent : first.inFlight = []
  unwritten : first.writes = []

/-- The silent world of the nodes with given configurations, all created at one instant. -/
def boot (configs : ι → Config) (now : Int) : World ι where
  now := now
  nodes := fun i => (Node.create (configs i) (configs i).bindAddress now).toOption.getD default
  inFlight := []
  writes := []

theorem create_boot {configs : ι → Config} {now : Int} {i : ι}
    (created : (Node.create (configs i) (configs i).bindAddress now).isOk = true) :
    Node.create (configs i) (configs i).bindAddress now = .ok ((boot configs now).nodes i) := by
  unfold boot
  simp only
  cases result : Node.create (configs i) (configs i).bindAddress now with
  | error error =>
    rw [result] at created
    simp [Except.isOk, Except.toBool] at created
  | ok node => rfl

theorem booted_boot {configs : ι → Config} {now : Int}
    (created : ∀ i, (Node.create (configs i) (configs i).bindAddress now).isOk = true)
    (distinct_ids : Function.Injective fun i => (configs i).id)
    (distinct_addresses : Function.Injective fun i => (configs i).bindAddress) :
    Booted (boot configs now) where
  created := fun i => ⟨configs i, (configs i).bindAddress, now, create_boot (created i)⟩
  distinct_ids := by
    intro i j same
    simp only [Node.id_of_create (create_boot (created _))] at same
    exact distinct_ids same
  distinct_addresses := by
    intro i j same
    simp only [Node.address_of_create (create_boot (created _))] at same
    exact distinct_addresses same
  silent := rfl
  unwritten := rfl

/-- The entry of a write that a member has just applied, and will send in bursts. -/
def entry (world : World ι) (member : ι) (node : Node) (write : AppliedWrite) : Write ι where
  writer := member
  sum := write.sum
  seqn := write.seqn
  unsent := write.letters.flatMap (List.replicate node.config.retry.copies)
  deadline := Time.after world.now node.config.ackTimeout

variable [DecidableEq ι]

/-- The world after a member acted: its node, and what it sends. -/
def put (world : World ι) (member : ι) (node : Node) (letters : List Letter) : World ι :=
  { world with
    nodes := Function.update world.nodes member node
    inFlight := world.inFlight ++ letters.map (Datagram.mk node.address) }

/-- The world after a member applied a write. -/
def enter (world : World ι) (member : ι) (node : Node) (write : AppliedWrite) : World ι :=
  { world with
    nodes := Function.update world.nodes member node
    writes := world.writes ++ [world.entry member node write] }

/-- The world after the writer looked for the acknowledgements of a write. -/
def look (world : World ι) (index : Nat) (write : Write ι) : World ι :=
  let node := world.nodes write.writer
  let (next, result) := node.pollAcks world.now write.seqn write.deadline
  { world with
    nodes := Function.update world.nodes write.writer next
    writes := world.writes.set index
      { write with acks := result.map (·.map fun _ => node.aliveIds) } }

/-- What happens, if it can. -/
def act? (world : World ι) : Action ι → Option (World ι)
  | .pass duration => some { world with now := Time.after world.now duration }
  | .hear i index =>
    match world.inFlight[index]? with
    | none => none
    | some datagram =>
      if datagram.letter.destination = (world.nodes i).address then
        let (node, effects) :=
          (world.nodes i).handle world.now datagram.letter.message.bare datagram.source
        some (world.put i node effects.letters)
      else none
  | .drop i => some (world.put i (world.nodes i).countUnreadable [])
  | .beat i tick =>
    let (node, letters) := (world.nodes i).beat world.now tick
    some (world.put i node letters)
  | .contend i =>
    ((world.nodes i).openElection? world.now).map fun (node, higher) =>
      world.put i node ((node.challenge world.now).toEach higher)
  | .claim i =>
    ((world.nodes i).claimVictory? world.now).map fun (node, letters) => world.put i node letters
  | .giveUp i => some (world.put i (world.nodes i).standDown [])
  | .join i =>
    (world.nodes i).joinTarget?.map fun address =>
      world.put i (world.nodes i) [⟨address, (world.nodes i).joinRequest world.now⟩]
  | .discover i address =>
    some (world.put i (world.nodes i) [⟨address, (world.nodes i).joinRequest world.now⟩])
  | .write i delta seqn =>
    match (world.nodes i).startWrite world.now delta seqn with
    | .applied node write => some (world.enter i node write)
    | .refused _ | .repeated => none
  | .send index copy =>
    (world.writes[index]?).bind fun write =>
      (write.unsent[copy]?).map fun letter =>
        { world with
          inFlight := world.inFlight ++ [⟨(world.nodes write.writer).address, letter⟩]
          writes := world.writes.set index { write with unsent := write.unsent.eraseIdx copy } }
  | .skip index copy =>
    (world.writes[index]?).map fun write =>
      { world with
        writes := world.writes.set index { write with unsent := write.unsent.eraseIdx copy } }
  | .look index =>
    (world.writes[index]?).bind fun write =>
      if write.acks.isNone then some (world.look index write) else none
  | .cancel index =>
    (world.writes[index]?).bind fun write =>
      if write.acks.isNone then
        some { world with
          writes := world.writes.set index { write with acks := some (.error .shutdown) } }
      else none

/-- A finite history of a cluster, with all the worlds before the last one, the latest first. -/
inductive Run (first : World ι) : List (World ι) → World ι → Prop
  | start : Run first [] first
  | step {past : List (World ι)} {world next : World ι} {action : Action ι}
    (run : Run first past world) (acts : world.act? action = some next) :
    Run first (world :: past) next

/-- What happens one after the other, if it can: the worlds on the way, the latest first, and the
last one. -/
def run? (past : List (World ι)) (world : World ι) :
    List (Action ι) → Option (List (World ι) × World ι)
  | [] => some (past, world)
  | action :: rest =>
    match world.act? action with
    | none => none
    | some next => run? (world :: past) next rest

theorem Run.of_run? {first world last : World ι} {past worlds : List (World ι)}
    {actions : List (Action ι)} (run : Run first past world)
    (runs : run? past world actions = some (worlds, last)) : Run first worlds last := by
  induction actions generalizing past world with
  | nil =>
    obtain ⟨rfl, rfl⟩ := Prod.mk.inj (Option.some.inj runs)
    exact run
  | cons action rest ih =>
    unfold run? at runs
    split at runs
    · simp at runs
    · rename_i acts
      exact ih (run.step acts) runs

theorem exists_run {first : World ι} (actions : List (Action ι))
    {P : List (World ι) → World ι → Prop} [∀ past world, Decidable (P past world)]
    (holds : (run? [] first actions).any (fun reached => P reached.1 reached.2) = true) :
    ∃ past world, Run first past world ∧ P past world := by
  obtain ⟨⟨past, world⟩, runs, holds⟩ := (Option.any_eq_true _ _).1 holds
  exact ⟨past, world, Run.start.of_run? runs, of_decide_eq_true holds⟩

/-! ## Two nodes -/

/-- A primary and a backup of it. -/
def duoConfig (i : Fin 2) : Config :=
  let config :=
    if i = 0 then Config.ofPrimary 1 (.v4 ⟨10, 0, 0, 1⟩ 1)
    else Config.ofBackup 2 (.v4 ⟨10, 0, 0, 2⟩ 1) ⟨1, .v4 ⟨10, 0, 0, 1⟩ 1⟩
  (config.withHeartbeat 100 300).withRetry ⟨3, 400, 0.0⟩

/-- The cluster of both. -/
def duo : World (Fin 2) :=
  boot duoConfig 0

theorem duo_booted : duo.Booted :=
  booted_boot (by decide) (by unfold Function.Injective; decide)
    (by unfold Function.Injective; decide)

end World

end SumCluster
