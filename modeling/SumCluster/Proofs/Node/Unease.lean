import SumCluster.Proofs.Node.Place
import SumCluster.Proofs.Node.Records

/-!
# Whom a node has met, and whether it is at ease

At a fixed instant, a node has met whom it has just heard of (`Directory.HasMet`), and it never
loses sight of them again.  It is uneasy if it neither leads nor follows somebody that it has met
(`Node.IsUneasy`).  A message that brings nothing new makes a node uneasy only if it is the list of
a node that the directory has no room for (`Node.uneasy_handle`).
-/

namespace SumCluster

namespace Directory

/-- Another node is on record as alive, and was last heard of just now. -/
def HasMet (directory : Directory) (now : Int) (id : NodeId) : Prop :=
  ∃ record, directory.find? id = some record ∧ record.isAlive = true ∧ now ≤ record.lastHeard

/-- The record is as that of a node that was met, if it is the record of a given one. -/
def Sees (now : Int) (id : NodeId) (record : Record) : Prop :=
  record.id = id → record.isAlive = true ∧ now ≤ record.lastHeard

variable {directory : Directory} {now : Int} {id : NodeId}

theorem HasMet.contains (met : directory.HasMet now id) : directory.contains id = true := by
  obtain ⟨record, found, -⟩ := met
  exact Option.isSome_iff_exists.2 ⟨record, found⟩

theorem HasMet.all (met : directory.HasMet now id) : directory.All (Sees now id) := by
  obtain ⟨record, found, alive, heard⟩ := met
  intro other mem same
  have found' := find?_of_mem mem
  rw [same, found] at found'
  obtain rfl := Option.some.inj found'
  exact ⟨alive, heard⟩

theorem hasMet_of_all (all : directory.All (Sees now id)) (knows : directory.contains id = true) :
    directory.HasMet now id := by
  obtain ⟨record, found⟩ := Option.isSome_iff_exists.1 knows
  exact ⟨record, found, all.of_find? found (id_of_find? found)⟩

/-- A primary that was met is alive. -/
theorem HasMet.isPrimaryAlive (met : directory.HasMet now id) (timeout : Nat) :
    directory.isPrimaryAlive (some id) now timeout = true := by
  obtain ⟨record, found, alive, heard⟩ := met
  have fresh : Time.elapsed record.lastHeard now = 0 := by
    unfold Time.elapsed
    omega
  simp [Directory.isPrimaryAlive, found, Record.isFresh, alive, fresh]

end Directory

namespace Node

variable {node : Node} {now : Int} {id : NodeId} {message : Message} {source : Address}

/-! ## Who was met stays so -/

/-- Nothing that is said is older than what was just heard. -/
theorem sustains_sees (met : node.state.directory.HasMet now id) (message : Message) :
    Sustains node.state.directory node.id now message (Directory.Sees now id) where
  heard _ _ _ _ := ⟨rfl, Int.le_refl _⟩
  acked _ _ sees := sees
  joined _ sees := sees
  told entry _ _ := by
    refine ⟨fun record same sees newer same_id => ?_, fun unknown same_id => ?_⟩
    · have heard := (sees same_id).2
      unfold Directory.heardAt at newer
      omega
    · have same : entry.id = id := same_id
      rw [same] at unknown
      exact absurd met.contains (Bool.eq_false_iff.1 unknown)

theorem hasMet_mergeEntries (met : node.state.directory.HasMet now id) (entries : List PeerEntry) :
    (node.mergeEntries entries now).state.directory.HasMet now id := by
  have merges : node.state.directory.Learns (node.mergeEntries entries now).state.directory :=
    Directory.learns_merge node.state.directory node.id entries now
  have sustains := sustains_sees met (.replicaList id none entries)
  exact Directory.hasMet_of_all (Directory.all_merge met.all sustains.told)
    (merges.extends id met.contains)

theorem hasMet_meet {sender : NodeId} (met : node.state.directory.HasMet now id) :
    (node.meet now sender source).state.directory.HasMet now id := by
  have meets : Changes .own node (node.meet now sender source) :=
    changes_meet node now sender source
  exact Directory.hasMet_of_all
    (@all_meet node now (.joinRequest sender 0) source _ met.all
      (fun _ _ _ _ => ⟨rfl, Int.le_refl _⟩) (fun _ _ => ⟨rfl, Int.le_refl _⟩))
    (meets.extends id met.contains)

theorem hasMet_hear (met : node.state.directory.HasMet now id) (isNew : Bool) :
    (node.hear now isNew message).1.state.directory.HasMet now id :=
  Directory.hasMet_of_all (all_hear met.all (sustains_sees met message) isNew)
    ((changes_hear node now isNew message).extends id met.contains)

theorem hasMet_handle (met : node.state.directory.HasMet now id) :
    (node.handle now message source).1.state.directory.HasMet now id := by
  unfold handle
  split
  · exact met
  · exact hasMet_hear (hasMet_meet met) _

/-- A node meets whoever it hears, unless its directory has no room. -/
theorem hasMet_meet_or_unknown (node : Node) (now : Int) (sender : NodeId) (source : Address) :
    (node.meet now sender source).state.directory.HasMet now sender ∨
      (node.meet now sender source).state.directory.contains sender = false := by
  unfold meet
  cases registered : node.state.directory.register sender source now with
  | ok directory =>
    obtain ⟨record, found, -, alive, heard⟩ := Directory.find?_register registered
    exact .inl ⟨record, found, alive, Int.le_of_eq heard.symm⟩
  | error error => exact .inr (Directory.contains_of_register_error registered)

theorem hasMet_handle_or_unknown (other : message.sender ≠ node.id) :
    (node.handle now message source).1.state.directory.HasMet now message.sender ∨
      (node.meet now message.sender source).state.directory.contains message.sender = false := by
  unfold Node.handle
  rw [if_neg other]
  rcases hasMet_meet_or_unknown node now message.sender source with met | unknown
  · exact .inl (hasMet_hear met _)
  · exact .inr unknown

theorem unknown_of_unmet {sender : NodeId}
    (unmet : (node.meet now sender source).state.directory.contains id = false) :
    node.state.directory.contains id = false := by
  have meets : Changes .own node (node.meet now sender source) :=
    changes_meet node now sender source
  refine Bool.eq_false_iff.2 fun known => ?_
  exact absurd (meets.extends id known) (Bool.eq_false_iff.1 unmet)

/-! ## Unease -/

/-- The node does not lead, and has not met its primary. -/
def IsUneasy (node : Node) (now : Int) : Prop :=
  node.state.isPrimary = false ∧
    ∀ primary, node.state.primary = some primary → ¬node.state.directory.HasMet now primary

/-- If a message brings nothing new to the directory, it makes a node uneasy only if it is the list
of an unknown node. -/
theorem uneasy_handle (other : message.sender ≠ node.id)
    (sameKnown : ∀ id, (node.handle now message source).1.state.directory.contains id = true →
      node.state.directory.contains id = true)
    (uneasy : (node.handle now message source).1.IsUneasy now) :
    node.IsUneasy now ∨
      message.kind = .replicaList ∧ node.state.directory.contains message.sender = false := by
  have metOrUnknown := @hasMet_handle_or_unknown node now message source other
  have keepsMet : ∀ id, node.state.directory.HasMet now id →
      (node.handle now message source).1.state.directory.HasMet now id :=
    fun id met => hasMet_handle met
  unfold handle at sameKnown uneasy metOrUnknown keepsMet
  simp only [if_neg other] at sameKnown uneasy metOrUnknown keepsMet
  have place := place_hear (node.meet now message.sender source) now
    (!node.state.directory.contains message.sender) message
  obtain ⟨backup, unmet⟩ := uneasy
  cases place with
  | kept keeps =>
    refine .inl ⟨keeps.leads.symm.trans backup, fun primary follows met => ?_⟩
    exact unmet primary (keeps.primary.trans follows) (keepsMet primary met)
  | behindSender yields knows =>
    rcases metOrUnknown with met | unknown
    · exact absurd met (unmet _ yields.primary)
    · exact absurd (sameKnown _ knows) (Bool.eq_false_iff.1 (unknown_of_unmet unknown))
  | behindFirst backup unled =>
    refine .inl ⟨backup, fun primary follows => ?_⟩
    exact nomatch unled.symm.trans follows
  | behindAnnounced list yields =>
    rcases metOrUnknown with met | unknown
    · exact absurd met (unmet _ yields.primary)
    · exact .inr ⟨by rw [list]; rfl, unknown_of_unmet unknown⟩
  | @behindNamed named entries list ne backup lost =>
    refine .inl ⟨backup, fun primary follows met => ?_⟩
    have stays : (node.meet now message.sender source).state.directory.HasMet now primary :=
      hasMet_meet met
    have lives := (hasMet_mergeEntries stays entries).isPrimaryAlive node.config.primaryTimeout
    rw [← follows] at lives
    exact nomatch lost.symm.trans lives

/-- A backup that has lost its primary, and follows one that it has met, is put at ease. -/
theorem eased_of_lost {next : Node} {effects : Effects} {primary : NodeId} {timeout : Nat}
    (handled : node.handle now message source = (next, effects))
    (backup : node.state.isPrimary = false)
    (lost : next.state.directory.isPrimaryAlive node.state.primary now timeout = false)
    (follows : next.state.primary = some primary)
    (met : node.state.directory.HasMet now primary) :
    node.IsUneasy now ∧ ¬next.IsUneasy now := by
  have keepsMet : ∀ id, node.state.directory.HasMet now id →
      next.state.directory.HasMet now id := by
    intro id met
    have keeps := @hasMet_handle node now id message source met
    rwa [handled] at keeps
  refine ⟨⟨backup, fun old followed oldMet => ?_⟩, fun uneasy => ?_⟩
  · have lives := (keepsMet old oldMet).isPrimaryAlive timeout
    rw [← followed] at lives
    exact nomatch lost.symm.trans lives
  · exact uneasy.2 primary follows (keepsMet primary met)

end Node

end SumCluster
