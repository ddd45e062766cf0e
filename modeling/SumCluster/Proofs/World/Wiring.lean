import SumCluster.Proofs.Node.Replies
import SumCluster.Proofs.World.Campaign

/-!
# Addresses that lead to the right nodes

In a wired cluster, whoever listens at an address that goes with an identifier has that identifier,
in the records of the nodes, in the entries of lists and in the source of a message
(`Campaign.Wired`).  It stays wired, whatever happens (`Campaign.Wired.step`).
-/

namespace SumCluster

namespace Campaign

variable {ι : Type}

/-- Nobody but the node with the identifier listens at the address, or at what is left of it in a
list.  So the address of a member goes with no other identifier than its own. -/
def Reaches (team : ι → Seat) (id : NodeId) (address : Address) : Prop :=
  ∀ i, address = (team i).address ∨ address.bare = (team i).address → id = (team i).id

theorem Reaches.bare {team : ι → Seat} {id : NodeId} {address : Address}
    (reaches : Reaches team id address) : Reaches team id address.bare := by
  intro i listens
  rw [Address.bare_bare, or_self] at listens
  exact reaches i (.inr listens)

/-- The seats of the nodes. -/
def team (campaign : Campaign ι) (i : ι) : Seat :=
  (campaign.nodes i).seat

/-- Addresses and identifiers that go together belong together.

It would not be enough to ask this of addresses as they are, and not of what is left of them in a
list.  Let 1 lead at `[fe80::1]:2000`, let 7 listen at `[fe80::1%7]:2000`, and let 10 hold an
election of its own.  A list tells 5 about 7 without the scope, so what 5 sends to 7 reaches 1.
Then the response of 10 ends each election of 5, and the victory with which 1 answers the challenge
that was meant for 7 makes 5 begin the next one, for ever. -/
structure Wired (team : ι → Seat) (campaign : Campaign ι) : Prop where
  distinct_ids : Function.Injective fun i => (team i).id
  own : ∀ i, Reaches team (team i).id (team i).address
  seated : ∀ i, (campaign.nodes i).seat = team i
  records : ∀ i, (campaign.nodes i).state.directory.All fun record =>
    Reaches team record.id record.address
  sources : ∀ d ∈ campaign.inFlight, Reaches team d.letter.message.sender d.source
  entries : ∀ d ∈ campaign.inFlight, ∀ entry ∈ d.letter.message.entries,
    Reaches team entry.id entry.address

namespace Wired

variable {team : ι → Seat} {campaign : Campaign ι} (wired : Wired team campaign)

include wired

theorem id_eq (i : ι) : (campaign.nodes i).id = (team i).id :=
  congrArg Seat.id (wired.seated i)

theorem address_eq (i : ι) : (campaign.nodes i).address = (team i).address :=
  congrArg Seat.address (wired.seated i)

theorem distinct_addresses : Function.Injective fun i => (team i).address :=
  fun i j same => wired.distinct_ids (wired.own i j (.inl same))

theorem seat_next {member : ι} {d : Datagram} {next : Node} {effects : Effects}
    (handled : (campaign.nodes member).handle campaign.now d.letter.message.bare d.source =
      (next, effects)) : next.seat = team member := by
  have seat := (campaign.nodes member).seat_handle campaign.now d.letter.message.bare d.source
  rw [handled] at seat
  exact seat.trans (wired.seated member)

/-- The records of a node that hears a message lead to the right nodes. -/
theorem records_handle {d : Datagram} (flies : d ∈ campaign.inFlight) (i : ι) :
    ((campaign.nodes i).handle campaign.now d.letter.message.bare
      d.source).1.state.directory.All fun record => Reaches team record.id record.address := by
  have source := wired.sources d flies
  rw [← Message.sender_bare] at source
  refine Node.all_handle (wired.records i) (fun record same _ => ?_) (fun _ => source)
    ⟨fun _ _ reaches => reaches, fun _ _ reaches => reaches, fun _ reaches => reaches,
      fun entry mem _ => ⟨fun _ _ reaches _ => reaches, fun _ => ?_⟩⟩
  · show Reaches team record.id d.source
    rwa [same]
  · rw [Message.entries_bare] at mem
    obtain ⟨told, told_mem, rfl⟩ := List.mem_map.1 mem
    exact (wired.entries d flies told told_mem).bare

variable [DecidableEq ι]

/-- A cluster stays wired if a member sends messages of its own, with entries of its directory. -/
theorem put {member : ι} {next : Node} (seat : next.seat = team member)
    (records : next.state.directory.All fun record => Reaches team record.id record.address)
    {old sent : List Datagram} (kept : ∀ d ∈ old, d ∈ campaign.inFlight) {letters : List Letter}
    (copies : Copies next.address letters sent)
    (tells : ∀ letter ∈ letters, next.Tells letter.message)
    (listed : ∀ letter ∈ letters, ∀ entry ∈ letter.message.entries,
      ∃ record ∈ next.state.directory.records, entry = record.entry campaign.now)
    (calls : List (ι × Bid)) : Wired team (campaign.put member next (old ++ sent) calls) where
  distinct_ids := wired.distinct_ids
  own := wired.own
  seated := forall_put campaign (P := fun i node => node.seat = team i) wired.seated seat
  records := forall_put campaign (P := fun _ node => node.state.directory.All fun record =>
    Reaches team record.id record.address) wired.records records
  sources d mem := by
    rcases List.mem_append.1 mem with mem | mem
    · exact wired.sources d (kept d mem)
    · obtain ⟨letter, letter_mem, rfl⟩ := (copies d).1 mem
      have sender : letter.message.sender = (team member).id :=
        (tells letter letter_mem).sender_eq.trans (congrArg Seat.id seat)
      have source : next.address = (team member).address := congrArg Seat.address seat
      show Reaches team letter.message.sender next.address
      rw [sender, source]
      exact wired.own member
  entries d mem := by
    rcases List.mem_append.1 mem with mem | mem
    · exact wired.entries d (kept d mem)
    · obtain ⟨letter, letter_mem, rfl⟩ := (copies d).1 mem
      intro entry entry_mem
      obtain ⟨record, record_mem, rfl⟩ := listed letter letter_mem entry entry_mem
      exact records record record_mem

theorem step {next : Campaign ι} (steps : campaign.Step next) : Wired team next := by
  cases steps with
  | @deliver member d sent next effects flies reaches handled copies =>
    have records := wired.records_handle flies member
    have tells := Node.tellsAll_handle (campaign.nodes member) campaign.now d.letter.message.bare
      d.source
    rw [handled] at records tells
    refine wired.put (wired.seat_next handled) records
      (fun _ mem => List.mem_of_mem_erase mem) copies tells (fun letter mem => ?_) _
    by_cases same : d.letter.message.bare.sender = (campaign.nodes member).id
    · obtain rfl := (Node.handle_of_own handled same).2
      exact nomatch mem
    · exact (Node.replies_handle handled same letter mem).entries
  | @advance member bid sent next letters stage called advances copies =>
    have turn := Bid.turn_advance (campaign.nodes member) campaign.now bid
    rw [advances] at turn
    refine wired.put (turn.seat_eq.trans (wired.seated member)) ?_ (fun _ mem => mem) copies
      ?_ ?_ _
    · rw [turn.keeps.2.2.2]
      exact wired.records member
    · cases turn with
      | begun => exact Node.tells_of_mem_toEach rfl
      | won => exact Node.tells_of_mem_toEach (Node.tells_victory _ _ rfl)
      | skipped | looked | beaten | announced => exact nofun
    · intro letter mem
      cases turn with
      | begun | won =>
        obtain ⟨peer, -, rfl⟩ := List.mem_map.1 mem
        exact nofun
      | skipped | looked | beaten | announced => exact nomatch mem

end Wired

end Campaign

end SumCluster
