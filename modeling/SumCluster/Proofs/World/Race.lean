import SumCluster.Proofs.World.Acquaintance

/-!
# The race for the lead

Some nodes of a cluster call for elections, all of them knowing each other.  A node that contends is
answered by the highest one, which then contends itself and cannot be stopped (`Campaign.Racing`).
So it leads when nothing is left to happen (`Campaign.Racing.leads_of_isQuiet`).
-/

namespace SumCluster

namespace Campaign

variable {ι : Type}

section Racing

variable (team : ι → Seat) (top : ι) (campaign : Campaign ι)

/-- The highest node leads, or is about to. -/
def Moved : Prop :=
  (campaign.nodes top).state.isPrimary = true ∨ (top, .opening) ∈ campaign.calls ∨
    (top, .claiming) ∈ campaign.calls

/-- A challenge of a member to the highest one is on its way. -/
def Challenges (i : ι) : Prop :=
  ∃ timestamp, datagram team i top (.startElection (team i).id timestamp) ∈ campaign.inFlight

/-- An answer of the highest member to another one is on its way. -/
def Answers (i : ι) : Prop :=
  ∃ timestamp, datagram team top i (.electionResponse (team top).id timestamp) ∈ campaign.inFlight

/-- What holds as long as elections go on. -/
structure Racing : Prop where
  acquainted : ∀ i, Acquainted team campaign.now i (campaign.nodes i)
  flying : ∀ d ∈ campaign.inFlight, ∃ s r message, s ≠ r ∧ Said team s r message ∧
    d = datagram team s r message
  /-- Only the highest member gets as far as to claim the lead. -/
  prompt : ∀ call ∈ campaign.calls, call.2 = .opening ∨ call = (top, .claiming)
  /-- A contender will be answered by the highest member. -/
  contended : ∀ i, i ≠ top → (campaign.nodes i).state.election.isElecting = true →
    Challenges team top campaign i ∨ Answers team top campaign i
  claims : (campaign.nodes top).state.election.isElecting = true → (top, .claiming) ∈ campaign.calls
  claimed : (top, .claiming) ∈ campaign.calls →
    (campaign.nodes top).state.election.isElecting = true ∨
      (campaign.nodes top).state.isPrimary = true
  /-- The highest member has answered only if it has moved. -/
  answered : ∀ i, Answers team top campaign i → Moved top campaign
  /-- The highest member has moved or will hear of an election. -/
  due : Moved top campaign ∨ (∃ i, i ≠ top ∧ Challenges team top campaign i) ∨
    ∃ i, (i, .opening) ∈ campaign.calls ∧ (campaign.nodes i).state.isPrimary = false

end Racing

section Delivery

variable {team : ι → Seat} {top s r : ι} {campaign : Campaign ι}
  {message : Message} {next : Node} {effects : Effects} {sent : List Datagram}
  (racing : Racing team top campaign) (distinct : Function.Injective fun i => (team i).id)
  (highest : ∀ i, (team i).id ≤ (team top).id) (ne : s ≠ r) (said : Said team s r message)
  (handled : (campaign.nodes r).handle campaign.now message (team s).address = (next, effects))

include racing highest said handled in
/-- Nobody makes the highest member stop. -/
theorem stands_of_top (r_eq : r = top) :
    next.state.election = (campaign.nodes r).state.election ∧
      next.state.isPrimary = (campaign.nodes r).state.isPrimary := by
  have stands := (campaign.nodes r).stands_handle campaign.now message (team s).address
  rw [handled] at stands
  cases stands with
  | kept election leads => exact ⟨election, leads⟩
  | ended _ higher =>
    rw [(racing.acquainted r).id_eq, said.sender, r_eq] at higher
    exact absurd higher (UInt32.not_lt.2 (highest s))

variable [DecidableEq ι]

include racing highest said handled

theorem moved_received (moved : Moved top campaign) :
    Moved top (campaign.received r (datagram team s r message) next effects sent) := by
  rcases moved with leads | opens | claims
  · refine .inl ?_
    by_cases acting : top = r
    · subst acting
      unfold received
      rw [nodes_put_self, (stands_of_top racing highest said handled rfl).2]
      exact leads
    · unfold received
      rwa [nodes_put_of_ne _ acting]
  · exact .inr (.inl (List.mem_append_left _ opens))
  · exact .inr (.inr (List.mem_append_left _ claims))

omit racing highest said handled in
/-- What was on its way is still there, unless it has just arrived. -/
theorem mem_received {d : Datagram} (flies : d ∈ campaign.inFlight)
    (other : d ≠ datagram team s r message) :
    d ∈ (campaign.received r (datagram team s r message) next effects sent).inFlight :=
  List.mem_append_left _ ((List.mem_erase_of_ne other).2 flies)

omit racing highest said handled in
/-- A member that asks for an election when it is the highest, or leads, has moved. -/
theorem moved_of_willing (willing : next.state.isPrimary = true ∨ effects.elects = true) :
    Moved r (campaign.received r (datagram team s r message) next effects sent) := by
  rcases willing with leads | elects
  · refine .inl ?_
    unfold received
    rwa [nodes_put_self]
  · refine .inr (.inl (List.mem_append_right _ ?_))
    rw [if_pos elects]
    exact List.mem_singleton_self _

variable (addresses : Function.Injective fun i => (team i).address)
  (copies : Copies next.address effects.letters sent)

include distinct ne copies

omit [DecidableEq ι] highest in
/-- What is newly on its way is what the member says. -/
theorem of_mem_sent {d : Datagram} (mem : d ∈ sent) :
    ∃ letter ∈ effects.letters, d = datagram team r s letter.message ∧
      Said team r s letter.message := by
  have arrival := arrival_of_said (racing.acquainted r) distinct ne said handled
  have acquainted := (racing.acquainted r).handle said.sender said.entries
  rw [handled] at acquainted
  obtain ⟨letter, letter_mem, rfl⟩ := (copies d).1 mem
  obtain ⟨destination, said⟩ := arrival.sent letter letter_mem
  refine ⟨letter, letter_mem, ?_, said⟩
  unfold datagram
  rw [acquainted.address_eq, ← destination]

/-- When a challenge has arrived at the highest member, its answer is on its way, and it moves. -/
theorem answers_received {timestamp : UInt64} (r_eq : r = top)
    (challenge : message = .startElection (team s).id timestamp) :
    Answers team top (campaign.received r (datagram team s r message) next effects sent) s ∧
      Moved top (campaign.received r (datagram team s r message) next effects sent) := by
  subst r_eq
  have arrival := arrival_of_said (racing.acquainted r) distinct ne said handled
  have acquainted := (racing.acquainted r).handle said.sender said.entries
  rw [handled] at acquainted
  obtain ⟨timestamp', mem⟩ := arrival.answers timestamp challenge
  constructor
  · refine ⟨timestamp', List.mem_append_right _ ((copies _).2 ⟨_, mem, ?_⟩)⟩
    unfold datagram
    rw [acquainted.address_eq]
  · exact moved_of_willing (arrival.willing _ mem rfl)

omit racing distinct highest ne said copies in
/-- No election begins. -/
theorem electing_of_received {i : ι}
    (contends : ((campaign.received r (datagram team s r message) next effects
      sent).nodes i).state.election.isElecting = true) :
    (campaign.nodes i).state.election.isElecting = true := by
  unfold received at contends
  by_cases acting : i = r
  · subst acting
    rw [nodes_put_self] at contends
    by_contra rests
    have idle := Node.idle_handle (Bool.eq_false_iff.2 rests) campaign.now message (team s).address
    rw [handled] at idle
    simp [idle] at contends
  · rwa [nodes_put_of_ne _ acting] at contends

include addresses

theorem contended_received {i : ι} (other : i ≠ top)
    (contends : ((campaign.received r (datagram team s r message) next effects
      sent).nodes i).state.election.isElecting = true) :
    Challenges team top (campaign.received r (datagram team s r message) next effects sent) i ∨
      Answers team top (campaign.received r (datagram team s r message) next effects sent) i := by
  rcases racing.contended i other (electing_of_received handled contends) with
    ⟨timestamp, flies⟩ | ⟨timestamp, flies⟩
  · by_cases same : datagram team i top (.startElection (team i).id timestamp) =
        datagram team s r message
    · obtain ⟨rfl, r_eq, message_eq⟩ := datagram_inj addresses same
      exact .inr (answers_received racing distinct highest ne said handled copies r_eq.symm
        message_eq.symm).1
    · exact .inl ⟨timestamp, mem_received flies same⟩
  · by_cases same : datagram team top i (.electionResponse (team top).id timestamp) =
        datagram team s r message
    · -- the answer has just arrived, and ended the election
      obtain ⟨rfl, rfl, rfl⟩ := datagram_inj addresses same
      have arrival := arrival_of_said (racing.acquainted i) distinct ne said handled
      unfold received at contends
      rw [nodes_put_self, arrival.answered rfl] at contends
      exact nomatch contends
    · exact .inr ⟨timestamp, mem_received flies same⟩

theorem answered_received {i : ι}
    (answers : Answers team top (campaign.received r (datagram team s r message) next effects
      sent) i) :
    Moved top (campaign.received r (datagram team s r message) next effects sent) := by
  obtain ⟨timestamp, mem⟩ := answers
  rcases List.mem_append.1 mem with old | new
  · exact moved_received racing highest said handled
      (racing.answered i ⟨timestamp, List.mem_of_mem_erase old⟩)
  · obtain ⟨letter, letter_mem, same, -⟩ :=
      of_mem_sent racing distinct ne said handled copies new
    obtain ⟨rfl, rfl, message_eq⟩ := datagram_inj addresses same
    have arrival := arrival_of_said (racing.acquainted top) distinct ne said handled
    exact moved_of_willing (arrival.willing letter letter_mem (message_eq ▸ rfl))

theorem due_received :
    Moved top (campaign.received r (datagram team s r message) next effects sent) ∨
      (∃ i, i ≠ top ∧ Challenges team top
        (campaign.received r (datagram team s r message) next effects sent) i) ∨
      ∃ i, (i, .opening) ∈
          (campaign.received r (datagram team s r message) next effects sent).calls ∧
        ((campaign.received r (datagram team s r message) next effects
          sent).nodes i).state.isPrimary = false := by
  rcases racing.due with moved | ⟨i, other, timestamp, flies⟩ | ⟨i, called, backup⟩
  · exact .inl (moved_received racing highest said handled moved)
  · by_cases same : datagram team i top (.startElection (team i).id timestamp) =
        datagram team s r message
    · obtain ⟨rfl, r_eq, message_eq⟩ := datagram_inj addresses same
      exact .inl (answers_received racing distinct highest ne said handled copies r_eq.symm
        message_eq.symm).2
    · exact .inr (.inl ⟨i, other, timestamp, mem_received flies same⟩)
  · refine .inr (.inr ⟨i, List.mem_append_left _ called, ?_⟩)
    unfold received
    by_cases acting : i = r
    · subst acting
      rw [nodes_put_self]
      refine Bool.eq_false_iff.2 fun leads => Bool.eq_false_iff.1 backup ?_
      have reacts := (campaign.nodes i).changes_handle campaign.now message (team s).address
      rw [handled] at reacts
      exact reacts.leads leads
    · rwa [nodes_put_of_ne _ acting]

theorem racing_received :
    Racing team top (campaign.received r (datagram team s r message) next effects sent) := by
  have acquainted := (racing.acquainted r).handle said.sender said.entries
  rw [handled] at acquainted
  refine ⟨forall_put campaign racing.acquainted acquainted, ?_, ?_,
    fun i => contended_received racing distinct highest ne said handled addresses copies, ?_, ?_,
    fun i => answered_received racing distinct highest ne said handled addresses copies,
    due_received racing distinct highest ne said handled addresses copies⟩
  · intro d mem
    rcases List.mem_append.1 mem with old | new
    · exact racing.flying d (List.mem_of_mem_erase old)
    · obtain ⟨letter, -, rfl, said⟩ := of_mem_sent racing distinct ne said handled copies new
      exact ⟨r, s, letter.message, ne.symm, said, rfl⟩
  · intro call mem
    rcases List.mem_append.1 mem with old | new
    · exact racing.prompt call old
    · split at new
      · obtain rfl := List.mem_singleton.1 new
        exact .inl rfl
      · simp at new
  · exact fun contends =>
      List.mem_append_left _ (racing.claims (electing_of_received handled contends))
  · intro mem
    have claimed : (top, Bid.claiming) ∈ campaign.calls := by
      rcases List.mem_append.1 mem with old | new
      · exact old
      · split at new
        · exact nomatch List.mem_singleton.1 new
        · simp at new
    unfold received
    by_cases acting : top = r
    · subst acting
      obtain ⟨election, leads⟩ := stands_of_top racing highest said handled rfl
      rw [nodes_put_self, election, leads]
      exact racing.claimed claimed
    · rw [nodes_put_of_ne _ acting]
      exact racing.claimed claimed

end Delivery

section Calls

variable [DecidableEq ι] {team : ι → Seat} {top i : ι} {campaign : Campaign ι} {bid : Bid}
  {sent : List Datagram} (racing : Racing team top campaign)

include racing

/-- A call that has become pointless returns. -/
theorem racing_return (pointless :
    bid = .opening ∧ ((campaign.nodes i).state.election.isElecting = true ∨
      (campaign.nodes i).state.isPrimary = true) ∨
    i = top ∧ bid = .claiming ∧ (campaign.nodes i).state.election.isElecting = false) :
    Racing team top { campaign with calls := campaign.calls.erase (i, bid) } := by
  have claims : (campaign.nodes top).state.election.isElecting = true →
      (top, Bid.claiming) ∈ campaign.calls.erase (i, bid) := by
    intro contends
    refine (List.mem_erase_of_ne fun same => ?_).2 (racing.claims contends)
    obtain ⟨rfl, rfl⟩ := Prod.mk.inj same
    rcases pointless with ⟨opens, -⟩ | ⟨-, -, idle⟩
    · exact nomatch opens
    · simp [idle] at contends
  have moves : Moved top campaign →
      Moved top { campaign with calls := campaign.calls.erase (i, bid) } := by
    rintro (leads | opens | claimed)
    · exact .inl leads
    · by_cases same : (top, Bid.opening) = (i, bid)
      · obtain ⟨rfl, rfl⟩ := Prod.mk.inj same
        rcases pointless with ⟨-, contends | leads⟩ | ⟨-, claiming, -⟩
        · exact .inr (.inr (claims contends))
        · exact .inl leads
        · exact nomatch claiming
      · exact .inr (.inl ((List.mem_erase_of_ne same).2 opens))
    · rcases racing.claimed claimed with contends | leads
      · exact .inr (.inr (claims contends))
      · exact .inl leads
  refine ⟨racing.acquainted, racing.flying, fun call mem => racing.prompt call
    (List.mem_of_mem_erase mem), racing.contended, claims, fun mem => racing.claimed
    (List.mem_of_mem_erase mem), fun j answers => moves (racing.answered j answers), ?_⟩
  rcases racing.due with moved | challenges | ⟨j, called, backup⟩
  · exact .inl (moves moved)
  · exact .inr (.inl challenges)
  · by_cases same : (j, Bid.opening) = (i, bid)
    · obtain ⟨rfl, rfl⟩ := Prod.mk.inj same
      rcases pointless with ⟨-, contends | leads⟩ | ⟨-, claiming, -⟩
      · by_cases highest : j = top
        · subst highest
          exact .inl (.inr (.inr (claims contends)))
        · rcases racing.contended j highest contends with challenges | answers
          · exact .inr (.inl ⟨j, highest, challenges⟩)
          · exact .inl (moves (racing.answered j answers))
      · simp [backup] at leads
      · exact nomatch claiming
    · exact .inr (.inr ⟨j, (List.mem_erase_of_ne same).2 called, backup⟩)

variable (distinct : Function.Injective fun i => (team i).id)
  (highest : ∀ i, (team i).id ≤ (team top).id)

include distinct highest

omit [DecidableEq ι] in
/-- Only the highest member has nobody to challenge. -/
theorem rivals_eq_nil_iff (i : ι) : (campaign.nodes i).rivals campaign.now = [] ↔ i = top := by
  constructor
  · intro none
    by_contra lower
    obtain ⟨peer, mem, -⟩ := (racing.acquainted i).exists_rival distinct
      (below_of_ne_top distinct highest lower)
    simp [none] at mem
  · rintro rfl
    refine List.eq_nil_iff_forall_not_mem.2 fun peer mem => ?_
    obtain ⟨j, -, above⟩ := (racing.acquainted i).mem_rivals mem
    exact absurd above (UInt32.not_lt.2 (highest j))

section Begin

variable {stage : Option Bid} (prompt : ∀ bid, bid ∈ Bid.prompt stage ↔ i = top ∧ bid = .claiming)
  (copies : Copies ((campaign.nodes i).contend campaign.now).address
    (((campaign.nodes i).challenge campaign.now).toEach
      ((campaign.nodes i).rivals campaign.now)) sent)

include prompt in
omit racing distinct highest in
theorem mem_calls_begun {call : ι × Bid} :
    call ∈ (campaign.advanced i .opening ((campaign.nodes i).contend campaign.now) stage
        sent).calls ↔
      call ∈ campaign.calls.erase (i, .opening) ∨ i = top ∧ call = (top, .claiming) := by
  refine List.mem_append.trans (or_congr_right ?_)
  rw [List.mem_map]
  constructor
  · rintro ⟨bid, mem, rfl⟩
    obtain ⟨rfl, rfl⟩ := (prompt bid).1 mem
    exact ⟨rfl, rfl⟩
  · rintro ⟨rfl, rfl⟩
    exact ⟨.claiming, (prompt _).2 ⟨rfl, rfl⟩, rfl⟩

include copies

omit [DecidableEq ι] distinct highest in
theorem of_mem_challenges {d : Datagram} (mem : d ∈ sent) : ∃ j, (team i).id < (team j).id ∧
    d = datagram team i j ((campaign.nodes i).challenge campaign.now) := by
  obtain ⟨letter, letter_mem, rfl⟩ := (copies d).1 mem
  obtain ⟨peer, peer_mem, rfl⟩ := List.mem_map.1 letter_mem
  obtain ⟨j, address, above⟩ := (racing.acquainted i).mem_rivals peer_mem
  refine ⟨j, above, ?_⟩
  unfold datagram
  rw [← address, ← (racing.acquainted i).address_eq]
  rfl

/-- A contender challenges the highest member. -/
theorem challenges_begun (lower : i ≠ top) : Challenges team top
    (campaign.advanced i .opening ((campaign.nodes i).contend campaign.now) stage sent) i := by
  have acquainted := racing.acquainted i
  obtain ⟨peer, mem, address⟩ := acquainted.exists_rival distinct
    (below_of_ne_top distinct highest lower)
  refine ⟨Time.stamp campaign.now, List.mem_append_right _ ((copies _).2
    ⟨_, List.mem_map_of_mem mem, ?_⟩)⟩
  unfold datagram Node.challenge
  rw [address, acquainted.id_eq, ← acquainted.address_eq]
  rfl

omit racing distinct highest copies in
include prompt in
theorem moved_begun (moved : Moved top campaign) : Moved top
    (campaign.advanced i .opening ((campaign.nodes i).contend campaign.now) stage sent) := by
  by_cases first : i = top
  · exact .inr (.inr ((mem_calls_begun prompt).2 (.inr ⟨first, rfl⟩)))
  · have stays : ∀ bid, (top, bid) ∈ campaign.calls →
        (top, bid) ∈ campaign.calls.erase (i, .opening) := by
      refine fun bid mem => (List.mem_erase_of_ne fun same => ?_).2 mem
      exact first (Prod.mk.inj same).1.symm
    rcases moved with leads | opens | claimed
    · refine .inl ?_
      unfold advanced
      rwa [nodes_put_of_ne _ (Ne.symm first)]
    · exact .inr (.inl ((mem_calls_begun prompt).2 (.inl (stays _ opens))))
    · exact .inr (.inr ((mem_calls_begun prompt).2 (.inl (stays _ claimed))))

omit [DecidableEq ι] prompt distinct highest in
/-- Whatever is on its way is what members say to each other. -/
theorem flying_begun {d : Datagram} (mem : d ∈ campaign.inFlight ++ sent) :
    ∃ s r message, s ≠ r ∧ Said team s r message ∧ d = datagram team s r message := by
  rcases List.mem_append.1 mem with old | new
  · exact racing.flying d old
  · obtain ⟨j, above, rfl⟩ := of_mem_challenges racing copies new
    refine ⟨i, j, _, ?_, ?_, rfl⟩
    · rintro rfl
      exact UInt32.lt_irrefl _ above
    · unfold Node.challenge
      rw [(racing.acquainted i).id_eq]
      exact .challenge _ above

theorem contended_begun {j : ι} (lower : j ≠ top)
    (contends : ((campaign.advanced i .opening ((campaign.nodes i).contend campaign.now) stage
      sent).nodes j).state.election.isElecting = true) :
    Challenges team top
        (campaign.advanced i .opening ((campaign.nodes i).contend campaign.now) stage sent) j ∨
      Answers team top
        (campaign.advanced i .opening ((campaign.nodes i).contend campaign.now) stage sent) j := by
  by_cases acting : j = i
  · subst acting
    exact .inl (challenges_begun racing distinct highest copies lower)
  · unfold advanced at contends
    rw [nodes_put_of_ne _ acting] at contends
    rcases racing.contended j lower contends with ⟨timestamp, flies⟩ | ⟨timestamp, flies⟩
    · exact .inl ⟨timestamp, List.mem_append_left _ flies⟩
    · exact .inr ⟨timestamp, List.mem_append_left _ flies⟩

include prompt

/-- If the call that goes on was to make the highest member move, its challenge will. -/
theorem due_begun : Moved top
      (campaign.advanced i .opening ((campaign.nodes i).contend campaign.now) stage sent) ∨
    (∃ j, j ≠ top ∧ Challenges team top
      (campaign.advanced i .opening ((campaign.nodes i).contend campaign.now) stage sent) j) ∨
    ∃ j, (j, .opening) ∈ (campaign.advanced i .opening ((campaign.nodes i).contend campaign.now)
        stage sent).calls ∧
      ((campaign.advanced i .opening ((campaign.nodes i).contend campaign.now) stage
        sent).nodes j).state.isPrimary = false := by
  rcases racing.due with moved | ⟨j, lower, timestamp, flies⟩ | ⟨j, called, follows⟩
  · exact .inl (moved_begun prompt moved)
  · exact .inr (.inl ⟨j, lower, timestamp, List.mem_append_left _ flies⟩)
  · by_cases acting : j = i
    · subst acting
      by_cases first : j = top
      · subst first
        exact .inl (moved_begun prompt (.inr (.inl called)))
      · exact .inr (.inl ⟨j, first, challenges_begun racing distinct highest copies first⟩)
    · have other : (j, Bid.opening) ≠ (i, .opening) := fun same => acting (Prod.mk.inj same).1
      refine .inr (.inr ⟨j, ?_, ?_⟩)
      · exact (mem_calls_begun prompt).2 (.inl ((List.mem_erase_of_ne other).2 called))
      · unfold advanced
        rwa [nodes_put_of_ne _ acting]

/-- A call begins an election. -/
theorem racing_begun (addresses : Function.Injective fun i => (team i).address) :
    Racing team top
      (campaign.advanced i .opening ((campaign.nodes i).contend campaign.now) stage sent) where
  acquainted := by
    have acquainted := racing.acquainted i
    refine forall_put campaign racing.acquainted ?_
    exact ⟨acquainted.seat, acquainted.itself, acquainted.knows, acquainted.records⟩
  flying _ mem := flying_begun racing copies mem
  prompt call mem := by
    rcases (mem_calls_begun prompt).1 mem with old | ⟨-, rfl⟩
    · exact racing.prompt call (List.mem_of_mem_erase old)
    · exact .inr rfl
  contended _ lower contends := contended_begun racing distinct highest copies lower contends
  claims contends := by
    refine (mem_calls_begun prompt).2 ?_
    by_cases first : i = top
    · exact .inr ⟨first, rfl⟩
    · unfold advanced at contends
      rw [nodes_put_of_ne _ (Ne.symm first)] at contends
      exact .inl ((List.mem_erase_of_ne (by simp)).2 (racing.claims contends))
  claimed mem := by
    by_cases first : i = top
    · subst first
      refine .inl ?_
      unfold advanced
      rw [nodes_put_self]
      rfl
    · unfold advanced
      rw [nodes_put_of_ne _ (Ne.symm first)]
      rcases (mem_calls_begun prompt).1 mem with old | ⟨same, -⟩
      · exact racing.claimed (List.mem_of_mem_erase old)
      · exact absurd same first
  answered j := by
    rintro ⟨timestamp, mem⟩
    rcases List.mem_append.1 mem with old | new
    · exact moved_begun prompt (racing.answered j ⟨timestamp, old⟩)
    · obtain ⟨k, -, same⟩ := of_mem_challenges racing copies new
      exact nomatch (datagram_inj addresses same).2.2
  due := due_begun racing distinct highest prompt copies

end Begin

section Win

variable (copies : Copies (campaign.nodes top).lead.address
  (((campaign.nodes top).lead.victory campaign.now).toEach (campaign.nodes top).others) sent)

include copies

omit [DecidableEq ι] in
/-- The claim of the lead goes down to the others. -/
theorem flying_won {d : Datagram} (mem : d ∈ campaign.inFlight ++ sent) :
    ∃ s r message, s ≠ r ∧ Said team s r message ∧ d = datagram team s r message := by
  have acquainted := racing.acquainted top
  rcases List.mem_append.1 mem with old | new
  · exact racing.flying d old
  · obtain ⟨letter, letter_mem, rfl⟩ := (copies d).1 new
    obtain ⟨peer, peer_mem, rfl⟩ := List.mem_map.1 letter_mem
    obtain ⟨j, lower, address⟩ := acquainted.mem_others peer_mem
    have below := below_of_ne_top distinct highest lower
    refine ⟨top, j, (campaign.nodes top).lead.victory campaign.now, lower.symm, ?_, ?_⟩
    · have id : (campaign.nodes top).lead.id = (team top).id := acquainted.id_eq
      unfold Node.victory
      rw [id]
      exact .claim _ _ _ below
    · have source : (campaign.nodes top).lead.address = (team top).address :=
        acquainted.address_eq
      unfold datagram
      rw [source, ← address]

/-- The highest member takes the lead. -/
theorem racing_won : Racing team top (campaign.advanced top .claiming (campaign.nodes top).lead
    (some .announcing) sent) := by
  have acquainted := racing.acquainted top
  have leads : (campaign.advanced top .claiming (campaign.nodes top).lead
      (some .announcing) sent).nodes top = (campaign.nodes top).lead := nodes_put_self campaign
  have others : ∀ {j : ι}, j ≠ top → (campaign.advanced top .claiming (campaign.nodes top).lead
      (some .announcing) sent).nodes j = campaign.nodes j := nodes_put_of_ne campaign
  have moved : Moved top (campaign.advanced top .claiming (campaign.nodes top).lead
      (some .announcing) sent) := by
    refine .inl ?_
    rw [leads]
    rfl
  have mem_calls : ∀ {call}, call ∈ (campaign.advanced top .claiming (campaign.nodes top).lead
      (some .announcing) sent).calls → call ∈ campaign.calls := by
    intro call mem
    rcases List.mem_append.1 mem with old | new
    · exact List.mem_of_mem_erase old
    · simp [Bid.prompt] at new
  refine ⟨forall_put campaign racing.acquainted ?_, fun _ mem => flying_won racing distinct
    highest copies mem, fun call mem => racing.prompt call (mem_calls mem), ?_, ?_,
    fun _ => .inr ?_, fun _ _ => moved, .inl moved⟩
  · exact ⟨acquainted.seat, fun _ => rfl, acquainted.knows, acquainted.records⟩
  · intro j lower contends
    rw [others lower] at contends
    rcases racing.contended j lower contends with ⟨timestamp, flies⟩ | ⟨timestamp, flies⟩
    · exact .inl ⟨timestamp, List.mem_append_left _ flies⟩
    · exact .inr ⟨timestamp, List.mem_append_left _ flies⟩
  · intro contends
    rw [leads] at contends
    exact nomatch contends
  · rw [leads]
    rfl

end Win

end Calls

section Steps

variable [DecidableEq ι] {team : ι → Seat} {top : ι} {campaign next : Campaign ι}
  (distinct : Function.Injective fun i => (team i).id)
  (addresses : Function.Injective fun i => (team i).address)
  (highest : ∀ i, (team i).id ≤ (team top).id)

include distinct addresses highest

theorem racing_step (racing : Racing team top campaign) (step : Step campaign next) :
    Racing team top next := by
  cases step with
  | @deliver member d sent node effects flies reaches handled copies =>
    obtain ⟨s, r, message, ne, said, rfl⟩ := racing.flying d flies
    have same : r = member := by
      rw [(racing.acquainted member).address_eq] at reaches
      exact addresses reaches
    subst same
    simp only [datagram, said.bare] at handled
    exact racing_received racing distinct highest ne said handled addresses copies
  | @advance i bid sent node letters stage called advances copies =>
    have turn := bid.turn_advance (campaign.nodes i) campaign.now
    rw [advances] at turn
    dsimp only at turn
    have stops : ∀ {bid}, Copies (campaign.nodes i).address [] sent →
        campaign.advanced i bid (campaign.nodes i) none sent =
          { campaign with calls := campaign.calls.erase (i, bid) } := by
      intro bid copies
      have silent : sent = [] := List.eq_nil_iff_forall_not_mem.2 fun d mem => by
        simpa using (copies d).1 mem
      simp [advanced, put, silent, Bid.prompt]
    cases turn with
    | skipped busy =>
      rw [stops copies]
      exact racing_return racing (.inl ⟨rfl, busy⟩)
    | begun idle backup =>
      refine racing_begun racing distinct highest (fun bid => ?_) copies addresses
      have none := rivals_eq_nil_iff racing distinct highest i
      by_cases first : i = top
      · rw [Bid.mem_prompt, if_pos (none.2 first)]
        simp [first]
      · rw [Bid.mem_prompt, if_neg (mt none.1 first)]
        simp [first]
    | looked | announced =>
      rcases racing.prompt _ called with opens | claims
      · exact nomatch opens
      · exact nomatch (Prod.mk.inj claims).2
    | beaten idle =>
      rcases racing.prompt _ called with opens | claims
      · exact nomatch opens
      · rw [stops copies]
        exact racing_return racing (.inr ⟨(Prod.mk.inj claims).1, rfl, idle⟩)
    | won contends =>
      rcases racing.prompt _ called with opens | claims
      · exact nomatch opens
      · obtain rfl := (Prod.mk.inj claims).1
        exact racing_won racing distinct highest copies

theorem racing_run (racing : Racing team top campaign) (run : Run campaign next) :
    Racing team top next := by
  induction run with
  | refl => exact racing
  | tail _ step ih => exact racing_step distinct addresses highest ih step

end Steps

/-- When nothing is left to happen, the highest member leads, and no election runs. -/
theorem Racing.leads_of_isQuiet {team : ι → Seat} {top : ι} {campaign : Campaign ι}
    (racing : Racing team top campaign) (quiet : campaign.IsQuiet) :
    (campaign.nodes top).state.isPrimary = true ∧
      ∀ i, (campaign.nodes i).state.election.isElecting = false := by
  obtain ⟨silent, idle⟩ := quiet
  constructor
  · rcases racing.due with (leads | opens | claims) | ⟨i, -, timestamp, flies⟩ | ⟨i, called, -⟩
    · exact leads
    · simp [idle] at opens
    · simp [idle] at claims
    · simp [silent] at flies
    · simp [idle] at called
  · intro i
    refine Bool.eq_false_iff.2 fun contends => ?_
    by_cases first : i = top
    · subst first
      have claims := racing.claims contends
      simp [idle] at claims
    · rcases racing.contended i first contends with ⟨timestamp, flies⟩ | ⟨timestamp, flies⟩
      · simp [silent] at flies
      · simp [silent] at flies

end Campaign

end SumCluster
