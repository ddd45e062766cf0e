import Mathlib.Algebra.BigOperators.Group.Finset.Basic
import Mathlib.Data.Multiset.DershowitzManna
import Mathlib.Data.Finite.Prod
import Mathlib.Data.Fintype.Powerset
import Mathlib.Order.CompletePartialOrder
import Mathlib.Order.Preorder.Finite
import Mathlib.Tactic.Abel
import SumCluster.Proofs.World.HighestWins
import SumCluster.Proofs.World.Weights

/-!
# No message storm

At a fixed instant, the messages that nodes send each other come to an end, whatever they are and
in whatever order they arrive (`Campaign.no_message_storm`).  With each arrival, and with each go of
a call for an election, somebody gets to know or meets somebody, which happens a finite number of
times, or else the weights of what is on its way, together with one for each uneasy node, fall in
the Dershowitz–Manna order (`Campaign.Wired.falls`).
-/

noncomputable section

open scoped Classical

namespace SumCluster

namespace Campaign

variable {ι : Type} {team : ι → Seat} {campaign next : Campaign ι}

/-! ## Who knows whom -/

section Lore

variable [DecidableEq ι] {member : ι} {node : Node} {inFlight : List Datagram}
  {calls : List (ι × Bid)}

theorem lore_le_put
    (known : ∀ id, (campaign.nodes member).state.directory.contains id = true →
      node.state.directory.contains id = true)
    (met : ∀ id, (campaign.nodes member).state.directory.HasMet campaign.now id →
      node.state.directory.HasMet campaign.now id) :
    campaign.lore ≤ (campaign.put member node inFlight calls).lore := by
  constructor
  · rintro ⟨i, id⟩
    exact forall_put campaign (P := fun i node =>
      (campaign.nodes i).state.directory.contains id = true →
        node.state.directory.contains id = true) (fun _ knows => knows) (known id) i
  · rintro ⟨i, id⟩
    exact forall_put campaign (P := fun i node =>
      (campaign.nodes i).state.directory.HasMet campaign.now id →
        node.state.directory.HasMet campaign.now id) (fun _ met => met) (met id) i

/-- Nobody is forgotten. -/
theorem lore_le_of_step (step : campaign.Step next) : campaign.lore ≤ next.lore := by
  cases step with
  | @deliver member d sent node effects _ _ handled =>
    have changes := Node.changes_handle (campaign.nodes member) campaign.now
      d.letter.message.bare d.source
    have meets := fun id => @Node.hasMet_handle (campaign.nodes member) campaign.now id
      d.letter.message.bare d.source
    rw [handled] at changes meets
    exact lore_le_put changes.extends meets
  | @advance member bid sent node letters stage _ advances =>
    have turn := Bid.turn_advance (campaign.nodes member) campaign.now bid
    rw [advances] at turn
    have same : node.state.directory = (campaign.nodes member).state.directory :=
      turn.keeps.2.2.2
    refine lore_le_put ?_ ?_ <;> rw [same] <;> exact fun _ holds => holds

theorem settled_of_lore_eq (same : campaign.lore = (campaign.put member node inFlight calls).lore) :
    Settled campaign.now (campaign.nodes member) node := by
  have put : (campaign.put member node inFlight calls).nodes member = node :=
    nodes_put_self campaign
  constructor
  · intro id knows
    show (member, id) ∈ campaign.lore.1
    rw [same]
    show ((campaign.put member node inFlight calls).nodes member).state.directory.contains id = true
    rwa [put]
  · intro id met
    show (member, id) ∈ campaign.lore.2
    rw [same]
    show ((campaign.put member node inFlight calls).nodes member).state.directory.HasMet _ id
    rwa [put]

end Lore

/-! ## The burden of a cluster -/

/-- What the datagrams on their way and the calls weigh. -/
def load (team : ι → Seat) (lore : Lore ι) (inFlight : List Datagram) (calls : List (ι × Bid)) :
    Multiset ℕ :=
  (inFlight.map (weight team lore) : Multiset ℕ) + (calls.map (callWeight team) : Multiset ℕ)

section Load

variable (team : ι → Seat) (lore : Lore ι) {inFlight : List Datagram} {calls : List (ι × Bid)}

theorem load_append (sent : List Datagram) (more : List (ι × Bid)) :
    load team lore (inFlight ++ sent) (calls ++ more) =
      load team lore inFlight calls + load team lore sent more := by
  unfold load
  simp only [List.map_append, ← Multiset.coe_add]
  abel

theorem load_of_mem {d : Datagram} (flies : d ∈ inFlight) :
    load team lore inFlight calls =
      load team lore (inFlight.erase d) calls + {weight team lore d} := by
  have same := Multiset.coe_eq_coe.2 ((List.perm_cons_erase flies).map (weight team lore))
  unfold load
  rw [same, List.map_cons, ← Multiset.cons_coe, ← Multiset.singleton_add]
  abel

theorem load_of_mem_calls [DecidableEq ι] {call : ι × Bid} (called : call ∈ calls) :
    load team lore inFlight calls =
      load team lore inFlight (calls.erase call) + {callWeight team call} := by
  have same := Multiset.coe_eq_coe.2 ((List.perm_cons_erase called).map (callWeight team))
  unfold load
  rw [same, List.map_cons, ← Multiset.cons_coe, ← Multiset.singleton_add]
  abel

variable {team lore}

theorem mem_load {w : ℕ} : w ∈ load team lore inFlight calls ↔
    (∃ d ∈ inFlight, weight team lore d = w) ∨ ∃ call ∈ calls, callWeight team call = w := by
  simp [load]

end Load

/-- What an uneasy node weighs. -/
def unease (node : Node) (now : Int) : Multiset ℕ :=
  if node.IsUneasy now then {6} else 0

/-- One thing may be replaced by any number of things that weigh less, or that come with a node's
being put at ease. -/
theorem falls_of_unease {node next : Node} {now : Int} {rest lighter : Multiset ℕ} {heavy : ℕ}
    (light : ∀ w ∈ lighter, w < heavy ∨ node.IsUneasy now ∧ ¬next.IsUneasy now ∧ w < 6)
    (costs : next.IsUneasy now → node.IsUneasy now ∨ 6 < heavy) :
    Multiset.IsDershowitzMannaLT (rest + lighter + unease next now)
      (rest + {heavy} + unease node now) := by
  unfold unease
  by_cases before : node.IsUneasy now
  · rw [if_pos before]
    by_cases after : next.IsUneasy now
    · rw [if_pos after]
      refine ⟨rest + {6}, lighter, {heavy}, Multiset.singleton_ne_zero _, add_right_comm _ _ _,
        add_right_comm _ _ _, fun w mem => ⟨heavy, Multiset.mem_singleton_self _, ?_⟩⟩
      exact (light w mem).resolve_right fun eases => eases.2.1 after
    · rw [if_neg after, add_zero, add_assoc]
      refine ⟨rest, lighter, {heavy} + {6}, ?_, rfl, rfl, fun w mem => ?_⟩
      · simp
      · rcases light w mem with less | ⟨-, -, less⟩
        · exact ⟨heavy, by simp, less⟩
        · exact ⟨6, by simp, less⟩
  · rw [if_neg before, add_zero]
    by_cases after : next.IsUneasy now
    · rw [if_pos after, add_assoc]
      refine ⟨rest, lighter + {6}, {heavy}, Multiset.singleton_ne_zero _, rfl, rfl, fun w mem =>
        ⟨heavy, Multiset.mem_singleton_self _, ?_⟩⟩
      rcases Multiset.mem_add.1 mem with mem | mem
      · exact (light w mem).resolve_right fun eases => before eases.1
      · rw [Multiset.mem_singleton.1 mem]
        exact (costs after).resolve_left before
    · rw [if_neg after, add_zero]
      exact ⟨rest, lighter, {heavy}, Multiset.singleton_ne_zero _, rfl, rfl, fun w mem =>
        ⟨heavy, Multiset.mem_singleton_self _,
          (light w mem).resolve_right fun eases => before eases.1⟩⟩

section Burden

variable [Fintype ι]

/-- What all that is on its way weighs, and all that are uneasy. -/
def burden (team : ι → Seat) (lore : Lore ι) (campaign : Campaign ι) : Multiset ℕ :=
  load team lore campaign.inFlight campaign.calls +
    ∑ i, unease (campaign.nodes i) campaign.now

variable [DecidableEq ι] (lore : Lore ι) (campaign) {member : ι} {node : Node}
  {inFlight : List Datagram} {calls : List (ι × Bid)}

theorem burden_eq (member : ι) : burden team lore campaign =
    load team lore campaign.inFlight campaign.calls +
      (unease (campaign.nodes member) campaign.now +
        ∑ i ∈ Finset.univ.erase member, unease (campaign.nodes i) campaign.now) := by
  have sum := Finset.add_sum_erase Finset.univ
    (fun i => unease (campaign.nodes i) campaign.now) (Finset.mem_univ member)
  unfold burden
  rw [← sum]

theorem burden_put : burden team lore (campaign.put member node inFlight calls) =
    load team lore inFlight calls + (unease node campaign.now +
      ∑ i ∈ Finset.univ.erase member, unease (campaign.nodes i) campaign.now) := by
  rw [burden_eq _ lore member, nodes_put_self]
  congr 2
  refine Finset.sum_congr rfl fun i mem => ?_
  rw [nodes_put_of_ne campaign (Finset.ne_of_mem_erase mem)]
  rfl

/-- The burden falls if one thing that is on its way is replaced by what weighs less. -/
theorem falls_put {rest lighter : Multiset ℕ} {heavy : ℕ}
    (before : load team lore campaign.inFlight campaign.calls = rest + {heavy})
    (after : load team lore inFlight calls = rest + lighter)
    (light : ∀ w ∈ lighter, w < heavy ∨ (campaign.nodes member).IsUneasy campaign.now ∧
      ¬node.IsUneasy campaign.now ∧ w < 6)
    (costs : node.IsUneasy campaign.now →
      (campaign.nodes member).IsUneasy campaign.now ∨ 6 < heavy) :
    Multiset.IsDershowitzMannaLT (burden team lore (campaign.put member node inFlight calls))
      (burden team lore campaign) := by
  rw [burden_put, burden_eq campaign lore member, before, after]
  have falls := @falls_of_unease (campaign.nodes member) node campaign.now
    (rest + ∑ i ∈ Finset.univ.erase member, unease (campaign.nodes i) campaign.now) lighter heavy
    light costs
  convert falls using 1 <;> abel

end Burden

/-! ## Each step lowers the burden -/

section Step

variable [Fintype ι] [DecidableEq ι]

/-- The burden falls when a copy arrives that brings nothing new. -/
theorem Wired.burden_falls_received (wired : Wired team campaign) {member : ι} {d : Datagram}
    {sent : List Datagram} {node : Node} {effects : Effects} (flies : d ∈ campaign.inFlight)
    (reaches : d.letter.destination = (campaign.nodes member).address)
    (handled : (campaign.nodes member).handle campaign.now d.letter.message.bare d.source =
      (node, effects))
    (copies : Copies node.address effects.letters sent)
    (settled : Settled campaign.now (campaign.nodes member) node) :
    Multiset.IsDershowitzMannaLT
      (burden team campaign.lore (campaign.received member d node effects sent))
      (burden team campaign.lore campaign) := by
  have heavy : weight team campaign.lore d =
      messageWeight team campaign.lore member d.source d.letter.message.bare := by
    unfold weight
    rw [reaches, wired.address_eq member, atListener_self wired.distinct_addresses,
      messageWeight_bare]
  refine falls_put campaign campaign.lore (load_of_mem team _ flies)
    (load_append team _ sent _) ?_ ?_ <;> rw [heavy]
  · intro w mem
    by_cases own : d.letter.message.bare.sender = (campaign.nodes member).id
    · obtain ⟨rfl, rfl⟩ := Node.handle_of_own handled own
      rcases mem_load.1 mem with ⟨copy, copy_mem, -⟩ | ⟨call, call_mem, -⟩
      · obtain ⟨letter, letter_mem, -⟩ := (copies copy).1 copy_mem
        exact nomatch letter_mem
      · exact nomatch call_mem
    · rcases mem_load.1 mem with ⟨copy, copy_mem, rfl⟩ | ⟨call, call_mem, rfl⟩
      · obtain ⟨letter, letter_mem, rfl⟩ := (copies copy).1 copy_mem
        exact wired.weight_reply flies handled own settled letter letter_mem
      · split at call_mem
        · rename_i elects
          obtain rfl := List.mem_singleton.1 call_mem
          exact .inl (wired.weight_election handled elects)
        · exact nomatch call_mem
  · intro uneasy
    by_cases own : d.letter.message.bare.sender = (campaign.nodes member).id
    · obtain ⟨rfl, -⟩ := Node.handle_of_own handled own
      exact .inl uneasy
    · exact Wired.unease_costs handled own settled uneasy

/-- The burden falls when a call goes on. -/
theorem Wired.burden_falls_advanced (wired : Wired team campaign) {member : ι} {bid : Bid}
    {sent : List Datagram} {node : Node} {letters : List Letter} {stage : Option Bid}
    (called : (member, bid) ∈ campaign.calls)
    (turn : Bid.Turn (campaign.nodes member) campaign.now bid node letters stage)
    (copies : Copies node.address letters sent) :
    Multiset.IsDershowitzMannaLT
      (burden team campaign.lore (campaign.advanced member bid node stage sent))
      (burden team campaign.lore campaign) := by
  refine falls_put campaign campaign.lore (load_of_mem_calls team _ called)
    (load_append team _ sent _) (fun w mem => .inl ?_) fun uneasy => .inl ?_
  · rcases mem_load.1 mem with ⟨copy, copy_mem, rfl⟩ | ⟨call, call_mem, rfl⟩
    · obtain ⟨letter, letter_mem, rfl⟩ := (copies copy).1 copy_mem
      exact wired.weight_turn turn _ letter letter_mem
    · obtain ⟨later, later_mem, rfl⟩ := List.mem_map.1 call_mem
      exact Wired.callWeight_prompt turn later later_mem
  · cases turn with
    | won => exact nomatch uneasy.1
    | begun | skipped | looked | beaten | announced => exact uneasy

theorem Wired.burden_falls (wired : Wired team campaign) (step : campaign.Step next)
    (same : campaign.lore = next.lore) :
    Multiset.IsDershowitzMannaLT (burden team next.lore next)
      (burden team campaign.lore campaign) := by
  rw [← same]
  cases step with
  | deliver flies reaches handled copies =>
    exact wired.burden_falls_received flies reaches handled copies (settled_of_lore_eq same)
  | @advance member bid sent node letters stage called advances copies =>
    have turn := Bid.turn_advance (campaign.nodes member) campaign.now bid
    rw [advances] at turn
    exact wired.burden_falls_advanced called turn copies

end Step

/-! ## Runs -/

instance : Finite NodeId :=
  Finite.of_injective UInt32.toFin fun _ _ => UInt32.toFin_inj.1

/-- More nodes are known or have been met, or else the burden falls. -/
def Falls : Lore ι × Multiset ℕ → Lore ι × Multiset ℕ → Prop :=
  Prod.Lex (· > ·) Multiset.IsDershowitzMannaLT

theorem wellFounded_falls [Finite ι] : WellFounded (Falls (ι := ι)) :=
  WellFounded.prod_lex wellFounded_gt Multiset.wellFounded_isDershowitzMannaLT

variable [Fintype ι]

/-- What each step lowers. -/
def unrest (team : ι → Seat) (campaign : Campaign ι) : Lore ι × Multiset ℕ :=
  (campaign.lore, burden team campaign.lore campaign)

variable [DecidableEq ι]

theorem Wired.falls (wired : Wired team campaign) (step : campaign.Step next) :
    Falls (unrest team next) (unrest team campaign) := by
  rcases (lore_le_of_step step).eq_or_lt with same | grows
  · exact Prod.lex_def.2 (.inr ⟨same.symm, wired.burden_falls step same⟩)
  · exact Prod.lex_def.2 (.inl grows)

/-- A cluster in which addresses lead to the right nodes comes to rest, if nothing but the arrival
of messages and the calls that they ask for happens: no run goes on for ever. -/
theorem no_message_storm {first : Campaign ι} (wired : Wired first.team first) :
    ¬∃ run : ℕ → Campaign ι, run 0 = first ∧ ∀ n, (run n).Step (run (n + 1)) := by
  rintro ⟨run, starts, steps⟩
  have stays : ∀ n, Wired first.team (run n) := by
    intro n
    induction n with
    | zero => rwa [starts]
    | succ n ih => exact ih.step (steps n)
  have falls : ∀ n, Falls (unrest first.team (run (n + 1))) (unrest first.team (run n)) :=
    fun n => (stays n).falls (steps n)
  have noDescent := wellFounded_iff_isEmpty_descending_chain.1 (@wellFounded_falls ι _)
  exact noDescent.false ⟨fun n => unrest first.team (run n), falls⟩

/-- The lower one of two backups calls for an election, while it claims the lead and is named as the
primary in a list. -/
def pairStirred : Campaign Bool :=
  { pair with
    inFlight :=
      [pairDatagram false (.victory 1 0 0 0),
        pairDatagram true (.replicaList 2 (some 1) [⟨1, .v4 ⟨10, 0, 0, 1⟩ 1, true, 0⟩])] }

theorem pairStirred_wired : Wired pairStirred.team pairStirred where
  distinct_ids := by unfold Function.Injective; decide
  own := by unfold Reaches; decide
  seated _ := rfl
  records := by unfold Directory.All Reaches; decide
  sources := by unfold Reaches; decide
  entries := by unfold Reaches; decide

/-- Something happens to the two backups, but not for ever. -/
theorem no_message_storm_pair :
    (∃ next, pairStirred.Step next) ∧
      ¬∃ run : ℕ → Campaign Bool, run 0 = pairStirred ∧ ∀ n, (run n).Step (run (n + 1)) :=
  ⟨⟨_, .advance (List.mem_singleton_self _) rfl (copies_map _ _)⟩,
    no_message_storm pairStirred_wired⟩

end Campaign

end SumCluster

end
