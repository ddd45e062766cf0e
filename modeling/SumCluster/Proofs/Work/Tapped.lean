import SumCluster.Proofs.Work.Deeds

/-!
# What a carrier is given

A carrier can be tapped, so that each letter that it is given is written down (`Tapped`).  Then it
can be told what bursts send: copies of their own letters only, and at least one of each burst that
is due (`Burst.gives_advanceAll`).  So letters that are sent are given to the carrier at once, and
nothing else is (`Site.gives_sendAll`); those that are sent just once are given in order
(`Site.gives_single`).
-/

namespace SumCluster

/-- A carrier, and the letters that it was given, oldest first. -/
structure Tapped (C : Type) where
  carrier : C
  log : List Letter := []

variable {C : Type} [Carrier C]

instance : Carrier (Tapped C) where
  send tapped endpoint moment letter :=
    let (result, carrier) := Carrier.send tapped.carrier endpoint moment letter
    (result, ⟨carrier, tapped.log ++ [letter]⟩)
  isReadable tapped endpoint := Carrier.isReadable tapped.carrier endpoint
  drain tapped endpoint :=
    let (arrivals, carrier) := Carrier.drain tapped.carrier endpoint
    (arrivals, { tapped with carrier })
  close tapped endpoint := { tapped with carrier := Carrier.close tapped.carrier endpoint }

/-- A later stage of a site, between which some letters were given to the carrier. -/
def Site.Gives {C : Type} (site : Site (Tapped C)) (given : List Letter)
    (later : Site (Tapped C)) : Prop :=
  later.carrier.log = site.carrier.log ++ given

namespace Site.Gives

variable {site middle later : Site (Tapped C)} {given more : List Letter}

omit [Carrier C] in
theorem refl (site : Site (Tapped C)) : site.Gives [] site :=
  (List.append_nil _).symm

omit [Carrier C] in
theorem trans (first : site.Gives given middle) (second : middle.Gives more later) :
    site.Gives (given ++ more) later := by
  unfold Gives at first second ⊢
  rw [second, first, List.append_assoc]

omit [Carrier C] in
/-- What was given is what the log has gained. -/
theorem drop_eq (gives : site.Gives given later) :
    later.carrier.log.drop site.carrier.log.length = given := by
  rw [gives]
  exact List.drop_left

end Site.Gives

namespace Burst

/-- A burst gives copies of its letter, at least one if there is one left, and goes on with it. -/
theorem gives_sendCopies (letter : Letter) (policy : RetryPolicy) (left : Nat)
    (site : Site (Tapped C)) :
    ∃ copies, site.Gives (List.replicate copies letter) (sendCopies site letter policy left).1 ∧
      (0 < left → 0 < copies) ∧
      ∀ burst ∈ (sendCopies site letter policy left).2, burst.letter = letter := by
  induction left generalizing site with
  | zero => exact ⟨0, .refl site, id, nofun⟩
  | succ left ih =>
    have once : site.Gives (List.replicate 1 letter) (site.send letter).2 := rfl
    simp only [sendCopies]
    split
    · exact ⟨1, once, fun _ => Nat.one_pos, by simp⟩
    · split
      · obtain ⟨copies, gives, -, same⟩ := ih (site.send letter).2
        refine ⟨1 + copies, ?_, fun _ => by omega, same⟩
        rw [← List.replicate_append_replicate]
        exact once.trans gives
      · refine ⟨1, once, fun _ => Nat.one_pos, fun burst mem => ?_⟩
        obtain rfl := Option.some.inj mem
        rfl

theorem gives_advance (burst : Burst) (site : Site (Tapped C)) :
    ∃ copies, site.Gives (List.replicate copies burst.letter) (burst.advance site).1 ∧
      (burst.due ≤ site.now → 0 < burst.left → 0 < copies) ∧
      ∀ rest ∈ (burst.advance site).2, rest.letter = burst.letter := by
  unfold advance
  split
  · obtain ⟨copies, gives, some_left, same⟩ :=
      gives_sendCopies burst.letter burst.policy burst.left site
    exact ⟨copies, gives, fun _ => some_left, same⟩
  · rename_i early
    refine ⟨0, .refl site, fun due => absurd due early, fun rest mem => ?_⟩
    obtain rfl := Option.some.inj mem
    rfl

theorem now_advance (burst : Burst) (site : Site C) : (burst.advance site).1.now = site.now := by
  unfold advance
  split
  · obtain ⟨carrier, same⟩ := exists_carrier_sendCopies burst.letter burst.policy burst.left site
    rw [same]
    rfl
  · rfl

/-- Several bursts give copies of their letters only, of those that are due at least one each, and
go on with some of the letters. -/
theorem gives_advanceAll (bursts : List Burst) (site : Site (Tapped C)) :
    ∃ given, site.Gives given (advanceAll site bursts).1 ∧
      (∀ letter ∈ given, ∃ burst ∈ bursts, burst.letter = letter) ∧
      (∀ burst ∈ bursts, burst.due ≤ site.now → 0 < burst.left → burst.letter ∈ given) ∧
      ∀ rest ∈ (advanceAll site bursts).2, ∃ burst ∈ bursts, burst.letter = rest.letter := by
  induction bursts generalizing site with
  | nil => exact ⟨[], .refl site, nofun, nofun, nofun⟩
  | cons burst bursts ih =>
    obtain ⟨copies, gives, some_given, same⟩ := gives_advance burst site
    obtain ⟨given, gives', from_bursts, all_given, rests⟩ := ih (burst.advance site).1
    refine ⟨_, gives.trans gives', fun letter mem => ?_, fun other mem due left => ?_,
      fun rest mem => ?_⟩
    · rcases List.mem_append.1 mem with mem | mem
      · exact ⟨burst, List.mem_cons_self .., (List.eq_of_mem_replicate mem).symm⟩
      · obtain ⟨other, other_mem, same⟩ := from_bursts letter mem
        exact ⟨other, List.mem_cons_of_mem _ other_mem, same⟩
    · rcases List.mem_cons.1 mem with rfl | mem
      · refine List.mem_append_left _ (List.mem_replicate.2 ⟨?_, rfl⟩)
        exact Nat.pos_iff_ne_zero.1 (some_given due left)
      · have due : other.due ≤ (burst.advance site).1.now := by rwa [now_advance]
        exact List.mem_append_right _ (all_given other mem due left)
    · rcases List.mem_append.1 mem with mem | mem
      · exact ⟨burst, List.mem_cons_self .., (same rest (Option.mem_toList.1 mem)).symm⟩
      · obtain ⟨other, other_mem, same⟩ := rests rest mem
        exact ⟨other, List.mem_cons_of_mem _ other_mem, same⟩

end Burst

/-- Letters that are sent are given to the carrier at once, and copies of them may follow. -/
theorem Site.gives_sendAll (site : Site (Tapped C)) (letters : List Letter) :
    ∃ given, site.Gives given (site.sendAll letters).1 ∧
      (∀ letter, letter ∈ given ↔ letter ∈ letters) ∧
      ∀ burst ∈ (site.sendAll letters).2, burst.letter ∈ letters := by
  have starts : ∀ burst ∈ letters.map (Burst.starting site.node.config.retry site.now),
      burst.letter ∈ letters ∧ burst.due = site.now ∧ 0 < burst.left := by
    intro burst mem
    obtain ⟨letter, letter_mem, rfl⟩ := List.mem_map.1 mem
    exact ⟨letter_mem, rfl, Nat.lt_of_lt_of_le Nat.one_pos (Nat.le_max_right _ _)⟩
  obtain ⟨given, gives, from_bursts, all_given, rests⟩ := Burst.gives_advanceAll
    (letters.map (Burst.starting site.node.config.retry site.now)) site
  refine ⟨given, gives, fun letter => ⟨fun mem => ?_, fun mem => ?_⟩, fun rest mem => ?_⟩
  · obtain ⟨burst, burst_mem, rfl⟩ := from_bursts letter mem
    exact (starts burst burst_mem).1
  · have burst_mem := List.mem_map_of_mem (f := Burst.starting site.node.config.retry site.now) mem
    obtain ⟨-, due, left⟩ := starts _ burst_mem
    exact all_given _ burst_mem (Int.le_of_eq due) left
  · obtain ⟨burst, burst_mem, same⟩ := rests rest mem
    exact same ▸ (starts burst burst_mem).1

/-- A single copy that is sent is given to the carrier, however that ends. -/
theorem Burst.sendCopies_one (letter : Letter) (policy : RetryPolicy) (site : Site C) :
    (sendCopies site letter policy 1).1 = (site.send letter).2 := by
  simp only [sendCopies]
  split
  · rfl
  · split
    · rfl
    · rfl

/-- Letters that are sent once are given to the carrier in order, and nothing else is. -/
theorem Site.gives_single (site : Site (Tapped C)) (letters : List Letter) :
    site.Gives letters (site.startBursts .single letters).1 := by
  suffices ∀ now ≤ site.now,
      site.Gives letters (Burst.advanceAll site (letters.map (Burst.starting .single now))).1 from
    this site.now (Int.le_refl _)
  intro now begun
  induction letters generalizing site with
  | nil => exact .refl site
  | cons letter rest ih =>
    have sends : ((Burst.starting .single now letter).advance site).1 = (site.send letter).2 :=
      (congrArg Prod.fst (if_pos begun)).trans (Burst.sendCopies_one letter .single site)
    have once : site.Gives [letter] (site.send letter).2 := rfl
    have others := ih (site.send letter).2 begun
    rw [← sends] at once others
    exact once.trans others

end SumCluster
