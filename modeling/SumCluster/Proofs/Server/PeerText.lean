import Mathlib.Data.List.Forall2
import SumCluster.Proofs.Address.Text
import SumCluster.Proofs.Text.Blank
import SumCluster.Server.Config

/-!
# Lists of peers in the environment

Which text spells a peer is said by `Peer.Spells`, and which text lists peers by `Peer.Lists`: cut
at its commas, its items spell them one after the other, blank items aside.  Just these texts are
read (`Peer.parseList_eq_ok_iff`), so peers that are written with commas and white space in any way
are read back, and a text that is accepted has nothing in it that is not among the peers
(`ServerConfig.peers_from_environment`).
-/

namespace SumCluster

theorem mapM_eq_ok_iff {ε α β : Type} {read : α → Except ε β} {as : List α} {bs : List β} :
    as.mapM read = .ok bs ↔ List.Forall₂ (fun a b => read a = .ok b) as bs := by
  induction as generalizing bs with
  | nil =>
    rw [List.mapM_nil, List.forall₂_nil_left_iff]
    constructor
    · rintro ⟨⟩
      rfl
    · rintro rfl
      rfl
  | cons a rest ih =>
    rw [List.mapM_cons, bind_eq_ok_iff, List.forall₂_cons_left_iff]
    simp only [bind_eq_ok_iff, ih]
    constructor
    · rintro ⟨b, head, others, tail, whole⟩
      exact ⟨b, others, head, tail, (Except.ok.inj whole).symm⟩
    · rintro ⟨b, others, head, tail, rfl⟩
      exact ⟨b, head, others, tail, rfl⟩

/-! ## One peer -/

namespace Peer

variable {item : List Char} {peer : Peer}

/-- Whether an item is the text of a peer: an identifier, the first `@` in it, and an address, with
white space around the whole and around the address. -/
def Spells (item : List Char) (peer : Peer) : Prop :=
  ∃ id address, Text.trim item = id ++ '@' :: address ∧ '@' ∉ id ∧
    Numeral.read NodeId.greatest id = .ok peer.id.toNat ∧
    Address.parse? (Text.trim address) = some peer.address

theorem spells_trim_iff : Spells (Text.trim item) peer ↔ Spells item peer := by
  simp only [Spells, Text.trim_trim]

/-- Just the texts of peers are read. -/
theorem parse_eq_ok_iff : parse item = .ok peer ↔ Spells item peer := by
  simp only [Spells, ← and_assoc, ← Text.cutAt?_eq_some_iff]
  unfold parse
  cases cut : Text.cutAt? '@' (Text.trim item) with
  | none => exact iff_of_false nofun (by simp)
  | some parts =>
    obtain ⟨id, address⟩ := parts
    simp only [Option.some.injEq, Prod.mk.injEq, and_assoc, exists_and_left, exists_eq_left']
    cases reads : Numeral.read NodeId.greatest id with
    | error => simp
    | ok n =>
      have small : n < 2 ^ 32 := Nat.lt_succ_of_le (Numeral.le_of_read reads)
      unfold Address.parse
      cases Address.parse? (Text.trim address) with
      | none => simp [Except.map]
      | some found =>
        obtain ⟨peerId, peerAddress⟩ := peer
        simp [Except.map, ← UInt32.toNat_inj, UInt32.toNat_ofNat_of_lt' small]

theorem mem_characters_of_mem_render {c : Char} (mem : c ∈ peer.render) :
    c ∈ '@' :: Address.characters := by
  rcases List.mem_append.1 mem with mem | mem
  · exact List.mem_cons_of_mem _ (Address.uses_render_number _ c mem)
  · rcases List.mem_cons.1 mem with rfl | mem
    · exact List.mem_cons_self ..
    · exact List.mem_cons_of_mem _ (Address.uses_render _ c mem)

theorem visible {c : Char} (mem : c ∈ '@' :: Address.characters) :
    Text.isBlank c = false ∧ c ≠ ',' := by
  have all : ('@' :: Address.characters).all (fun c => !Text.isBlank c && c != ',') := by decide
  simpa using List.all_eq_true.1 all c mem

/-- A peer is spelt by its text, with white space around it. -/
theorem spells_render (plain : peer.address.flow = 0) {before after : List Char}
    (front : Text.Blank before) (back : Text.Blank after) :
    Spells (before ++ peer.render ++ after) peer := by
  have tight : Text.IsTight peer.render :=
    Text.isTight_of_forall fun c mem => (visible (mem_characters_of_mem_render mem)).1
  have tight' : Text.IsTight peer.address.render :=
    Text.isTight_of_forall fun c mem =>
      (visible (List.mem_cons_of_mem _ (Address.uses_render _ c mem))).1
  refine ⟨Numeral.render peer.id.toNat, peer.address.render, Text.trim_padded tight front back, ?_,
    Numeral.read_render (Nat.le_of_lt_succ peer.id.toNat_lt), ?_⟩
  · intro mem
    exact absurd (Address.uses_render_number _ _ mem) (by decide)
  · rw [Text.trim_of_isTight tight', Address.parse?_render plain]

/-! ## Lists of peers -/

variable {text : List Char} {items : List (List Char)} {peers : List Peer}

/-- Whether a text lists peers: its items, between commas, spell them one after the other, but for
items that are blank. -/
def Lists (text : List Char) (peers : List Peer) : Prop :=
  ∃ items, [','].intercalate items = text ∧ (∀ item ∈ items, ',' ∉ item) ∧
    List.Forall₂ Spells (items.filter fun item => ¬Text.Blank item) peers

theorem forall₂_parse_iff :
    List.Forall₂ (fun item peer => parse item = .ok peer)
        ((items.map Text.trim).filter fun item => !item.isEmpty) peers ↔
      List.Forall₂ Spells (items.filter fun item => ¬Text.Blank item) peers := by
  have filled : ((fun item => !item.isEmpty) ∘ Text.trim) = fun item => decide ¬Text.Blank item := by
    funext item
    rw [Bool.eq_iff_iff, decide_eq_true_iff, ← Text.trim_eq_nil_iff, Function.comp_apply]
    cases Text.trim item <;> simp
  rw [List.filter_map, filled, List.forall₂_map_left_iff]
  simp only [parse_eq_ok_iff, spells_trim_iff]

/-- Just the texts that list peers are read. -/
theorem parseList_eq_ok_iff : parseList text = .ok peers ↔ Lists text peers := by
  unfold parseList
  rw [mapM_eq_ok_iff, forall₂_parse_iff]
  constructor
  · intro spell
    exact ⟨_, Text.intercalate_pieces ',' text, fun _ => Text.not_mem_of_mem_pieces ',', spell⟩
  · rintro ⟨items, rfl, clean, spell⟩
    cases items with
    | nil => simpa [Text.pieces, Text.Blank] using spell
    | cons item rest => rwa [Text.pieces_intercalate ',' clean (List.cons_ne_nil item rest)]

/-- Peers that are written one after the other, each with white space around it, and blank items
anywhere among them. -/
inductive Writes : List (List Char) → List Peer → Prop
  | nil : Writes [] []
  | blank (item : List Char) {items : List (List Char)} {peers : List Peer} :
    Text.Blank item → Writes items peers → Writes (item :: items) peers
  | peer (before : List Char) (peer : Peer) (after : List Char) {items : List (List Char)}
      {peers : List Peer} :
    Text.Blank before → Text.Blank after → peer.address.flow = 0 → Writes items peers →
      Writes ((before ++ peer.render ++ after) :: items) (peer :: peers)

theorem comma_not_mem_of_blank {cs : List Char} (blank : Text.Blank cs) : ',' ∉ cs := fun mem =>
  absurd (blank ',' mem) (by decide)

theorem Writes.clean (writes : Writes items peers) : ∀ item ∈ items, ',' ∉ item := by
  induction writes with
  | nil => exact nofun
  | blank item blank _ ih => exact List.forall_mem_cons.2 ⟨comma_not_mem_of_blank blank, ih⟩
  | peer before peer after front back _ _ ih =>
    refine List.forall_mem_cons.2 ⟨fun mem => ?_, ih⟩
    rcases List.mem_append.1 mem with mem | mem
    · rcases List.mem_append.1 mem with mem | mem
      · exact comma_not_mem_of_blank front mem
      · exact (visible (mem_characters_of_mem_render mem)).2 rfl
    · exact comma_not_mem_of_blank back mem

theorem Spells.not_blank (spells : Spells item peer) : ¬Text.Blank item := by
  obtain ⟨id, address, trimmed, -⟩ := spells
  rw [← Text.trim_eq_nil_iff, trimmed]
  simp

theorem Writes.spells (writes : Writes items peers) :
    List.Forall₂ Spells (items.filter fun item => ¬Text.Blank item) peers := by
  induction writes with
  | nil => exact .nil
  | blank item blank _ ih => rwa [List.filter_cons_of_neg (by simpa using blank)]
  | peer before peer after front back plain _ ih =>
    have spells := spells_render plain front back
    rw [List.filter_cons_of_pos (by simpa using spells.not_blank)]
    exact .cons spells ih

/-- What is written lists the peers. -/
theorem Writes.lists (writes : Writes items peers) : Lists ([','].intercalate items) peers :=
  ⟨items, rfl, writes.clean, writes.spells⟩

end Peer

/-! ## The environment -/

namespace ServerConfig

variable {config : ServerConfig}

/-- An environment with one variable. -/
def soleVariable (name text : String) : String → Option String := fun other =>
  if other = name then some text else none

theorem withEnvironment_soleVariable (text : String) :
    config.withEnvironment (soleVariable "REPLISUM_PEERS" text) =
      (Peer.parseList text.toList).map fun peers => { config with peers } := by
  simp [withEnvironment, withVariable, soleVariable, bind, Except.bind]

theorem lists_of_withEnvironment {lookup : String → Option String} {text : String}
    {result : ServerConfig} (set : lookup "REPLISUM_PEERS" = some text)
    (accepts : config.withEnvironment lookup = .ok result) :
    Peer.Lists text.toList result.peers := by
  unfold withEnvironment at accepts
  simp only [bind_eq_ok_iff] at accepts
  obtain ⟨_, -, _, -, _, -, _, -, last⟩ := accepts
  unfold withVariable at last
  rw [set] at last
  cases reads : Peer.parseList text.toList with
  | error fault =>
    simp [reads, Except.map] at last
  | ok peers =>
    simp only [reads, Except.map, Except.ok.injEq] at last
    rw [← last]
    exact Peer.parseList_eq_ok_iff.1 reads

/-- Peers that are written into the environment with commas, white space and blank items, in any
way, are the peers of the configuration, in order, and nothing else changes.  What else is accepted
lists the peers as well; so no item of it is lost or taken for another one. -/
theorem peers_from_environment (config : ServerConfig) :
    (∀ items peers, Peer.Writes items peers →
      config.withEnvironment
          (soleVariable "REPLISUM_PEERS" (String.ofList ([','].intercalate items))) =
        .ok { config with peers }) ∧
    (∀ text result, config.withEnvironment (soleVariable "REPLISUM_PEERS" text) = .ok result ↔
      ∃ peers, Peer.Lists text.toList peers ∧ { config with peers } = result) ∧
    ∀ lookup text result, lookup "REPLISUM_PEERS" = some text →
      config.withEnvironment lookup = .ok result → Peer.Lists text.toList result.peers := by
  refine ⟨fun items peers writes => ?_, fun text result => ?_, fun _ _ _ => lists_of_withEnvironment⟩
  · rw [withEnvironment_soleVariable, String.toList_ofList, Peer.parseList_eq_ok_iff.2 writes.lists]
    rfl
  · rw [withEnvironment_soleVariable]
    simp only [← Peer.parseList_eq_ok_iff]
    cases Peer.parseList text.toList <;> simp [Except.map]

/-- One node at two addresses, with blanks around them and items that are blank. -/
theorem peers_from_environment_padded :
    ∃ items, Peer.Writes items
        [⟨3, .v4 ⟨127, 0, 0, 1⟩ 6002⟩, ⟨3, .v6 ⟨0xFE80, 0, 0, 0, 0, 0, 0, 1⟩ 7002 0 4⟩] ∧
      String.ofList ([','].intercalate items) = " 3@127.0.0.1:6002,,\t3@[fe80::1%4]:7002 , " ∧
      empty.withEnvironment
          (soleVariable "REPLISUM_PEERS" " 3@127.0.0.1:6002,,\t3@[fe80::1%4]:7002 , ") =
        .ok { empty with
          peers := [⟨3, .v4 ⟨127, 0, 0, 1⟩ 6002⟩,
            ⟨3, .v6 ⟨0xFE80, 0, 0, 0, 0, 0, 0, 1⟩ 7002 0 4⟩] } ∧
      Peer.Lists " 3@127.0.0.1:6002,,\t3@[fe80::1%4]:7002 , ".toList
        [⟨3, .v4 ⟨127, 0, 0, 1⟩ 6002⟩, ⟨3, .v6 ⟨0xFE80, 0, 0, 0, 0, 0, 0, 1⟩ 7002 0 4⟩] := by
  obtain ⟨items, writes, text⟩ : ∃ items, Peer.Writes items
        [⟨3, .v4 ⟨127, 0, 0, 1⟩ 6002⟩, ⟨3, .v6 ⟨0xFE80, 0, 0, 0, 0, 0, 0, 1⟩ 7002 0 4⟩] ∧
      String.ofList ([','].intercalate items) = " 3@127.0.0.1:6002,,\t3@[fe80::1%4]:7002 , " :=
    ⟨_, .peer [' '] _ [] (by decide) (by decide) rfl
      (.blank [] (by decide)
        (.peer ['\t'] _ [' '] (by decide) (by decide) rfl
          (.blank [' '] (by decide) .nil))), rfl⟩
  refine ⟨items, writes, text, ?_⟩
  rw [← text]
  obtain ⟨reads, -, lists⟩ := peers_from_environment empty
  exact ⟨reads items _ writes, lists _ _ _ (if_pos rfl) (reads items _ writes)⟩

end ServerConfig

end SumCluster
