import Mathlib.Algebra.Group.Nat.Defs
import SumCluster.Wire.Layout

/-!
# Layouts are exact

A layout is exact (`Wire.Layout.Exact`) if it reads a value off a sequence of bytes just when the
sequence begins with that value as it is written, and the value survives the way: nothing else is
accepted, and nothing that was written is refused.  The ways to make a layout out of others keep
this, up to a line of a table of nodes (`Wire.Layout.exact_entry`), whose address must not have a
scope or a flow label to lose.
-/

namespace SumCluster

/-- One step after another succeeds if both do. -/
theorem bind_eq_ok_iff {ε α β : Type} {step : Except ε α} {next : α → Except ε β} {b : β} :
    (step >>= next) = .ok b ↔ ∃ a, step = .ok a ∧ next a = .ok b := by
  cases step <;> simp [bind, Except.bind]

namespace Wire

/-! ## Words -/

@[simp] theorem length_writeWord (width n : Nat) : (writeWord width n).length = width := by
  induction width generalizing n with
  | zero => rfl
  | succ width ih => simp [writeWord, ih]

theorem wordOf_lt (bytes : Bytes) : wordOf bytes < 256 ^ bytes.length := by
  induction bytes with
  | nil => simp [wordOf]
  | cons byte rest ih =>
    have small : byte.toNat < 256 := byte.toNat_lt
    rw [wordOf, List.length_cons, Nat.pow_succ]
    omega

theorem wordOf_writeWord {width n : Nat} (fits : n < 256 ^ width) :
    wordOf (writeWord width n) = n := by
  induction width generalizing n with
  | zero =>
    simp only [Nat.pow_zero, Nat.lt_one_iff] at fits
    simp [writeWord, wordOf, fits]
  | succ width ih =>
    rw [Nat.pow_succ] at fits
    rw [writeWord, wordOf, ih (by omega), UInt8.toNat_ofNat']
    omega

theorem writeWord_wordOf (bytes : Bytes) : writeWord bytes.length (wordOf bytes) = bytes := by
  induction bytes with
  | nil => rfl
  | cons byte rest ih =>
    have small : byte.toNat < 256 := byte.toNat_lt
    have low : UInt8.ofNat (byte.toNat + 256 * wordOf rest) = byte := by
      apply UInt8.toNat_inj.1
      rw [UInt8.toNat_ofNat']
      omega
    have high : (byte.toNat + 256 * wordOf rest) / 256 = wordOf rest := by omega
    rw [List.length_cons, wordOf, writeWord, low, high, ih]

/-- As many bytes are known by their number. -/
theorem wordOf_inj {bytes bytes' : Bytes} (length : bytes.length = bytes'.length) :
    wordOf bytes = wordOf bytes' ↔ bytes = bytes' := by
  refine ⟨fun same => ?_, fun same => same ▸ rfl⟩
  rw [← writeWord_wordOf bytes, ← writeWord_wordOf bytes', length, same]

theorem readWord_eq_ok_iff {width n : Nat} {bytes rest : Bytes} :
    readWord width bytes = .ok (n, rest) ↔
      n < 256 ^ width ∧ bytes = writeWord width n ++ rest := by
  unfold readWord
  simp only
  split
  · rename_i short
    refine ⟨nofun, fun ⟨_, same⟩ => ?_⟩
    rw [same, List.take_append_of_le_length (by simp)] at short
    simp at short
  · rename_i long
    have length : (bytes.take width).length = width := by
      rw [List.length_take] at long ⊢
      omega
    simp only [Except.ok.injEq, Prod.mk.injEq]
    constructor
    · rintro ⟨rfl, rfl⟩
      have small := wordOf_lt (bytes.take width)
      have written := writeWord_wordOf (bytes.take width)
      rw [length] at small written
      exact ⟨small, by rw [written, List.take_append_drop]⟩
    · rintro ⟨small, rfl⟩
      have front : (writeWord width n ++ rest).take width = writeWord width n := by simp
      rw [front, wordOf_writeWord small]
      simp

/-! ## Layouts from layouts -/

namespace Layout

/-- Reading accepts exactly what writing yields, for the values that satisfy a predicate. -/
def Exact {α : Type} (layout : Layout α) (P : α → Prop) : Prop :=
  ∀ bytes a rest, layout.read bytes = .ok (a, rest) ↔ P a ∧ bytes = layout.write a ++ rest

variable {α β : Type} {P : α → Prop} {Q : β → Prop}

theorem Exact.congr {layout : Layout α} (exact : layout.Exact P) {P' : α → Prop}
    (same : ∀ a, P a ↔ P' a) : layout.Exact P' := by
  intro bytes a rest
  rw [exact, same]

theorem map_eq_ok_iff {f : α → β} {reader : Reader α} {bytes rest : Bytes} {b : β} :
    reader.map f bytes = .ok (b, rest) ↔ ∃ a, reader bytes = .ok (a, rest) ∧ f a = b := by
  unfold Reader.map
  rw [bind_eq_ok_iff]
  constructor
  · rintro ⟨⟨a, rest'⟩, reads, same⟩
    obtain ⟨rfl, rfl⟩ := Prod.mk.inj (Except.ok.inj same)
    exact ⟨a, reads, rfl⟩
  · rintro ⟨a, reads, rfl⟩
    exact ⟨(a, rest), reads, rfl⟩

theorem Exact.via {layout : Layout β} (exact : layout.Exact Q) {into : α → β} {back : β → α}
    (returns : ∀ a, back (into a) = a) (arrives : ∀ b, Q b → into (back b) = b) :
    (layout.via into back).Exact fun a => Q (into a) := by
  intro bytes a rest
  refine map_eq_ok_iff.trans ⟨?_, ?_⟩
  · rintro ⟨b, reads, rfl⟩
    obtain ⟨holds, same⟩ := (exact bytes b rest).1 reads
    simp only [Layout.via, arrives b holds]
    exact ⟨holds, same⟩
  · rintro ⟨holds, same⟩
    exact ⟨into a, (exact bytes (into a) rest).2 ⟨holds, same⟩, returns a⟩

theorem Exact.pair {first : Layout α} {second : Layout β} (exact : first.Exact P)
    (exact' : second.Exact Q) : (first.pair second).Exact fun p => P p.1 ∧ Q p.2 := by
  rintro bytes ⟨a, b⟩ rest
  refine bind_eq_ok_iff.trans ⟨?_, ?_⟩
  · rintro ⟨⟨a', middle⟩, reads, goesOn⟩
    obtain ⟨⟨b', rest'⟩, reads', same⟩ := bind_eq_ok_iff.1 goesOn
    obtain ⟨both, rfl⟩ := Prod.mk.inj (Except.ok.inj same)
    obtain ⟨rfl, rfl⟩ := Prod.mk.inj both
    obtain ⟨holds, rfl⟩ := (exact _ _ _).1 reads
    obtain ⟨holds', rfl⟩ := (exact' _ _ _).1 reads'
    exact ⟨⟨holds, holds'⟩, (List.append_assoc ..).symm⟩
  · rintro ⟨⟨holds, holds'⟩, rfl⟩
    refine ⟨(a, second.write b ++ rest), (exact _ _ _).2 ⟨holds, List.append_assoc ..⟩, ?_⟩
    exact bind_eq_ok_iff.2 ⟨(b, rest), (exact' _ _ _).2 ⟨holds', rfl⟩, rfl⟩

theorem exact_word (width : Nat) : (word width).Exact fun n => n < 256 ^ width :=
  fun _ _ _ => readWord_eq_ok_iff

theorem readMany_eq_ok_iff {layout : Layout α} (exact : layout.Exact P) {count : Nat}
    {bytes rest : Bytes} {as : List α} :
    readMany layout count bytes = .ok (as, rest) ↔
      as.length = count ∧ (∀ a ∈ as, P a) ∧ bytes = as.flatMap layout.write ++ rest := by
  induction count generalizing bytes as with
  | zero =>
    rw [readMany, Except.ok.injEq, Prod.mk.injEq, List.length_eq_zero_iff]
    constructor
    · rintro ⟨rfl, rfl⟩
      exact ⟨rfl, nofun, rfl⟩
    · rintro ⟨rfl, -, rfl⟩
      exact ⟨rfl, rfl⟩
  | succ count ih =>
    rw [readMany]
    refine bind_eq_ok_iff.trans ⟨?_, ?_⟩
    · rintro ⟨⟨a, middle⟩, reads, goesOn⟩
      obtain ⟨⟨others, rest'⟩, reads', same⟩ := bind_eq_ok_iff.1 goesOn
      obtain ⟨rfl, rfl⟩ := Prod.mk.inj (Except.ok.inj same)
      obtain ⟨holds, rfl⟩ := (exact _ _ _).1 reads
      obtain ⟨rfl, all, rfl⟩ := ih.1 reads'
      exact ⟨rfl, List.forall_mem_cons.2 ⟨holds, all⟩, by simp⟩
    · rintro ⟨length, all, rfl⟩
      obtain ⟨a, others, rfl⟩ := List.exists_cons_of_length_eq_add_one length
      obtain ⟨holds, all⟩ := List.forall_mem_cons.1 all
      refine ⟨(a, others.flatMap layout.write ++ rest),
        (exact _ _ _).2 ⟨holds, by simp⟩, bind_eq_ok_iff.2 ⟨(others, rest), ?_, rfl⟩⟩
      exact ih.2 ⟨Nat.succ.inj length, all, rfl⟩

theorem Exact.list {layout : Layout α} (exact : layout.Exact P) :
    layout.list.Exact fun as => as.length < 256 ^ 8 ∧ ∀ a ∈ as, P a := by
  intro bytes as rest
  refine bind_eq_ok_iff.trans ⟨?_, ?_⟩
  · rintro ⟨⟨count, middle⟩, reads, reads'⟩
    obtain ⟨small, rfl⟩ := readWord_eq_ok_iff.1 reads
    obtain ⟨rfl, all, rfl⟩ := (readMany_eq_ok_iff exact).1 reads'
    exact ⟨⟨small, all⟩, (List.append_assoc ..).symm⟩
  · rintro ⟨⟨small, all⟩, rfl⟩
    refine ⟨(as.length, as.flatMap layout.write ++ rest),
      readWord_eq_ok_iff.2 ⟨small, List.append_assoc ..⟩, ?_⟩
    exact (readMany_eq_ok_iff exact).2 ⟨rfl, all, rfl⟩

theorem Exact.option {layout : Layout α} (exact : layout.Exact P) :
    layout.option.Exact fun o => ∀ a ∈ o, P a := by
  intro bytes o rest
  refine bind_eq_ok_iff.trans ⟨?_, ?_⟩
  · rintro ⟨⟨n, middle⟩, reads, goesOn⟩
    obtain ⟨-, rfl⟩ := readWord_eq_ok_iff.1 reads
    simp only at goesOn
    split at goesOn
    · obtain ⟨rfl, rfl⟩ := Prod.mk.inj (Except.ok.inj goesOn)
      exact ⟨nofun, rfl⟩
    · obtain ⟨⟨a, rest'⟩, reads', same⟩ := bind_eq_ok_iff.1 goesOn
      obtain ⟨rfl, rfl⟩ := Prod.mk.inj (Except.ok.inj same)
      obtain ⟨holds, rfl⟩ := (exact _ _ _).1 reads'
      exact ⟨fun a' same => Option.some.inj same ▸ holds, rfl⟩
    · exact nomatch goesOn
  · rintro ⟨holds, rfl⟩
    cases o with
    | none => exact ⟨(0, rest), readWord_eq_ok_iff.2 ⟨by decide, rfl⟩, rfl⟩
    | some a =>
      refine ⟨(1, layout.write a ++ rest), readWord_eq_ok_iff.2 ⟨by decide, rfl⟩, ?_⟩
      exact bind_eq_ok_iff.2 ⟨(a, rest), (exact _ _ _).2 ⟨holds a rfl, rfl⟩, rfl⟩

/-! ## Fields -/

theorem exact_byte : byte.Exact fun _ => True :=
  ((exact_word 1).via (fun _ => UInt8.ofNat_toNat) fun _ small =>
    UInt8.toNat_ofNat_of_lt' small).congr fun a => iff_true_intro a.toNat_lt

theorem exact_word16 : word16.Exact fun _ => True :=
  ((exact_word 2).via (fun _ => UInt16.ofNat_toNat) fun _ small =>
    UInt16.toNat_ofNat_of_lt' small).congr fun a => iff_true_intro a.toNat_lt

theorem exact_word32 : word32.Exact fun _ => True :=
  ((exact_word 4).via (fun _ => UInt32.ofNat_toNat) fun _ small =>
    UInt32.toNat_ofNat_of_lt' small).congr fun a => iff_true_intro a.toNat_lt

theorem exact_word64 : word64.Exact fun _ => True :=
  ((exact_word 8).via (fun _ => UInt64.ofNat_toNat) fun _ small =>
    UInt64.toNat_ofNat_of_lt' small).congr fun a => iff_true_intro a.toNat_lt

theorem exact_int64 : int64.Exact fun _ => True :=
  exact_word64.via (fun _ => Int64.toInt64_toUInt64 _) fun _ _ => UInt64.toUInt64_toInt64 _

theorem exact_bool : bool.Exact fun _ => True := by
  intro bytes b rest
  refine bind_eq_ok_iff.trans ⟨?_, ?_⟩
  · rintro ⟨⟨n, middle⟩, reads, goesOn⟩
    obtain ⟨-, rfl⟩ := readWord_eq_ok_iff.1 reads
    simp only at goesOn
    split at goesOn
    · obtain ⟨rfl, rfl⟩ := Prod.mk.inj (Except.ok.inj goesOn)
      exact ⟨trivial, rfl⟩
    · obtain ⟨rfl, rfl⟩ := Prod.mk.inj (Except.ok.inj goesOn)
      exact ⟨trivial, rfl⟩
    · exact nomatch goesOn
  · rintro ⟨-, rfl⟩
    cases b with
    | false => exact ⟨(0, rest), readWord_eq_ok_iff.2 ⟨by decide, rfl⟩, rfl⟩
    | true => exact ⟨(1, rest), readWord_eq_ok_iff.2 ⟨by decide, rfl⟩, rfl⟩

theorem exact_ipv4 : ipv4.Exact fun _ => True :=
  ((exact_byte.pair (exact_byte.pair (exact_byte.pair exact_byte))).via (fun _ => rfl)
    fun _ _ => rfl).congr fun _ => by simp

theorem joinOctets_octets (group : UInt16) :
    joinOctets (highOctet group) (lowOctet group) = group := by
  have small := group.toNat_lt
  apply UInt16.toNat_inj.1
  simp only [joinOctets, highOctet, lowOctet, UInt16.toNat_ofNat', UInt8.toNat_ofNat']
  omega

theorem highOctet_joinOctets (high low : UInt8) : highOctet (joinOctets high low) = high := by
  have := high.toNat_lt
  have := low.toNat_lt
  apply UInt8.toNat_inj.1
  simp only [joinOctets, highOctet, UInt16.toNat_ofNat', UInt8.toNat_ofNat']
  omega

theorem lowOctet_joinOctets (high low : UInt8) : lowOctet (joinOctets high low) = low := by
  have := high.toNat_lt
  have := low.toNat_lt
  apply UInt8.toNat_inj.1
  simp only [joinOctets, lowOctet, UInt16.toNat_ofNat', UInt8.toNat_ofNat']
  omega

theorem exact_group : group.Exact fun _ => True :=
  ((exact_byte.pair exact_byte).via joinOctets_octets fun (high, low) _ =>
    Prod.ext (highOctet_joinOctets high low) (lowOctet_joinOctets high low)).congr
    fun _ => by simp

theorem exact_ipv6 : ipv6.Exact fun _ => True :=
  ((exact_group.pair (exact_group.pair (exact_group.pair (exact_group.pair (exact_group.pair
    (exact_group.pair (exact_group.pair exact_group))))))).via (fun _ => rfl)
    fun _ _ => rfl).congr fun _ => by simp

/-- An address arrives as it was written if it has no scope and no flow label. -/
theorem exact_address : address.Exact Address.IsBare := by
  intro bytes a rest
  refine bind_eq_ok_iff.trans ⟨?_, ?_⟩
  · rintro ⟨⟨family, middle⟩, reads, goesOn⟩
    obtain ⟨-, rfl⟩ := readWord_eq_ok_iff.1 reads
    simp only at goesOn
    split at goesOn
    · obtain ⟨⟨ip, middle⟩, reads_ip, goesOn⟩ := bind_eq_ok_iff.1 goesOn
      obtain ⟨⟨port, rest'⟩, reads_port, same⟩ := bind_eq_ok_iff.1 goesOn
      obtain ⟨rfl, rfl⟩ := Prod.mk.inj (Except.ok.inj same)
      obtain ⟨-, rfl⟩ := (exact_ipv4 _ _ _).1 reads_ip
      obtain ⟨-, rfl⟩ := (exact_word16 _ _ _).1 reads_port
      exact ⟨rfl, by simp [address]⟩
    · obtain ⟨⟨ip, middle⟩, reads_ip, goesOn⟩ := bind_eq_ok_iff.1 goesOn
      obtain ⟨⟨port, rest'⟩, reads_port, same⟩ := bind_eq_ok_iff.1 goesOn
      obtain ⟨rfl, rfl⟩ := Prod.mk.inj (Except.ok.inj same)
      obtain ⟨-, rfl⟩ := (exact_ipv6 _ _ _).1 reads_ip
      obtain ⟨-, rfl⟩ := (exact_word16 _ _ _).1 reads_port
      exact ⟨rfl, by simp [address]⟩
    · exact nomatch goesOn
  · rintro ⟨bare, rfl⟩
    cases a with
    | v4 ip port =>
      refine ⟨(0, ipv4.write ip ++ (word16.write port ++ rest)),
        readWord_eq_ok_iff.2 ⟨by decide, by simp [address]⟩, ?_⟩
      refine bind_eq_ok_iff.2 ⟨_, (exact_ipv4 _ ip _).2 ⟨trivial, rfl⟩, ?_⟩
      exact bind_eq_ok_iff.2 ⟨_, (exact_word16 _ port _).2 ⟨trivial, rfl⟩, rfl⟩
    | v6 ip port flow scope =>
      obtain ⟨-, -, rfl, rfl⟩ := Address.v6.inj bare
      refine ⟨(1, ipv6.write ip ++ (word16.write port ++ rest)),
        readWord_eq_ok_iff.2 ⟨by decide, by simp [address]⟩, ?_⟩
      refine bind_eq_ok_iff.2 ⟨_, (exact_ipv6 _ ip _).2 ⟨trivial, rfl⟩, ?_⟩
      exact bind_eq_ok_iff.2 ⟨_, (exact_word16 _ port _).2 ⟨trivial, rfl⟩, rfl⟩

theorem exact_entry : entry.Exact fun entry => entry.address.IsBare :=
  ((exact_word32.pair (exact_address.pair (exact_bool.pair exact_word64))).via (fun _ => rfl)
    fun _ _ => rfl).congr fun _ => by simp

end Layout

end Wire

end SumCluster
