import Mathlib.Data.List.TakeWhile
import Mathlib.Tactic.IntervalCases
import SumCluster.Address.Parser
import SumCluster.Address.Printer
import SumCluster.Proofs.Text.Numeral
import SumCluster.Proofs.Wire.Layout

/-!
# Addresses that are read back

An address that is printed is read back, but for a flow label, which has no text
(`Address.parse?_render`).  Of what follows a number or an IP address in a text only the beginning
counts: it must not go on with it (`Numeral.Stops`, `IPv6.Ends`).
-/

namespace SumCluster

/-! ## Numbers inside an address -/

/-- A text that does not begin with a digit. -/
def Numeral.Stops (base : Nat) (rest : List Char) : Prop :=
  ∀ c ∈ rest.head?, digit? base c = none

/-- A decimal digit is a hexadecimal one. -/
theorem Numeral.isSome_digit?_sixteen {c : Char} (decimal : (digit? 10 c).isSome = true) :
    (digit? 16 c).isSome = true := by
  unfold digit? at decimal ⊢
  by_cases digit : '0' ≤ c ∧ c ≤ '9'
  · simp only [if_pos digit] at decimal ⊢
    split at decimal
    · rename_i small
      rw [if_pos (Nat.lt_trans small (by decide))]
      rfl
    · exact nomatch decimal
  · -- letters count from ten
    have large : ¬(if 'a' ≤ c ∧ c ≤ 'f' then c.toNat - 'a'.toNat + 10
        else if 'A' ≤ c ∧ c ≤ 'F' then c.toNat - 'A'.toNat + 10 else 10) < 10 := by
      split
      · omega
      · split <;> omega
    simp only [if_neg digit, if_neg large] at decimal
    exact nomatch decimal

theorem Numeral.Stops.decimal {rest : List Char} (stops : Stops 16 rest) : Stops 10 rest := by
  intro c first
  cases digit : digit? 10 c with
  | none => rfl
  | some d =>
    have hex := isSome_digit?_sixteen (c := c) (by rw [digit]; rfl)
    rw [stops c first] at hex
    exact nomatch hex

namespace NumberForm

/-- Every number within the bound can be written. -/
structure IsSound (form : NumberForm) : Prop where
  large : 1 < form.base
  small : form.base ≤ 16
  room : ∀ most ∈ form.maxDigits, 0 < most ∧ form.bound < form.base ^ most

theorem isSound_octet : octet.IsSound := ⟨by decide, by decide, by decide⟩

theorem isSound_group : group.IsSound := ⟨by decide, by decide, by decide⟩

theorem isSound_port : port.IsSound := ⟨by decide, by decide, nofun⟩

theorem isSound_scope : scope.IsSound := ⟨by decide, by decide, nofun⟩

variable {form : NumberForm} {n : Nat} {rest : List Char}

theorem takeWhile_digits {digits : List Char}
    (all : ∀ c ∈ digits, (Numeral.digit? form.base c).isSome = true)
    (stops : Numeral.Stops form.base rest) :
    (digits ++ rest).takeWhile (fun c => (Numeral.digit? form.base c).isSome) = digits ∧
      (digits ++ rest).dropWhile (fun c => (Numeral.digit? form.base c).isSome) = rest := by
  rw [List.takeWhile_append_of_pos all, List.dropWhile_append_of_pos all]
  cases rest with
  | nil => simp
  | cons c rest => simp [stops c rfl]

theorem tooLong_toDigits (sound : form.IsSound) (fits : n ≤ form.bound) :
    form.tooLong (Nat.toDigits form.base n).length = false := by
  unfold tooLong
  split
  · rfl
  · rename_i most limited
    obtain ⟨pos, room⟩ := sound.room most limited
    have short := (Nat.length_toDigits_le_iff sound.large pos).2 (Nat.lt_of_le_of_lt fits room)
    exact decide_eq_false (Nat.not_lt.2 short)

theorem scan_toDigits (sound : form.IsSound) (fits : n ≤ form.bound)
    (stops : Numeral.Stops form.base rest) :
    form.scan (Nat.toDigits form.base n ++ rest) = some (n, rest) := by
  obtain ⟨digits, left⟩ := takeWhile_digits
    (fun c => Numeral.isSome_digit?_of_mem_toDigits sound.large sound.small (n := n)) stops
  have value := Numeral.valueOf_toDigits sound.large sound.small n
  unfold Numeral.valueOf at value
  unfold scan
  have filled : (Nat.toDigits form.base n).isEmpty = false :=
    List.isEmpty_eq_false_iff.2 Nat.toDigits_ne_nil
  have plain : (!form.leadingZeros && (Nat.toDigits form.base n).head? == some '0' &&
      decide (1 < (Nat.toDigits form.base n).length)) = false := by
    rcases Nat.eq_zero_or_pos n with rfl | pos
    · simp [Nat.toDigits_zero]
    · simp [Numeral.head?_toDigits_ne sound.large sound.small pos]
  simp only [digits, left, value, filled, tooLong_toDigits sound fits, plain, Bool.or_self,
    Bool.false_eq_true, if_false, if_neg (Nat.not_lt.2 fits)]

theorem scan_of_stops (stops : Numeral.Stops form.base rest) : form.scan rest = none := by
  obtain ⟨digits, -⟩ := @takeWhile_digits form rest [] nofun stops
  rw [List.nil_append] at digits
  unfold scan
  simp [digits]

/-- Nothing but digits is taken off. -/
theorem rest_of_scan {cs : List Char} (scans : form.scan cs = some (n, rest)) :
    rest = cs.dropWhile fun c => (Numeral.digit? form.base c).isSome := by
  unfold scan at scans
  simp only at scans
  split at scans
  · exact nomatch scans
  · split at scans
    · exact nomatch scans
    · split at scans
      · exact nomatch scans
      · exact (Prod.mk.inj (Option.some.inj scans)).2.symm

end NumberForm

@[simp] theorem skip_cons (c : Char) (rest : List Char) : skip c (c :: rest) = some rest :=
  if_pos rfl

theorem skip_of_head?_ne {c : Char} {cs : List Char} (other : cs.head? ≠ some c) :
    skip c cs = none := by
  cases cs with
  | nil => rfl
  | cons d rest => exact if_neg fun same => other (congrArg some same)

/-! ## IPv4 addresses -/

namespace IPv4

variable {rest : List Char}

theorem scan_octet (octet : UInt8) (stops : Numeral.Stops 10 rest) :
    NumberForm.octet.scan (Numeral.render octet.toNat ++ rest) = some (octet.toNat, rest) :=
  NumberForm.scan_toDigits NumberForm.isSound_octet (Nat.le_of_lt_succ octet.toNat_lt) stops

theorem stops_dot : Numeral.Stops 10 ('.' :: rest) := by
  rintro _ ⟨⟩
  decide

theorem scan_render (ip : IPv4) (stops : Numeral.Stops 10 rest) :
    scan (ip.render ++ rest) = some (ip, rest) := by
  have text : ip.render ++ rest = Numeral.render ip.a.toNat ++ '.' ::
      (Numeral.render ip.b.toNat ++ '.' :: (Numeral.render ip.c.toNat ++ '.' ::
        (Numeral.render ip.d.toNat ++ rest))) := by
    simp [render, octets, List.intercalate]
  unfold scan
  rw [text, scan_octet ip.a stops_dot]
  simp only [Option.bind_eq_bind, Option.bind_some, skip_cons]
  rw [scan_octet ip.b stops_dot]
  simp only [Option.bind_some, skip_cons]
  rw [scan_octet ip.c stops_dot]
  simp only [Option.bind_some, skip_cons]
  rw [scan_octet ip.d stops]
  simp

end IPv4

/-! ## Groups of IPv6 addresses -/

namespace IPv6

/-- The text of a group. -/
def groupText (group : UInt16) : List Char :=
  Nat.toDigits 16 group.toNat

/-- The text of groups that follow others. -/
def follow (groups : List UInt16) : List Char :=
  groups.flatMap fun group => ':' :: groupText group

@[simp] theorem follow_cons (group : UInt16) (groups : List UInt16) :
    follow (group :: groups) = ':' :: (groupText group ++ follow groups) := rfl

theorem renderGroups_cons (group : UInt16) (groups : List UInt16) :
    renderGroups (group :: groups) = groupText group ++ follow groups := by
  induction groups generalizing group with
  | nil => simp [renderGroups, follow, groupText, List.intercalate]
  | cons next rest ih =>
    rw [follow_cons, ← ih]
    simp [renderGroups, groupText, List.intercalate]

/-- A text that no group goes on in: it begins neither with a digit nor with a dot, and no digit
follows a colon at its beginning. -/
structure Ends (rest : List Char) : Prop where
  stops : Numeral.Stops 16 rest
  noDot : rest.head? ≠ some '.'
  noGroup : ∀ tail, rest = ':' :: tail → Numeral.Stops 16 tail

variable {rest : List Char} {first : Bool} {group : UInt16}

theorem scan_group (stops : Numeral.Stops 16 rest) :
    NumberForm.group.scan (groupText group ++ rest) = some (group.toNat, rest) :=
  NumberForm.scan_toDigits NumberForm.isSound_group (Nat.le_of_lt_succ group.toNat_lt) stops

theorem dot_not_mem_groupText : '.' ∉ groupText group := fun mem =>
  absurd (Numeral.isSome_digit?_of_mem_toDigits (by decide) (by decide) mem) (by decide)

theorem head?_dropWhile_ne_dot {p : Char → Bool} {digits : List Char} (dotless : '.' ∉ digits)
    (stops : ∀ c ∈ rest.head?, p c = false) (noDot : rest.head? ≠ some '.') :
    ((digits ++ rest).dropWhile p).head? ≠ some '.' := by
  induction digits with
  | nil =>
    cases rest with
    | nil => nofun
    | cons c rest => rwa [List.nil_append, List.dropWhile_cons_of_neg (by simp [stops c rfl])]
  | cons c digits ih =>
    rw [List.cons_append, List.dropWhile_cons]
    split
    · exact ih (List.not_mem_of_not_mem_cons dotless)
    · rintro ⟨⟩
      exact dotless (List.mem_cons_self ..)

/-- What is written as a group is not taken for an IPv4 address. -/
theorem scan_ipv4_of_group (stops : Numeral.Stops 16 rest) (noDot : rest.head? ≠ some '.') :
    IPv4.scan (groupText group ++ rest) = none := by
  unfold IPv4.scan
  cases scans : NumberForm.octet.scan (groupText group ++ rest) with
  | none => rfl
  | some read =>
    obtain ⟨octet, left⟩ := read
    have dotless : left.head? ≠ some '.' := by
      rw [NumberForm.rest_of_scan scans]
      refine head?_dropWhile_ne_dot dot_not_mem_groupText (fun c mem => ?_) noDot
      rw [show NumberForm.octet.base = 10 from rfl, stops.decimal c mem]
      rfl
    simp [skip_of_head?_ne dotless]

theorem scan_ipv4_of_stops (stops : Numeral.Stops 16 rest) : IPv4.scan rest = none := by
  unfold IPv4.scan
  rw [@NumberForm.scan_of_stops .octet _ stops.decimal]
  rfl

theorem scanPart_of_ends {α : Type} {part : Scan α} (ends : Ends rest)
    (fails : ∀ cs, Numeral.Stops 16 cs → part cs = none) : scanPart first part rest = none := by
  unfold scanPart
  split
  · exact fails rest ends.stops
  · cases rest with
    | nil => rfl
    | cons c tail =>
      by_cases colon : c = ':'
      · rw [colon, skip_cons]
        exact fails tail (ends.noGroup tail (congrArg (· :: tail) colon))
      · have none : skip ':' (c :: tail) = none :=
          skip_of_head?_ne fun same => colon (Option.some.inj same)
        rw [none]
        rfl

theorem scanGroups_of_ends (ends : Ends rest) (room : Nat) :
    scanGroups room first rest = ([], false, rest) := by
  cases room with
  | zero => rfl
  | succ room =>
    rw [scanGroups, scanPart_of_ends ends fun _ stops => scan_ipv4_of_stops stops,
      scanPart_of_ends ends fun _ stops => NumberForm.scan_of_stops stops, ite_self]

/-- What separates a part from what is before it. -/
def lead (first : Bool) : List Char :=
  if first then [] else [':']

theorem scanPart_lead {α : Type} (part : Scan α) (cs : List Char) :
    scanPart first part (lead first ++ cs) = part cs := by
  cases first <;> simp [scanPart, lead]

theorem scanGroups_group {room : Nat} (stops : Numeral.Stops 16 rest)
    (noDot : rest.head? ≠ some '.') :
    scanGroups (room + 1) first (lead first ++ (groupText group ++ rest)) =
      (group :: (scanGroups room false rest).1, (scanGroups room false rest).2) := by
  rw [scanGroups, scanPart_lead, scanPart_lead, scan_ipv4_of_group stops noDot, scan_group stops,
    ite_self]
  simp

theorem stops_follow {groups : List UInt16} (ends : Ends rest) :
    Numeral.Stops 16 (follow groups ++ rest) ∧ (follow groups ++ rest).head? ≠ some '.' := by
  cases groups with
  | nil => exact ⟨ends.stops, ends.noDot⟩
  | cons group groups =>
    refine ⟨?_, by simp⟩
    rintro _ ⟨⟩
    decide

theorem scanGroups_follow {groups : List UInt16} {room : Nat} (fits : groups.length ≤ room)
    (ends : Ends rest) : scanGroups room false (follow groups ++ rest) = (groups, false, rest) := by
  induction groups generalizing room with
  | nil => exact scanGroups_of_ends ends room
  | cons group groups ih =>
    obtain ⟨room, rfl⟩ := Nat.exists_eq_add_of_le' (Nat.lt_of_lt_of_le (Nat.succ_pos _) fits)
    obtain ⟨stops, noDot⟩ := @stops_follow rest groups ends
    have step := @scanGroups_group _ false group room stops noDot
    rw [ih (Nat.le_of_succ_le_succ fits)] at step
    simpa [lead] using step

/-- Groups are read back, whatever follows. -/
theorem scanGroups_renderGroups {groups : List UInt16} {room : Nat} (fits : groups.length ≤ room)
    (ends : Ends rest) :
    scanGroups room true (renderGroups groups ++ rest) = (groups, false, rest) := by
  cases groups with
  | nil => exact scanGroups_of_ends ends room
  | cons group groups =>
    obtain ⟨room, rfl⟩ := Nat.exists_eq_add_of_le' (Nat.lt_of_lt_of_le (Nat.succ_pos _) fits)
    obtain ⟨stops, noDot⟩ := @stops_follow rest groups ends
    have step := @scanGroups_group _ true group room stops noDot
    rw [scanGroups_follow (Nat.le_of_succ_le_succ fits) ends] at step
    rwa [renderGroups_cons, List.append_assoc]

/-! ## IPv6 addresses -/

@[simp] theorem ofGroups?_groups (ip : IPv6) : ofGroups? ip.groups = some ip := rfl

theorem length_groups (ip : IPv6) : ip.groups.length = 8 := rfl

theorem scan_of_groups {ip : IPv6} {cs : List Char} {ended : Bool}
    (scans : scanGroups 8 true cs = (ip.groups, ended, rest)) : scan cs = some (ip, rest) := by
  unfold scan
  rw [scans]
  simp [length_groups]

theorem scan_of_gap {ip : IPv6} {cs more : List Char} {head tail : List UInt16} {ended : Bool}
    (begins : scanGroups 8 true cs = (head, false, ':' :: ':' :: more)) (gap : head.length ≠ 8)
    (goesOn : scanGroups (7 - head.length) true more = (tail, ended, rest))
    (whole : head ++ List.replicate (8 - head.length - tail.length) 0 ++ tail = ip.groups) :
    scan cs = some (ip, rest) := by
  unfold scan
  rw [begins]
  simp only [gap, if_false, Bool.false_eq_true, skip_cons, Option.bind_eq_bind, Option.bind_some,
    goesOn, whole, ofGroups?_groups]
  rfl

theorem ends_gap (more : List Char) : Ends (':' :: ':' :: more) where
  stops := by
    rintro _ ⟨⟩
    decide
  noDot := by simp
  noGroup := by
    rintro _ ⟨⟩ _ ⟨⟩
    decide

theorem replicate_leadingZeros (groups : List UInt16) :
    List.replicate (leadingZeros groups) 0 ++ groups.drop (leadingZeros groups) = groups := by
  have zeros : groups.takeWhile (· == 0) = List.replicate (leadingZeros groups) 0 := by
    refine List.eq_replicate_iff.2 ⟨rfl, fun group mem => ?_⟩
    exact eq_of_beq (@List.mem_takeWhile_imp _ (· == 0) _ _ mem)
  have others : groups.drop (leadingZeros groups) = groups.dropWhile (· == 0) := by
    calc groups.drop (leadingZeros groups)
        = (groups.takeWhile (· == 0) ++ groups.dropWhile (· == 0)).drop
            (groups.takeWhile (· == 0)).length := by
          rw [List.takeWhile_append_dropWhile]
          rfl
      _ = groups.dropWhile (· == 0) := List.drop_left
  rw [← zeros, others, List.takeWhile_append_dropWhile]

/-- Groups are those in front of the longest run of zeros, the run, and those after it. -/
theorem longestRun_split (groups : List UInt16) (start : Nat) :
    ∃ before, longestRun start groups = (start + before, (longestRun start groups).2) ∧
      groups.take before ++ List.replicate (longestRun start groups).2 0 ++
        groups.drop (before + (longestRun start groups).2) = groups := by
  induction groups generalizing start with
  | nil => exact ⟨0, rfl, rfl⟩
  | cons group rest ih =>
    unfold longestRun
    simp only
    split
    · refine ⟨0, rfl, ?_⟩
      rw [List.take_zero, List.nil_append, Nat.zero_add, replicate_leadingZeros]
    · obtain ⟨before, place, split⟩ := ih (start + 1)
      refine ⟨before + 1, Prod.ext (by rw [place]; omega) rfl, ?_⟩
      rw [Nat.add_right_comm, List.take_succ_cons, List.drop_succ_cons, List.cons_append,
        List.cons_append, split]

/-- An address that stands for an IPv4 address is made of zeros, a group of ones, and that one. -/
theorem groups_of_mapped? {ip : IPv6} {inner : IPv4} (mapped : ip.mapped? = some inner) :
    [] ++ List.replicate 5 0 ++ (0xFFFF :: inner.groups) = ip.groups := by
  unfold mapped? at mapped
  split at mapped
  · rename_i front
    obtain rfl := Option.some.inj mapped
    have back : ip.groups = ip.groups.take 6 ++ [ip.g, ip.h] := rfl
    rw [back, front, IPv4.groups, Wire.Layout.joinOctets_octets,
      Wire.Layout.joinOctets_octets]
    rfl
  · exact nomatch mapped

theorem scanGroups_inner (inner : IPv4) (ends : Ends rest) :
    scanGroups 7 true (groupText 0xFFFF ++ (':' :: (inner.render ++ rest))) =
      (0xFFFF :: inner.groups, true, rest) := by
  have stops : Numeral.Stops 16 (':' :: (inner.render ++ rest)) := by
    rintro _ ⟨⟩
    decide
  have first := @scanGroups_group _ true 0xFFFF 6 stops (by simp)
  have second : scanGroups 6 false (':' :: (inner.render ++ rest)) = (inner.groups, true, rest) := by
    rw [scanGroups, if_pos (by decide)]
    simp [scanPart, IPv4.scan_render inner ends.stops.decimal]
  rwa [second] at first

/-- An IPv6 address is read back, whatever follows. -/
theorem scan_render (ip : IPv6) (ends : Ends rest) : scan (ip.render ++ rest) = some (ip, rest) := by
  unfold render
  split
  · rename_i inner mapped
    have text : "::ffff:".toList ++ inner.render ++ rest =
        ':' :: ':' :: (groupText 0xFFFF ++ (':' :: (inner.render ++ rest))) := rfl
    rw [text]
    exact scan_of_gap (scanGroups_of_ends (ends_gap _) 8) (by decide) (scanGroups_inner inner ends)
      (groups_of_mapped? mapped)
  · obtain ⟨before, place, split⟩ := longestRun_split ip.groups 0
    rw [place, Nat.zero_add]
    simp only
    generalize (longestRun 0 ip.groups).2 = zeros at split
    split
    · exact scan_of_groups (scanGroups_renderGroups (Nat.le_of_eq ip.length_groups) ends)
    · rename_i long
      have total := congrArg List.length split
      simp only [List.length_append, List.length_replicate, List.length_take, List.length_drop,
        length_groups] at total
      have inside : before + zeros ≤ 8 := by omega
      have front : (ip.groups.take before).length = before := by
        rw [List.length_take, length_groups]
        omega
      have back : (ip.groups.drop (before + zeros)).length = 8 - (before + zeros) := by
        rw [List.length_drop, length_groups]
      simp only [List.append_assoc, List.cons_append, List.nil_append]
      refine scan_of_gap (scanGroups_renderGroups (by omega) (ends_gap _)) (by omega)
        (scanGroups_renderGroups (by omega) ends) ?_
      have left : 8 - (ip.groups.take before).length - (ip.groups.drop (before + zeros)).length =
          zeros := by omega
      rw [left, split]

end IPv6

/-! ## Socket addresses -/

namespace Address

/-- The flow label. -/
def flow : Address → UInt32
  | v4 .. => 0
  | v6 _ _ flow _ => flow

theorem scanPort_render (port : UInt16) :
    scanPort (':' :: Numeral.render port.toNat) = some (port, []) := by
  have scans : NumberForm.port.scan (Numeral.render port.toNat ++ []) = some (port.toNat, []) :=
    NumberForm.scan_toDigits NumberForm.isSound_port (Nat.le_of_lt_succ port.toNat_lt) nofun
  rw [List.append_nil] at scans
  simp [scanPort, scans]

theorem scanScope_zone (scope : UInt32) (rest : List Char) :
    scanScope ((if scope = 0 then [] else '%' :: Numeral.render scope.toNat) ++ ']' :: rest) =
      (scope, ']' :: rest) := by
  split
  · rename_i zero
    rw [List.nil_append, scanScope, skip_of_head?_ne (by simp), zero]
    rfl
  · have stops : Numeral.Stops 10 (']' :: rest) := by
      rintro _ ⟨⟩
      decide
    have scans : NumberForm.scope.scan (Numeral.render scope.toNat ++ ']' :: rest) =
        some (scope.toNat, ']' :: rest) :=
      NumberForm.scan_toDigits NumberForm.isSound_scope (Nat.le_of_lt_succ scope.toNat_lt) stops
    simp [scanScope, scans]

theorem ends_zone (scope : UInt32) (rest : List Char) :
    IPv6.Ends ((if scope = 0 then [] else '%' :: Numeral.render scope.toNat) ++ ']' :: rest) := by
  split
  all_goals
    refine ⟨?_, by simp, nofun⟩
    rintro _ ⟨⟩
    decide

theorem scanV4_render (ip : IPv4) (port : UInt16) :
    scanV4 (v4 ip port).render = some (v4 ip port, []) := by
  have stops : Numeral.Stops 10 (':' :: Numeral.render port.toNat) := by
    rintro _ ⟨⟩
    decide
  simp [scanV4, render, IPv4.scan_render ip stops, scanPort_render]

theorem scanV4_of_bracket (rest : List Char) : scanV4 ('[' :: rest) = none := by
  have stops : Numeral.Stops 16 ('[' :: rest) := by
    rintro _ ⟨⟩
    decide
  simp [scanV4, IPv6.scan_ipv4_of_stops stops]

theorem scanV6_render (ip : IPv6) (port : UInt16) (flow scope : UInt32) :
    scanV6 (v6 ip port flow scope).render = some (v6 ip port 0 scope, []) := by
  simp only [scanV6, render, List.cons_append, List.append_assoc, List.nil_append, skip_cons,
    Option.bind_eq_bind, Option.bind_some, IPv6.scan_render ip (ends_zone ..), scanScope_zone,
    scanPort_render]
  rfl

/-- An address is read back, but for a flow label. -/
theorem parse?_render {address : Address} (plain : address.flow = 0) :
    parse? address.render = some address := by
  cases address with
  | v4 ip port => simp [parse?, scanV4_render]
  | v6 ip port flow scope =>
    obtain rfl : flow = 0 := plain
    have none : scanV4 (v6 ip port 0 scope).render = none := scanV4_of_bracket _
    simp [parse?, none, scanV6_render]

/-! ## Characters of an address -/

/-- The characters that addresses are written with. -/
def characters : List Char :=
  "0123456789abcdef.:[]%".toList

/-- Whether a text has no other characters than an address. -/
def Uses (cs : List Char) : Prop :=
  ∀ c ∈ cs, c ∈ characters

instance (cs : List Char) : Decidable (Uses cs) :=
  List.decidableBAll (· ∈ characters) cs

theorem uses_append {cs ds : List Char} : Uses (cs ++ ds) ↔ Uses cs ∧ Uses ds :=
  List.forall_mem_append

theorem uses_cons {c : Char} {cs : List Char} : Uses (c :: cs) ↔ c ∈ characters ∧ Uses cs :=
  List.forall_mem_cons

theorem uses_digits {base : Nat} (large : 1 < base) (small : base ≤ 16) (n : Nat) :
    Uses (Nat.toDigits base n) := by
  intro c mem
  obtain ⟨d, below, rfl⟩ := Numeral.exists_of_mem_toDigits large mem
  have bounded : d < 16 := Nat.lt_of_lt_of_le below small
  interval_cases d <;> decide

theorem uses_render_number (n : Nat) : Uses (Numeral.render n) :=
  uses_digits (by decide) (by decide) n

theorem uses_intercalate {separator : Char} (known : separator ∈ characters)
    {parts : List (List Char)} (each : ∀ part ∈ parts, Uses part) :
    Uses ([separator].intercalate parts) := by
  induction parts with
  | nil => exact nofun
  | cons part rest ih =>
    obtain ⟨first, others⟩ := List.forall_mem_cons.1 each
    cases rest with
    | nil => simpa [List.intercalate] using first
    | cons next rest =>
      rw [List.intercalate_cons_cons]
      exact uses_append.2 ⟨uses_append.2 ⟨first, uses_cons.2 ⟨known, nofun⟩⟩, ih others⟩

theorem uses_render_ipv4 (ip : IPv4) : Uses ip.render := by
  refine uses_intercalate (by decide) fun part mem => ?_
  obtain ⟨octet, -, rfl⟩ := List.mem_map.1 mem
  exact uses_render_number _

theorem uses_renderGroups (groups : List UInt16) : Uses (IPv6.renderGroups groups) := by
  refine uses_intercalate (by decide) fun part mem => ?_
  obtain ⟨group, -, rfl⟩ := List.mem_map.1 mem
  exact uses_digits (by decide) (by decide) _

theorem uses_render_ipv6 (ip : IPv6) : Uses ip.render := by
  unfold IPv6.render
  split
  · exact uses_append.2 ⟨by decide, uses_render_ipv4 _⟩
  · simp only
    split
    · exact uses_renderGroups _
    · exact uses_append.2 ⟨uses_append.2 ⟨uses_renderGroups _, by decide⟩, uses_renderGroups _⟩

theorem uses_render (address : Address) : Uses address.render := by
  cases address with
  | v4 ip port =>
    exact uses_append.2 ⟨uses_render_ipv4 ip, uses_cons.2 ⟨by decide, uses_render_number _⟩⟩
  | v6 ip port flow scope =>
    have zone : Uses (if scope = 0 then [] else '%' :: Numeral.render scope.toNat) := by
      split
      · exact nofun
      · exact uses_cons.2 ⟨by decide, uses_render_number _⟩
    refine uses_append.2 ⟨uses_append.2 ⟨uses_append.2 ⟨?_, zone⟩, by decide⟩, uses_render_number _⟩
    exact uses_cons.2 ⟨by decide, uses_render_ipv6 ip⟩

end Address

end SumCluster
