import Mathlib.Tactic.IntervalCases
import SumCluster.Text.Numeral

/-!
# Numerals that are read back

The digits of a number, in any base up to sixteen, have its value (`Numeral.valueOf_toDigits`), so a
number that is written in decimal is read back (`Numeral.read_render`).
-/

namespace SumCluster.Numeral

variable {base bound n : Nat} {c : Char}

theorem digit?_digitChar {d : Nat} (small : base ≤ 16) (below : d < base) :
    digit? base d.digitChar = some d := by
  have bounded : d < 16 := Nat.lt_of_lt_of_le below small
  interval_cases d <;> exact if_pos below

theorem digitChar_ne_zero {d : Nat} (small : d < 16) (pos : 0 < d) : d.digitChar ≠ '0' := by
  interval_cases d <;> decide

/-- The value of digits, the first one counting most. -/
def valueOf (base : Nat) (digits : List Char) : Nat :=
  digits.foldl (fun acc c => base * acc + (digit? base c).getD 0) 0

theorem valueOf_append_singleton (digits : List Char) (c : Char) :
    valueOf base (digits ++ [c]) = base * valueOf base digits + (digit? base c).getD 0 := by
  rw [valueOf, List.foldl_append]
  rfl

section Digits

variable (large : 1 < base) (small : base ≤ 16)

include large

/-- What holds of the digits of a number by adding one digit at the end. -/
theorem toDigits_induction {motive : Nat → List Char → Prop}
    (single : ∀ d < base, motive d [d.digitChar])
    (append : ∀ n d, 0 < n → d < base → motive n (Nat.toDigits base n) →
      motive (base * n + d) (Nat.toDigits base n ++ [d.digitChar])) (n : Nat) :
    motive n (Nat.toDigits base n) := by
  induction n using Nat.strongRecOn with
  | ind n ih =>
    rw [Nat.toDigits_eq_if large]
    split
    · exact single n ‹_›
    · rename_i above
      have above := Nat.le_of_not_lt above
      have pos : 0 < n / base := Nat.div_pos above (Nat.zero_lt_of_lt large)
      have less : n / base < n := Nat.div_lt_self (Nat.lt_of_lt_of_le (by omega) above) large
      have last : n % base < base := Nat.mod_lt _ (Nat.zero_lt_of_lt large)
      have step := append (n / base) (n % base) pos last (ih _ less)
      rwa [Nat.div_add_mod] at step

theorem exists_of_mem_toDigits (mem : c ∈ Nat.toDigits base n) : ∃ d < base, c = d.digitChar := by
  refine toDigits_induction large
    (motive := fun _ digits => c ∈ digits → ∃ d < base, c = d.digitChar)
    (fun d below mem => ⟨d, below, List.mem_singleton.1 mem⟩) (fun _ d _ below ih mem => ?_) n mem
  rcases List.mem_append.1 mem with mem | mem
  · exact ih mem
  · exact ⟨d, below, List.mem_singleton.1 mem⟩

include small

theorem isSome_digit?_of_mem_toDigits (mem : c ∈ Nat.toDigits base n) :
    (digit? base c).isSome = true := by
  obtain ⟨d, below, rfl⟩ := exists_of_mem_toDigits large mem
  rw [digit?_digitChar small below]
  rfl

theorem valueOf_toDigits (n : Nat) : valueOf base (Nat.toDigits base n) = n := by
  refine toDigits_induction large (motive := fun n digits => valueOf base digits = n)
    (fun d below => ?_) (fun n d _ below ih => ?_) n
  · simp [valueOf, digit?_digitChar small below]
  · rw [valueOf_append_singleton, ih, digit?_digitChar small below]
    rfl

/-- Only zero starts with a zero. -/
theorem head?_toDigits_ne (pos : 0 < n) : (Nat.toDigits base n).head? ≠ some '0' := by
  refine toDigits_induction large (motive := fun n digits => 0 < n → digits.head? ≠ some '0')
    (fun d below pos same => ?_) (fun n d pos _ ih _ => ?_) n pos
  · exact digitChar_ne_zero (Nat.lt_of_lt_of_le below small) pos (Option.some.inj same)
  · obtain ⟨first, rest, digits⟩ := List.exists_cons_of_ne_nil (@Nat.toDigits_ne_nil n base)
    rw [digits] at ih ⊢
    exact ih pos

end Digits

/-! ## Numerals as a whole -/

theorem readDigits_append_singleton {acc : Nat} (digits : List Char) (c : Char) :
    readDigits bound acc (digits ++ [c]) =
      readDigits bound acc digits >>= fun acc => readDigits bound acc [c] := by
  induction digits generalizing acc with
  | nil => rfl
  | cons head rest ih =>
    rw [List.cons_append, readDigits, readDigits]
    cases digit? 10 head with
    | none => rfl
    | some d =>
      simp only
      split
      · exact ih
      · rfl

theorem readDigits_digitChar {acc d : Nat} (below : d < 10) (fits : 10 * acc + d ≤ bound) :
    readDigits bound acc [d.digitChar] = .ok (10 * acc + d) := by
  rw [readDigits, digit?_digitChar (by decide) below]
  exact if_pos fits

theorem readDigits_render (fits : n ≤ bound) : readDigits bound 0 (render n) = .ok n := by
  refine toDigits_induction (by decide)
    (motive := fun n digits => n ≤ bound → readDigits bound 0 digits = .ok n)
    (fun d below fits => ?_) (fun n d _ below ih fits => ?_) n fits
  · have read : readDigits bound 0 [d.digitChar] = .ok (10 * 0 + d) :=
      readDigits_digitChar below (by omega)
    rwa [Nat.mul_zero, Nat.zero_add] at read
  · rw [readDigits_append_singleton, ih (by omega)]
    exact readDigits_digitChar below fits

theorem read_of_head?_ne {text : List Char} (filled : text ≠ []) (unsigned : text.head? ≠ some '+') :
    read bound text = readDigits bound 0 text := by
  unfold read
  split <;> simp_all

theorem ne_plus_of_mem_render (mem : c ∈ render n) : c ≠ '+' := by
  rintro rfl
  exact absurd (isSome_digit?_of_mem_toDigits (by decide) (by decide) mem) (by decide)

theorem read_render (fits : n ≤ bound) : read bound (render n) = .ok n := by
  have filled : render n ≠ [] := Nat.toDigits_ne_nil
  rw [read_of_head?_ne filled fun plus => ne_plus_of_mem_render (List.mem_of_mem_head? plus) rfl]
  exact readDigits_render fits

theorem le_of_readDigits {acc : Nat} {text : List Char} (fits : acc ≤ bound)
    (reads : readDigits bound acc text = .ok n) : n ≤ bound := by
  induction text generalizing acc with
  | nil => exact Except.ok.inj reads ▸ fits
  | cons head rest ih =>
    rw [readDigits] at reads
    split at reads
    · exact nomatch reads
    · split at reads
      · exact ih ‹_› reads
      · exact nomatch reads

/-- What is read is within the bound. -/
theorem le_of_read {text : List Char} (reads : read bound text = .ok n) : n ≤ bound := by
  unfold read at reads
  split at reads
  · exact nomatch reads
  · exact nomatch reads
  · exact le_of_readDigits (Nat.zero_le _) reads
  · exact le_of_readDigits (Nat.zero_le _) reads

end SumCluster.Numeral
