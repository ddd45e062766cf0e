import SumCluster.Checksum
import SumCluster.Proofs.Wire.Layout

/-!
# What the checksum detects

A step of the division is linear in exclusive or (`Checksum.shift_xor`) and loses nothing
(`Checksum.shifts_inj`).  So a remainder before some bytes is known from the one after them
(`Checksum.foldl_feed_inj`), and up to four bytes are known from the remainders before and after
them (`Checksum.foldl_feed_inj_of_length_le`): two sequences of bytes that differ in up to four
adjacent places never leave the same remainder (`Checksum.foldl_feed_ne_of_burst`).  The checksum
that stands behind the bytes it is about, with its least significant byte first, is part of this: the
two together leave the same remainder whatever the bytes are (`Checksum.foldl_feed_seal_iff`).
-/

namespace SumCluster.Checksum

open Wire

/-! ## Steps of the division -/

theorem and_one_eq_one_iff {r : UInt32} : r &&& 1 = 1 ↔ r.toNat % 2 = 1 := by
  rw [← UInt32.toNat_inj, UInt32.toNat_and]
  simp

theorem shift_of_even {r : UInt32} (even : r.toNat % 2 = 0) : shift r = r >>> 1 := by
  unfold shift
  rw [if_neg]
  rw [and_one_eq_one_iff]
  omega

theorem shift_of_odd {r : UInt32} (odd : r.toNat % 2 = 1) :
    shift r = (r >>> 1) ^^^ polynomial := by
  unfold shift
  rw [if_pos (and_one_eq_one_iff.2 odd)]

theorem toNat_shiftRight_one (r : UInt32) : (r >>> 1).toNat = r.toNat / 2 := by
  rw [UInt32.toNat_shiftRight]
  simp [Nat.shiftRight_eq_div_pow]

theorem shift_xor (a b : UInt32) : shift (a ^^^ b) = shift a ^^^ shift b := by
  have parity : (a ^^^ b).toNat % 2 = 1 ↔ ¬(a.toNat % 2 = 1 ↔ b.toNat % 2 = 1) := by
    rw [UInt32.toNat_xor, Nat.xor_mod_two_eq_one]
  rcases Nat.mod_two_eq_zero_or_one a.toNat with even | odd <;>
    rcases Nat.mod_two_eq_zero_or_one b.toNat with even' | odd'
  · rw [shift_of_even even, shift_of_even even', shift_of_even (by omega), UInt32.shiftRight_xor]
  · rw [shift_of_even even, shift_of_odd odd', shift_of_odd (by omega), UInt32.shiftRight_xor,
      UInt32.xor_assoc]
  · rw [shift_of_odd odd, shift_of_even even', shift_of_odd (by omega), UInt32.shiftRight_xor,
      UInt32.xor_assoc, UInt32.xor_assoc, UInt32.xor_comm polynomial]
  · -- the polynomial is taken away twice
    have cancel : (a >>> 1 ^^^ polynomial) ^^^ (b >>> 1 ^^^ polynomial) = a >>> 1 ^^^ b >>> 1 := by
      rw [UInt32.xor_comm (b >>> 1), UInt32.xor_assoc, ← UInt32.xor_assoc polynomial,
        UInt32.xor_self, UInt32.zero_xor]
    rw [shift_of_odd odd, shift_of_odd odd', shift_of_even (by omega), UInt32.shiftRight_xor,
      cancel]

/-- Nothing is lost: the highest bit of the polynomial tells what the lowest bit was. -/
theorem eq_zero_of_shift_eq_zero {r : UInt32} (zero : shift r = 0) : r = 0 := by
  have small := r.toNat_lt
  have half := toNat_shiftRight_one r
  rcases Nat.mod_two_eq_zero_or_one r.toNat with even | odd
  · rw [shift_of_even even] at zero
    rw [zero, UInt32.toNat_zero] at half
    apply UInt32.toNat_inj.1
    rw [UInt32.toNat_zero]
    omega
  · rw [shift_of_odd odd, UInt32.xor_eq_zero_iff] at zero
    have high : polynomial.toNat = 0xEDB88320 := rfl
    rw [zero, high] at half
    omega

/-- Several steps of the division. -/
def shifts (count : Nat) (r : UInt32) : UInt32 :=
  Nat.repeat shift count r

theorem shifts_xor (count : Nat) (a b : UInt32) :
    shifts count (a ^^^ b) = shifts count a ^^^ shifts count b := by
  induction count with
  | zero => rfl
  | succ count ih =>
    show shift (shifts count (a ^^^ b)) = shift (shifts count a) ^^^ shift (shifts count b)
    rw [ih, shift_xor]

theorem shifts_shifts (count more : Nat) (r : UInt32) :
    shifts more (shifts count r) = shifts (count + more) r := by
  induction more with
  | zero => rfl
  | succ more ih => exact congrArg shift ih

theorem eq_zero_of_shifts_eq_zero {count : Nat} {r : UInt32} (zero : shifts count r = 0) :
    r = 0 := by
  induction count with
  | zero => exact zero
  | succ count ih => exact ih (eq_zero_of_shift_eq_zero zero)

theorem shifts_inj {count : Nat} {a b : UInt32} : shifts count a = shifts count b ↔ a = b := by
  refine ⟨fun same => ?_, fun same => same ▸ rfl⟩
  rw [← UInt32.xor_eq_zero_iff, ← shifts_xor] at same
  exact UInt32.xor_eq_zero_iff.1 (eq_zero_of_shifts_eq_zero same)

/-- A remainder whose lowest bits are clear only moves down. -/
theorem shifts_ofNat_mul {count n : Nat} (fits : n * 2 ^ count < 2 ^ 32) :
    shifts count (UInt32.ofNat (n * 2 ^ count)) = UInt32.ofNat n := by
  induction count generalizing n with
  | zero => simp [shifts, Nat.repeat]
  | succ count ih =>
    have double : n * 2 ^ (count + 1) = n * 2 * 2 ^ count := by
      rw [Nat.pow_succ, Nat.mul_comm (2 ^ count), Nat.mul_assoc]
    have small : n * 2 < 2 ^ 32 :=
      Nat.lt_of_le_of_lt (Nat.le_mul_of_pos_right _ (Nat.two_pow_pos count)) (double ▸ fits)
    have word : (UInt32.ofNat (n * 2)).toNat = n * 2 := UInt32.toNat_ofNat_of_lt' small
    show shift (shifts count (UInt32.ofNat (n * 2 ^ (count + 1)))) = UInt32.ofNat n
    rw [double, ih (double ▸ fits), shift_of_even (by omega)]
    have word' : (UInt32.ofNat n).toNat = n := UInt32.toNat_ofNat_of_lt' (by
      rw [UInt32.size]
      omega)
    apply UInt32.toNat_inj.1
    rw [toNat_shiftRight_one, word, word']
    omega

/-! ## Bytes -/

theorem add_mul_eq_xor {low high : Nat} (small : low < 2 ^ 8) :
    low + 256 * high = low ^^^ 256 * high := by
  have upper : (low ^^^ 256 * high) / 2 ^ 8 = high := by
    rw [Nat.xor_div_two_pow, Nat.div_eq_of_lt small, Nat.zero_xor]
    omega
  have lower : (low ^^^ 256 * high) % 2 ^ 8 = low := by
    rw [Nat.xor_mod_two_pow, Nat.mod_eq_of_lt small, Nat.mul_mod_right, Nat.xor_zero]
  omega

/-- Up to four bytes are taken in as one word. -/
theorem foldl_feed {bytes : Bytes} (short : bytes.length ≤ 4) (r : UInt32) :
    bytes.foldl feed r = shifts (8 * bytes.length) (r ^^^ UInt32.ofNat (wordOf bytes)) := by
  induction bytes generalizing r with
  | nil => simp [wordOf, shifts, Nat.repeat]
  | cons byte rest ih =>
    rw [List.length_cons] at short
    have fits : wordOf rest * 2 ^ 8 < 2 ^ 32 := by
      have bound : wordOf rest < 256 ^ 3 := Nat.lt_of_lt_of_le (wordOf_lt rest)
        (Nat.pow_le_pow_right (by decide) (by omega))
      omega
    have first : feed r byte = shifts 8 (r ^^^ byte.toUInt32) := rfl
    have moved : UInt32.ofNat (wordOf rest) = shifts 8 (UInt32.ofNat (256 * wordOf rest)) := by
      rw [Nat.mul_comm]
      exact (shifts_ofNat_mul fits).symm
    have word : byte.toUInt32 ^^^ UInt32.ofNat (256 * wordOf rest) =
        UInt32.ofNat (wordOf (byte :: rest)) := by
      rw [wordOf, add_mul_eq_xor byte.toNat_lt, UInt32.ofNat_xor, UInt32.ofNat_uInt8ToNat]
    rw [List.foldl_cons, ih (by omega), first, moved, ← shifts_xor, UInt32.xor_assoc, word,
      shifts_shifts, List.length_cons]
    congr 1
    omega

/-- The remainder before some bytes is known from the one after them. -/
theorem foldl_feed_inj {bytes : Bytes} {a b : UInt32} :
    bytes.foldl feed a = bytes.foldl feed b ↔ a = b := by
  induction bytes generalizing a b with
  | nil => exact Iff.rfl
  | cons byte rest ih =>
    rw [List.foldl_cons, List.foldl_cons, ih]
    exact shifts_inj.trans (UInt32.xor_left_inj _)

/-- Up to four bytes are known from the remainders before and after them. -/
theorem foldl_feed_inj_of_length_le {bytes bytes' : Bytes} {r : UInt32}
    (length : bytes.length = bytes'.length) (short : bytes.length ≤ 4) :
    bytes.foldl feed r = bytes'.foldl feed r ↔ bytes = bytes' := by
  have fits {bytes : Bytes} (short : bytes.length ≤ 4) : wordOf bytes < 2 ^ 32 :=
    Nat.lt_of_lt_of_le (wordOf_lt bytes) (Nat.pow_le_pow_right (by decide) short)
  rw [foldl_feed short, foldl_feed (length ▸ short), length, shifts_inj, UInt32.xor_right_inj,
    ← UInt32.toNat_inj, UInt32.toNat_ofNat_of_lt' (fits short),
    UInt32.toNat_ofNat_of_lt' (fits (length ▸ short)), wordOf_inj length]

/-- Bytes that differ in up to four adjacent places never leave the same remainder. -/
theorem foldl_feed_ne_of_burst {before burst burst' after : Bytes} (r : UInt32)
    (length : burst.length = burst'.length) (short : burst.length ≤ 4) (differs : burst ≠ burst') :
    (before ++ (burst ++ after)).foldl feed r ≠ (before ++ (burst' ++ after)).foldl feed r := by
  simp only [List.foldl_append]
  rw [Ne, foldl_feed_inj, foldl_feed_inj_of_length_le length short]
  exact differs

/-! ## Bytes with their checksum -/

/-- What bytes with their checksum behind them leave. -/
def residue : UInt32 :=
  shifts 32 0xFFFFFFFF

/-- A word behind bytes is their checksum just when both together leave the residue. -/
theorem foldl_feed_seal_iff {bytes tail : Bytes} (length : tail.length = 4) :
    (bytes ++ tail).foldl feed 0xFFFFFFFF = residue ↔
      UInt32.ofNat (wordOf tail) = crc32 bytes := by
  have ones (a b : UInt32) : a ^^^ b = 0xFFFFFFFF ↔ b = ~~~a := by
    rw [← UInt32.xor_right_inj a, ← UInt32.xor_assoc, UInt32.xor_self, UInt32.zero_xor]
    exact iff_of_eq (congrArg (b = ·) UInt32.xor_neg_one)
  rw [List.foldl_append, foldl_feed (Nat.le_of_eq length), length]
  exact shifts_inj.trans (ones _ _)

end SumCluster.Checksum
