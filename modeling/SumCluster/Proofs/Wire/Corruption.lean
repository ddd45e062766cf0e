import SumCluster.Proofs.Checksum
import SumCluster.Proofs.Wire.Frame

/-!
# Corrupted frames are refused

A frame whose checksum is right leaves the residue as a whole, its last four bytes included
(`Wire.sealed_iff_residue`).  Bytes that differ from it in up to four adjacent places leave another
remainder, wherever these places are, so the checksum is wrong there
(`Wire.DifferWithin.not_sealed`) and the frame is refused before anything else of it is looked at.
-/

namespace SumCluster

open Wire

namespace Wire

/-! ## Bursts -/

/-- Whether all places in which two sequences of bytes differ lie among so many adjacent ones. -/
def DifferWithin (width : Nat) (bytes bytes' : Bytes) : Prop :=
  ∃ start, ∀ place, bytes[place]? ≠ bytes'[place]? → start ≤ place ∧ place < start + width

variable {bytes bytes' : Bytes} {width : Nat}

theorem differWithin_append {before burst burst' after : Bytes}
    (length : burst.length = burst'.length) (short : burst.length ≤ width) :
    DifferWithin width (before ++ (burst ++ after)) (before ++ (burst' ++ after)) := by
  refine ⟨before.length, fun place differs => ?_⟩
  by_cases early : place < before.length
  · rw [List.getElem?_append_left early, List.getElem?_append_left early] at differs
    exact absurd rfl differs
  · refine ⟨Nat.le_of_not_lt early, Nat.lt_of_not_le fun late => differs ?_⟩
    have behind : burst.length ≤ place - before.length := by omega
    rw [List.getElem?_append_right (Nat.le_of_not_lt early),
      List.getElem?_append_right (Nat.le_of_not_lt early), List.getElem?_append_right behind,
      List.getElem?_append_right (length ▸ behind), length]

/-- What differs within a few places is the same before and after them. -/
theorem DifferWithin.exists_burst (close : DifferWithin width bytes bytes')
    (length : bytes.length = bytes'.length) :
    ∃ before burst burst' after, bytes = before ++ (burst ++ after) ∧
      bytes' = before ++ (burst' ++ after) ∧ burst.length = burst'.length ∧
      burst.length ≤ width := by
  obtain ⟨start, close⟩ := close
  have before : bytes.take start = bytes'.take start := by
    refine List.ext_getElem? fun place => ?_
    by_cases early : place < start
    · rw [List.getElem?_take_of_lt early, List.getElem?_take_of_lt early]
      exact Decidable.not_not.1 fun differs => Nat.not_le.2 early (close place differs).1
    · rw [List.getElem?_take_eq_none (Nat.le_of_not_lt early),
        List.getElem?_take_eq_none (Nat.le_of_not_lt early)]
  have after : (bytes.drop start).drop width = (bytes'.drop start).drop width := by
    refine List.ext_getElem? fun place => ?_
    rw [List.drop_drop, List.drop_drop, List.getElem?_drop, List.getElem?_drop]
    exact Decidable.not_not.1 fun differs =>
      Nat.not_lt.2 (Nat.le_add_right _ place) (close _ differs).2
  refine ⟨bytes.take start, (bytes.drop start).take width, (bytes'.drop start).take width,
    (bytes.drop start).drop width, ?_, ?_, ?_, List.length_take_le ..⟩
  · rw [List.take_append_drop, List.take_append_drop]
  · rw [after, List.take_append_drop, before, List.take_append_drop]
  · rw [List.length_take, List.length_take, List.length_drop, List.length_drop, length]

/-! ## Checksums -/

theorem sealed_iff_residue {frame : Bytes} (long : 4 ≤ frame.length) :
    Sealed frame ↔ frame.foldl Checksum.feed 0xFFFFFFFF = Checksum.residue := by
  have four : (frame.drop (frame.length - 4)).length = 4 := by
    rw [List.length_drop]
    omega
  rw [Sealed, ← Checksum.foldl_feed_seal_iff four, List.take_append_drop]

theorem DifferWithin.not_sealed {frame other : Bytes} (close : DifferWithin 4 frame other)
    (length : other.length = frame.length) (differs : other ≠ frame) (long : 4 ≤ frame.length)
    (closed : Sealed frame) : ¬Sealed other := by
  intro closed'
  rw [sealed_iff_residue long] at closed
  rw [sealed_iff_residue (length ▸ long), ← closed] at closed'
  obtain ⟨before, burst, burst', after, rfl, rfl, same, short⟩ := close.exists_burst length.symm
  have differs : burst ≠ burst' := by
    rintro rfl
    exact differs rfl
  exact Checksum.foldl_feed_ne_of_burst 0xFFFFFFFF same short differs closed'.symm

end Wire

namespace Message

/-- A frame that was changed in up to four adjacent places is refused, whatever message it had inside
and wherever the places are. -/
theorem decode_of_corruption {message : Message} {frame other : Bytes}
    (encodes : encode message = .ok frame) (length : other.length = frame.length)
    (differs : other ≠ frame) (close : DifferWithin 4 frame other) :
    ∃ stored computed, decode other = .error (.checksum stored computed) ∧
      ∀ source, Arrival.ofFrame other source =
        .error (.codec (FrameFault.checksum stored computed).message) := by
  obtain ⟨long, closed⟩ := sealed_of_encode encodes
  have broken := close.not_sealed length differs (Nat.le_trans (by decide) long) closed
  have fails := decode_of_not_sealed (length ▸ long) broken
  exact ⟨_, _, fails, fun source => by rw [Arrival.ofFrame, fails]⟩

/-- The last two bytes of the time and the first two of the checksum behind it are changed. -/
theorem decode_of_corruption_time :
    let before : Bytes := [0x02, 16, 0, 0, 0, 1, 0, 0, 0, 7, 0, 0, 0, 250, 0, 0, 0, 0, 0]
    let frame := before ++ ([0, 0, 79, 31] ++ [93, 241])
    let other := before ++ ([1, 0, 76, 32] ++ [93, 241])
    encode (.joinRequest 7 250) = .ok frame ∧ other.length = frame.length ∧ other ≠ frame ∧
      DifferWithin 4 frame other ∧
      ∃ stored computed, decode other = .error (.checksum stored computed) := by
  intro before frame other
  have encodes : encode (.joinRequest 7 250) = .ok frame :=
    encode_eq_ok_iff.2 ⟨by decide, by decide +kernel⟩
  have length : other.length = frame.length := rfl
  have differs : other ≠ frame := by decide
  have close : DifferWithin 4 frame other := differWithin_append rfl (Nat.le_refl 4)
  obtain ⟨stored, computed, fails, -⟩ := decode_of_corruption encodes length differs close
  exact ⟨encodes, length, differs, close, stored, computed, fails⟩

end Message

end SumCluster
