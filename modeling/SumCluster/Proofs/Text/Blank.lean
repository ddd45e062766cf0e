import Mathlib.Data.List.TakeWhile
import SumCluster.Text.Blank

/-!
# Trimming and cutting

A text consists of white space, what trimming leaves of it, and white space again
(`Text.exists_trim`), and trimming leaves a text that begins and ends with something else as it is
(`Text.trim_padded`).  A text is cut at the first place of a character (`Text.cutAt?_eq_some_iff`),
and into pieces at all of them, which make up the text again (`Text.intercalate_pieces`).
-/

namespace SumCluster.Text

/-! ## Trimming -/

/-- Whether there is nothing but white space. -/
def Blank (cs : List Char) : Prop :=
  ∀ c ∈ cs, isBlank c = true

instance (cs : List Char) : Decidable (Blank cs) :=
  List.decidableBAll (isBlank · = true) cs

/-- Whether a text neither begins nor ends with white space. -/
structure IsTight (cs : List Char) : Prop where
  head : ∀ c ∈ cs.head?, isBlank c = false
  last : ∀ c ∈ cs.getLast?, isBlank c = false

theorem isTight_of_forall {cs : List Char} (visible : ∀ c ∈ cs, isBlank c = false) :
    IsTight cs where
  head _ first := visible _ (List.mem_of_mem_head? first)
  last _ last := visible _ (List.mem_of_getLast? last)

section Trim

variable {cs before after : List Char}

theorem dropWhile_isBlank_of_head? (visible : ∀ c ∈ cs.head?, isBlank c = false) :
    cs.dropWhile isBlank = cs := by
  cases cs with
  | nil => rfl
  | cons c rest => exact List.dropWhile_cons_of_neg (by simp [visible c rfl])

theorem trim_padded (tight : IsTight cs) (front : Blank before) (back : Blank after) :
    trim (before ++ cs ++ after) = cs := by
  cases cs with
  | nil =>
    have all : ∀ c ∈ before ++ [] ++ after, isBlank c = true := by
      intro c mem
      rw [List.append_nil] at mem
      exact (List.mem_append.1 mem).elim (front c) (back c)
    rw [trim, List.dropWhile_eq_nil_iff.2 all]
    rfl
  | cons c rest =>
    have ends : ((c :: rest) ++ after).dropWhile isBlank = (c :: rest) ++ after :=
      dropWhile_isBlank_of_head? tight.head
    rw [trim, List.append_assoc, List.dropWhile_append_of_pos front, ends, List.reverse_append,
      List.dropWhile_append_of_pos fun c mem => back c (List.mem_reverse.1 mem),
      dropWhile_isBlank_of_head? (List.head?_reverse ▸ tight.last), List.reverse_reverse]

theorem trim_of_isTight (tight : IsTight cs) : trim cs = cs := by
  have padded := @trim_padded cs [] [] tight nofun nofun
  rwa [List.nil_append, List.append_nil] at padded

/-- What trimming takes off, and what it leaves. -/
theorem exists_trim (cs : List Char) :
    ∃ before after, cs = before ++ trim cs ++ after ∧ Blank before ∧ Blank after ∧
      IsTight (trim cs) := by
  let rest := cs.dropWhile isBlank
  have split : rest = trim cs ++ (rest.reverse.takeWhile isBlank).reverse := by
    rw [trim, ← List.reverse_append, List.takeWhile_append_dropWhile, List.reverse_reverse]
  have visible : ∀ c ∈ rest.head?, isBlank c = false := by
    intro c first
    have none := List.head?_dropWhile_not isBlank cs
    rw [show (cs.dropWhile isBlank).head? = some c from first] at none
    simpa using none
  refine ⟨cs.takeWhile isBlank, (rest.reverse.takeWhile isBlank).reverse, ?_,
    fun c mem => List.mem_takeWhile_imp mem,
    fun c mem => List.mem_takeWhile_imp (List.mem_reverse.1 mem), fun c first => ?_, fun c last => ?_⟩
  · rw [List.append_assoc, ← split, List.takeWhile_append_dropWhile]
  · refine visible c ?_
    rw [split, List.head?_append, first]
    rfl
  · have none := List.head?_dropWhile_not isBlank rest.reverse
    rw [trim, List.getLast?_reverse] at last
    rw [show (rest.reverse.dropWhile isBlank).head? = some c from last] at none
    simpa using none

theorem trim_eq_nil_iff : trim cs = [] ↔ Blank cs := by
  constructor
  · intro empty
    obtain ⟨before, after, same, front, back, -⟩ := exists_trim cs
    rw [empty, List.append_nil] at same
    rw [same]
    exact List.forall_mem_append.2 ⟨front, back⟩
  · intro blank
    have padded := @trim_padded [] cs [] ⟨nofun, nofun⟩ blank nofun
    rwa [List.append_nil, List.append_nil] at padded

@[simp] theorem trim_trim (cs : List Char) : trim (trim cs) = trim cs :=
  let ⟨_, _, _, _, _, tight⟩ := exists_trim cs
  trim_of_isTight tight

end Trim

/-! ## Cutting -/

theorem cutAt?_eq_some_iff {c : Char} {cs before after : List Char} :
    cutAt? c cs = some (before, after) ↔ cs = before ++ c :: after ∧ c ∉ before := by
  induction cs generalizing before with
  | nil => simp [cutAt?]
  | cons d rest ih =>
    rw [cutAt?]
    split
    · rename_i same
      rw [Option.some.injEq, Prod.mk.injEq]
      constructor
      · rintro ⟨rfl, rfl⟩
        exact ⟨congrArg (· :: rest) same, List.not_mem_nil⟩
      · rintro ⟨cut, first⟩
        cases before with
        | nil => exact ⟨rfl, (List.cons.inj cut).2⟩
        | cons e others =>
          have head := (List.cons.inj cut).1
          exact absurd (head ▸ same ▸ List.mem_cons_self ..) first
    · rename_i other
      rw [Option.map_eq_some_iff]
      constructor
      · rintro ⟨⟨front, back⟩, found, same⟩
        obtain ⟨rfl, rfl⟩ := Prod.mk.inj same
        obtain ⟨rfl, first⟩ := ih.1 found
        exact ⟨rfl, List.not_mem_cons_of_ne_of_not_mem (Ne.symm other) first⟩
      · rintro ⟨cut, first⟩
        cases before with
        | nil => exact absurd (List.cons.inj cut).1 other
        | cons e others =>
          obtain ⟨rfl, rest⟩ := List.cons.inj cut
          exact ⟨(others, after), ih.2 ⟨rest, List.not_mem_of_not_mem_cons first⟩, rfl⟩

/-! ## Pieces -/

section Pieces

variable (c : Char)

theorem pieces_eq_splitOn (cs : List Char) : pieces c cs = cs.splitOn c := by
  induction cs with
  | nil => rfl
  | cons d rest ih =>
    rw [pieces, ih, List.splitOn_cons_eq_if_modifyHead]
    by_cases same : d = c
    · simp [same]
    · simp only [same, if_false, beq_iff_eq]
      cases split : rest.splitOn c with
      | nil => exact absurd split (List.splitOn_ne_nil c rest)
      | cons => rfl

theorem pieces_intercalate {items : List (List Char)} (clean : ∀ item ∈ items, c ∉ item)
    (filled : items ≠ []) : pieces c ([c].intercalate items) = items := by
  rw [pieces_eq_splitOn, List.splitOn_intercalate c clean filled]

/-- Nothing is lost between the pieces. -/
theorem intercalate_pieces (cs : List Char) : [c].intercalate (pieces c cs) = cs := by
  rw [pieces_eq_splitOn, List.intercalate_splitOn]

theorem not_mem_of_mem_pieces {cs piece : List Char} (mem : piece ∈ pieces c cs) : c ∉ piece := by
  induction cs generalizing piece with
  | nil =>
    rw [List.mem_singleton.1 mem]
    exact List.not_mem_nil
  | cons d rest ih =>
    rw [pieces] at mem
    split at mem
    · rcases List.mem_cons.1 mem with rfl | mem
      · exact List.not_mem_nil
      · exact ih mem
    · rename_i other
      split at mem
      · rw [List.mem_singleton.1 mem]
        simpa using Ne.symm other
      · rename_i first others split
        rw [split] at ih
        rcases List.mem_cons.1 mem with rfl | mem
        · exact List.not_mem_cons_of_ne_of_not_mem (Ne.symm other) (ih (List.mem_cons_self ..))
        · exact ih (List.mem_cons_of_mem _ mem)

end Pieces

end SumCluster.Text
