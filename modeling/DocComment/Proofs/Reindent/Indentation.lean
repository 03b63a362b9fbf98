import DocComment.Reindent
import Mathlib.Tactic.Common

/-!
# Lines as indentation and text

Every line is a run of white space and a rest that begins with none. What re-indentation does to a
line is said here in these terms, so that nothing else has to look into the scanning of a line.
-/

namespace DocComment.Reindent

open DocComment.Text

/-- A line is its indentation and a rest that begins with no white space. -/
lemma exists_indentation (line : List Char) :
    ∃ blanks rest, line = blanks ++ rest ∧ (∀ c ∈ blanks, isBlank c = true) ∧
      ∀ c ∈ rest.head?, isBlank c = false := by
  refine ⟨line.takeWhile isBlank, line.dropWhile isBlank, ?_, ?_, ?_⟩
  · exact List.takeWhile_append_dropWhile.symm
  · intro c hc
    exact List.all_eq_true.mp List.all_takeWhile c hc
  · intro c hc
    have hstop := List.head?_dropWhile_not isBlank line
    rw [Option.mem_def.mp hc] at hstop
    simpa using hstop

section

variable {blanks rest : List Char} (hblanks : ∀ c ∈ blanks, isBlank c = true)
  (hrest : ∀ c ∈ rest.head?, isBlank c = false)

include hblanks

lemma allBlank_append : allBlank (blanks ++ rest) = allBlank rest := by
  rw [allBlank, List.all_append, List.all_eq_true.mpr hblanks, Bool.true_and]
  rfl

lemma dedentLine_of_blank (column : Nat) : dedentLine column blanks = [] := by
  rw [dedentLine, allBlank, List.all_eq_true.mpr hblanks, if_pos rfl]

include hrest

lemma dropWhile_indentation : (blanks ++ rest).dropWhile isBlank = rest := by
  rw [List.dropWhile_append_of_pos hblanks]
  cases rest with
  | nil => rfl
  | cons c rest => exact List.dropWhile_cons_of_neg (by simp [hrest c rfl])

lemma indentOf_indentation : indentOf (blanks ++ rest) = blanks.length := by
  rw [indentOf, List.takeWhile_append_of_pos hblanks]
  cases rest with
  | nil => simp
  | cons c rest => rw [List.takeWhile_cons_of_neg (by simp [hrest c rfl]), List.append_nil]

/-- A line that begins with a tag sets the column, and no other does. -/
lemma columnAfter_indentation (column : Nat) :
    columnAfter column (blanks ++ rest)
      = if rest.head? = some '<' then blanks.length else column := by
  rw [columnAfter, dropWhile_indentation hblanks hrest, indentOf_indentation hblanks hrest]
  split
  · rw [List.head?_cons, if_pos rfl]
  · rename_i htag
    rw [if_neg]
    intro hhead
    obtain ⟨t, rfl⟩ := List.head?_eq_some_iff.mp hhead
    exact htag t rfl

/-- A line that is not white loses its indentation up to the column. -/
lemma dedentLine_indentation (hne : rest ≠ []) (column : Nat) :
    dedentLine column (blanks ++ rest) = blanks.drop column ++ rest := by
  have hvisible : allBlank (blanks ++ rest) = false := by
    rw [allBlank_append hblanks]
    obtain ⟨c, rest, rfl⟩ := List.exists_cons_of_ne_nil hne
    rw [allBlank, List.all_cons, hrest c rfl, Bool.false_and]
  rw [dedentLine, hvisible, if_neg (by decide), indentOf_indentation hblanks hrest]
  rw [List.drop_append_of_le_length (Nat.min_le_right _ _)]
  congr 1
  by_cases hle : column ≤ blanks.length
  · rw [Nat.min_eq_left hle]
  · have hge : blanks.length ≤ column := by omega
    rw [Nat.min_eq_right hge, List.drop_length, List.drop_eq_nil_of_le hge]

end

/-- A white line leaves the column as it is. -/
lemma columnAfter_of_allBlank {line : List Char} (h : allBlank line = true) (column : Nat) :
    columnAfter column line = column := by
  have hnone : ∀ c ∈ ([] : List Char).head?, isBlank c = false := by simp
  have hcolumn := columnAfter_indentation (List.all_eq_true.mp h) hnone column
  rw [List.append_nil] at hcolumn
  exact hcolumn

/-! ## White space in front of a line -/

section

variable {blanks : List Char} (hblanks : ∀ c ∈ blanks, isBlank c = true)

include hblanks

/-- The column moves with the line. -/
lemma columnAfter_shift (column : Nat) (line : List Char) :
    columnAfter (column + blanks.length) (blanks ++ line)
      = columnAfter column line + blanks.length := by
  obtain ⟨own, rest, rfl, hown, hrest⟩ := exists_indentation line
  rw [← List.append_assoc,
    columnAfter_indentation (List.forall_mem_append.mpr ⟨hblanks, hown⟩) hrest,
    columnAfter_indentation hown hrest, List.length_append]
  split
  · exact Nat.add_comm blanks.length own.length
  · rfl

/-- A line that moves with the column comes out the same. -/
lemma dedentLine_shift (column : Nat) (line : List Char) :
    dedentLine (column + blanks.length) (blanks ++ line) = dedentLine column line := by
  obtain ⟨own, rest, rfl, hown, hrest⟩ := exists_indentation line
  have hboth := List.forall_mem_append.mpr ⟨hblanks, hown⟩
  rw [← List.append_assoc]
  by_cases hne : rest = []
  · subst hne
    rw [List.append_nil, List.append_nil, dedentLine_of_blank hboth, dedentLine_of_blank hown]
  · rw [dedentLine_indentation hboth hrest hne, dedentLine_indentation hown hrest hne,
      Nat.add_comm column, ← List.drop_drop, List.drop_left]

end

end DocComment.Reindent
