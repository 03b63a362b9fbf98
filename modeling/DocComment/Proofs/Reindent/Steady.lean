import DocComment.Proofs.Reindent.Indentation
import DocComment.Proofs.Text.Indented
import Mathlib.Data.List.Forall2

/-!
# Re-indentation of moved lines

When all lines of a content but the first are moved to the right, re-indentation takes the move back
if the reference column moves along. The column of the element moves if its tag stands on a moved
line; the column that a tag at the beginning of the content sets does not, since that line is part of
the line of the element's own tag. What follows then has to begin with a tag. `dedent_of_steady` says
so, and `steady_iff_forall_dedent` that no weaker condition would do.
-/

namespace DocComment.Reindent

open DocComment.Text

/-- Whether a line begins with a tag. -/
def startsTag (line : List Char) : Bool :=
  (line.dropWhile isBlank).head? = some '<'

/-- Whether the first line that is not white, if there is one, begins with a tag. -/
def anchored : List (List Char) → Bool
  | [] => true
  | line :: rest => startsTag line || (allBlank line && anchored rest)

/-- Whether lines re-indent to the same when all but the first are moved. If the column does not move
along, or if the first line sets it, a tag has to set it anew before there is text; otherwise the
first line must not be affected by how far the column is. -/
def steady (moves : Bool) (column : Nat) : List (List Char) → Bool
  | [] => true
  | first :: rest =>
    if startsTag first || !moves then anchored rest
    else allBlank first || indentOf first ≤ column

lemma isBlank_of_mem_replicate {d : Nat} : ∀ c ∈ List.replicate d ' ', isBlank c = true := by
  intro c hc
  rw [List.eq_of_mem_replicate hc]
  decide

lemma allBlank_move (d : Nat) (line : List Char) :
    allBlank (List.replicate d ' ' ++ line) = allBlank line :=
  allBlank_append isBlank_of_mem_replicate

lemma startsTag_of_allBlank {line : List Char} (h : allBlank line = true) :
    startsTag line = false := by
  have hnil : line.dropWhile isBlank = [] := List.dropWhile_eq_nil_iff.mpr (List.all_eq_true.mp h)
  rw [startsTag, hnil]
  rfl

lemma startsTag_move (d : Nat) (line : List Char) :
    startsTag (List.replicate d ' ' ++ line) = startsTag line := by
  rw [startsTag, startsTag, List.dropWhile_append_of_pos isBlank_of_mem_replicate]

lemma columnAfter_of_startsTag {line : List Char} (h : startsTag line = true) (column : Nat) :
    columnAfter column line = indentOf line := by
  obtain ⟨rest, hrest⟩ := List.head?_eq_some_iff.mp (of_decide_eq_true h)
  rw [columnAfter, hrest]
  rfl

lemma columnAfter_of_not_startsTag {line : List Char} (h : startsTag line = false) (column : Nat) :
    columnAfter column line = column := by
  rw [columnAfter]
  split
  · rename_i hrest
    rw [startsTag, hrest] at h
    cases h
  · rfl

/-- The column moves with the line. -/
lemma columnAfter_move (d column : Nat) (line : List Char) :
    columnAfter (column + d) (List.replicate d ' ' ++ line) = columnAfter column line + d := by
  have hshift := columnAfter_shift (isBlank_of_mem_replicate (d := d)) column line
  rwa [List.length_replicate] at hshift

/-- A line that moves with the column comes out the same. -/
lemma dedentLine_move (d column : Nat) (line : List Char) :
    dedentLine (column + d) (List.replicate d ' ' ++ line) = dedentLine column line := by
  have hshift := dedentLine_shift (isBlank_of_mem_replicate (d := d)) column line
  rwa [List.length_replicate] at hshift

section

variable {d : Nat} {ls ls' : List (List Char)}

/-- Lines that move with the column come out the same. -/
lemma dedent_move (h : List.Forall₂ (MovedLine d) ls ls') (column : Nat) :
    dedent (column + d) ls' = dedent column ls := by
  induction h generalizing column with
  | nil => rfl
  | cons hline _ ih =>
    rw [dedent, dedent]
    rcases hline with rfl | ⟨rfl, hwhite⟩
    · rw [columnAfter_move, dedentLine_move, ih]
    · rw [columnAfter_of_allBlank hwhite, columnAfter_of_allBlank hwhite,
        dedentLine_of_blank (List.all_eq_true.mp hwhite),
        dedentLine_of_blank (List.all_eq_true.mp hwhite), ih]

/-- Where a tag sets the column before there is text, the column before that has no effect. -/
lemma dedent_of_anchored (h : List.Forall₂ (MovedLine d) ls ls') (hanchored : anchored ls = true)
    (column column' : Nat) : dedent column' ls' = dedent column ls := by
  induction h with
  | nil => rfl
  | @cons line line' _ _ hline hrest ih =>
    rw [anchored, Bool.or_eq_true, Bool.and_eq_true] at hanchored
    rw [dedent, dedent]
    rcases hanchored with htag | ⟨hwhite, hanchored⟩
    · -- a line with a tag is moved, and its own column with it
      have hmoved : line' = List.replicate d ' ' ++ line := by
        refine hline.resolve_right fun ⟨_, hwhite⟩ => ?_
        rw [startsTag_of_allBlank hwhite] at htag
        cases htag
      subst hmoved
      have hcolumn : columnAfter column' (List.replicate d ' ' ++ line)
          = columnAfter column line + d := by
        rw [← columnAfter_move, columnAfter_of_startsTag (by rwa [startsTag_move]),
          columnAfter_of_startsTag (by rwa [startsTag_move])]
      rw [hcolumn, dedentLine_move, dedent_move hrest]
    · have hwhite' : allBlank line' = true := by
        rcases hline with rfl | ⟨rfl, -⟩
        · rwa [allBlank_move]
        · exact hwhite
      rw [columnAfter_of_allBlank hwhite, columnAfter_of_allBlank hwhite',
        dedentLine_of_blank (List.all_eq_true.mp hwhite),
        dedentLine_of_blank (List.all_eq_true.mp hwhite'), ih hanchored]

/-- Steady lines come out the same when all but the first are moved, with the column or not. -/
theorem dedent_of_steady (h : List.Forall₂ (MovedLine d) ls ls') {first : List Char} {moves : Bool}
    {column : Nat} (hsteady : steady moves column (first :: ls) = true) :
    dedent (if moves then column + d else column) (first :: ls')
      = dedent column (first :: ls) := by
  rw [steady] at hsteady
  rw [dedent, dedent]
  cases htag : startsTag first with
  | true =>
    rw [htag, Bool.true_or, if_pos rfl] at hsteady
    rw [columnAfter_of_startsTag htag, columnAfter_of_startsTag htag,
      dedent_of_anchored h hsteady]
  | false =>
    rw [columnAfter_of_not_startsTag htag, columnAfter_of_not_startsTag htag]
    cases moves with
    | false =>
      rw [htag] at hsteady
      rw [if_neg Bool.false_ne_true, dedent_of_anchored h hsteady]
    | true =>
      rw [htag, if_neg (by decide), Bool.or_eq_true, decide_eq_true_eq] at hsteady
      rw [if_pos rfl, dedent_move h]
      congr 1
      rcases hsteady with hwhite | hle
      · rw [dedentLine_of_blank (List.all_eq_true.mp hwhite),
          dedentLine_of_blank (List.all_eq_true.mp hwhite)]
      · rw [dedentLine, dedentLine, Nat.min_eq_right hle, Nat.min_eq_right (by omega)]

end

/-! ## Lines that are not steady -/

/-- A line moved by `d` spaces, unless it is white. -/
def moveLine (d : Nat) (line : List Char) : List Char :=
  if allBlank line then line else List.replicate d ' ' ++ line

lemma movedLine_moveLine (d : Nat) (ls : List (List Char)) :
    List.Forall₂ (MovedLine d) ls (ls.map (moveLine d)) := by
  refine List.forall₂_map_right_iff.mpr (List.forall₂_same.mpr fun line _ => ?_)
  rw [moveLine]
  split
  · exact Or.inr ⟨rfl, ‹_›⟩
  · exact Or.inl rfl

lemma length_dedentLine {line : List Char} (h : allBlank line = false) (column : Nat) :
    (dedentLine column line).length = line.length - min column (indentOf line) := by
  rw [dedentLine, h, if_neg Bool.false_ne_true, List.length_drop]

/-- Where text comes before a tag sets the column, a long way to the right shows. -/
lemma dedent_ne_of_not_anchored {ls : List (List Char)} (h : anchored ls = false)
    (column column' : Nat) :
    dedent column' (ls.map (moveLine (column' + 1))) ≠ dedent column ls := by
  induction ls with
  | nil => cases h
  | cons line rest ih =>
    rw [anchored, Bool.or_eq_false_iff] at h
    obtain ⟨htag, h⟩ := h
    rw [List.map_cons, dedent, dedent]
    intro heq
    obtain ⟨hline, hrest⟩ := List.cons.inj heq
    cases hwhite : allBlank line with
    | true =>
      rw [hwhite, Bool.true_and] at h
      rw [moveLine, if_pos hwhite, columnAfter_of_allBlank hwhite,
        columnAfter_of_allBlank hwhite] at hrest
      exact ih h hrest
    | false =>
      -- more spaces have been put in front of the text than the column takes away
      have hmoved : moveLine (column' + 1) line = List.replicate (column' + 1) ' ' ++ line :=
        if_neg (by simp [hwhite])
      have htag' := (startsTag_move (column' + 1) line).trans htag
      have hwhite' := (allBlank_move (column' + 1) line).trans hwhite
      rw [hmoved, columnAfter_of_not_startsTag htag, columnAfter_of_not_startsTag htag'] at hline
      have hlength := congrArg List.length hline
      rw [length_dedentLine hwhite, length_dedentLine hwhite', List.length_append,
        List.length_replicate] at hlength
      omega

/-- **Steadiness is just what re-indentation needs.** Lines come out the same however far all but the
first are moved if and only if they are steady. -/
theorem steady_iff_forall_dedent {first : List Char} {ls : List (List Char)} {moves : Bool}
    {column : Nat} :
    steady moves column (first :: ls) = true ↔
      ∀ d, dedent (if moves then column + d else column) (first :: ls.map (moveLine d))
        = dedent column (first :: ls) := by
  constructor
  · intro hsteady d
    exact dedent_of_steady (movedLine_moveLine d ls) hsteady
  intro h
  rw [steady]
  by_contra hsteady
  cases htag : startsTag first with
  | true =>
    have hanchored : anchored ls = false := by simpa [htag] using hsteady
    have heq := h (indentOf first + 1)
    rw [dedent, dedent, columnAfter_of_startsTag htag, columnAfter_of_startsTag htag] at heq
    exact dedent_ne_of_not_anchored hanchored _ _ (List.cons.inj heq).2
  | false =>
    cases moves with
    | false =>
      have hanchored : anchored ls = false := by simpa [htag] using hsteady
      have heq := h (column + 1)
      rw [dedent, dedent, columnAfter_of_not_startsTag htag,
        columnAfter_of_not_startsTag htag] at heq
      exact dedent_ne_of_not_anchored hanchored _ _ (List.cons.inj heq).2
    | true =>
      -- the first line stays, and one space more is taken from it
      obtain ⟨hwhite, hlt⟩ : allBlank first = false ∧ column < indentOf first := by
        simpa [htag] using hsteady
      have heq := h 1
      rw [if_pos rfl, dedent, dedent, columnAfter_of_not_startsTag htag,
        columnAfter_of_not_startsTag htag] at heq
      have hlength := congrArg List.length (List.cons.inj heq).1
      have hle : indentOf first ≤ first.length := (List.takeWhile_prefix _).length_le
      rw [length_dedentLine hwhite, length_dedentLine hwhite] at hlength
      omega

end DocComment.Reindent
