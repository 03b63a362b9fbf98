import DocComment.Proofs.Reindent.CodeRegions
import Mathlib.Data.List.DropRight

/-!
# Re-indentation at column zero is idempotent

A re-indented text is settled: a line of it is empty, or it is not white and, if it begins with a
tag, not indented. Re-indentation from column zero leaves such lines as they are. Trimming a code
region joins lines, but only to a line that has begun already, so that the joined line begins as
before (`Joins.settled`). A second trimming finds the same regions, trimmed (`trimCode_trimCode`).
-/

namespace DocComment.Text

/-! ## Trimmed ends -/

section

variable {p : Char → Bool} {s : List Char}

lemma eq_false_of_head?_trimWhile {c : Char} (hc : c ∈ (trimWhile p s).head?) : p c = false := by
  obtain ⟨back, hback⟩ : trimWhile p s <+: s.dropWhile p := List.rdropWhile_prefix p _
  have hstop := List.head?_dropWhile_not p s
  rw [← hback, List.head?_append, Option.mem_def.mp hc] at hstop
  simpa using hstop

lemma eq_false_of_getLast?_trimWhile {c : Char} (hc : c ∈ (trimWhile p s).getLast?) :
    p c = false := by
  have hstop := List.head?_dropWhile_not p (s.dropWhile p).reverse
  rw [trimWhile, dropEndWhile, List.getLast?_reverse] at hc
  rw [Option.mem_def.mp hc] at hstop
  simpa using hstop

/-- Trimming a second time changes nothing. -/
lemma trimWhile_trimWhile : trimWhile p (trimWhile p s) = trimWhile p s := by
  have hfront : (trimWhile p s).dropWhile p = trimWhile p s := by
    cases htrim : trimWhile p s with
    | nil => rfl
    | cons c t =>
      have hc : p c = false := eq_false_of_head?_trimWhile (s := s) (by rw [htrim]; rfl)
      exact List.dropWhile_cons_of_neg (by simp [hc])
  rw [trimWhile, hfront]
  exact List.rdropWhile_idempotent p (s.dropWhile p)

end

end DocComment.Text

namespace DocComment.Reindent

open DocComment.Text

/-! ## Settled lines -/

/-- Whether re-indentation from column zero leaves a line, and the column, as they are. -/
def Settled (line : List Char) : Prop :=
  dedentLine 0 line = line ∧ columnAfter 0 line = 0

/-- A line that is not white is settled if a tag at its beginning is not indented. -/
lemma settled_indentation {blanks rest : List Char} (hblanks : ∀ c ∈ blanks, isBlank c = true)
    (hrest : ∀ c ∈ rest.head?, isBlank c = false) (hne : rest ≠ []) :
    Settled (blanks ++ rest) ↔ (rest.head? = some '<' → blanks = []) := by
  rw [Settled, dedentLine_indentation hblanks hrest hne, columnAfter_indentation hblanks hrest]
  simp

/-- Every line of a re-indented text is settled. -/
lemma settled_dedentLine (column : Nat) (line : List Char) :
    Settled (dedentLine (columnAfter column line) line) := by
  obtain ⟨blanks, rest, rfl, hblanks, hrest⟩ := exists_indentation line
  by_cases hne : rest = []
  · subst hne
    rw [List.append_nil, dedentLine_of_blank hblanks]
    exact ⟨rfl, rfl⟩
  · rw [dedentLine_indentation hblanks hrest hne, columnAfter_indentation hblanks hrest,
      settled_indentation (fun c hc => hblanks c (List.mem_of_mem_drop hc)) hrest hne]
    intro htag
    rw [if_pos htag, List.drop_length]

lemma settled_dedent (column : Nat) (ls : List (List Char)) :
    ∀ l ∈ dedent column ls, Settled l := by
  induction ls generalizing column with
  | nil => exact List.forall_mem_nil _
  | cons line rest ih =>
    exact List.forall_mem_cons.mpr ⟨settled_dedentLine column line, ih _⟩

/-- What is left of a line is its end. -/
lemma exists_suffix_of_mem_dedent {column : Nat} {ls : List (List Char)} {l : List Char}
    (h : l ∈ dedent column ls) : ∃ line ∈ ls, l <:+ line := by
  induction ls generalizing column with
  | nil => cases h
  | cons line rest ih =>
    rcases List.mem_cons.mp h with rfl | h
    · refine ⟨line, List.mem_cons_self, ?_⟩
      rw [dedentLine]
      split
      · exact List.nil_suffix
      · exact List.drop_suffix _ _
    · obtain ⟨line', hline', hsuffix⟩ := ih h
      exact ⟨line', List.mem_cons_of_mem _ hline', hsuffix⟩

/-- Settled lines stay as they are. -/
lemma dedent_of_settled {ls : List (List Char)} (h : ∀ l ∈ ls, Settled l) : dedent 0 ls = ls := by
  induction ls with
  | nil => rfl
  | cons line rest ih =>
    obtain ⟨⟨hline, hcolumn⟩, hrest⟩ := List.forall_mem_cons.mp h
    rw [dedent, hcolumn, hline, ih hrest]

/-- What is put behind a line that has begun does not matter. -/
lemma Settled.append {line t : List Char} (h : Settled line) (ht : line = [] → t = []) :
    Settled (line ++ t) := by
  by_cases hne : line = []
  · rw [ht hne, List.append_nil]
    exact h
  obtain ⟨blanks, rest, rfl, hblanks, hrest⟩ := exists_indentation line
  have hvisible : rest ≠ [] := by
    rintro rfl
    have hwhite := h.1
    rw [List.append_nil, dedentLine_of_blank hblanks] at hwhite
    exact hne (by rw [List.append_nil, ← hwhite])
  obtain ⟨c, rest, rfl⟩ := List.exists_cons_of_ne_nil hvisible
  rw [settled_indentation hblanks hrest hvisible] at h
  rw [List.append_assoc, settled_indentation hblanks (by exact hrest) (by simp)]
  exact h

/-! ## Joined lines -/

/-- The second text is the first without some of its line feeds, each of which stood behind a line
that had begun. The flags say whether the line at the beginning and the line at the end have. -/
inductive Joins : Bool → List Char → List Char → Bool → Prop
  | nil (begun : Bool) : Joins begun [] [] begun
  | character {begun last : Bool} {s t : List Char} (c : Char) (hc : c ≠ '\n')
      (h : Joins true s t last) : Joins begun (c :: s) (c :: t) last
  | lineFeed {begun last : Bool} {s t : List Char} (h : Joins false s t last) :
      Joins begun ('\n' :: s) ('\n' :: t) last
  | join {last : Bool} {s t : List Char} (h : Joins true s t last) : Joins true ('\n' :: s) t last

namespace Joins

variable {begun mid last : Bool} {s t s' t' : List Char}

lemma append (h : Joins begun s t mid) (h' : Joins mid s' t' last) :
    Joins begun (s ++ s') (t ++ t') last := by
  induction h with
  | nil => exact h'
  | character c hc _ ih => exact .character c hc (ih h')
  | lineFeed _ ih => exact .lineFeed (ih h')
  | join _ ih => exact .join (ih h')

/-- A text may stay as it is, and its last line has begun if no line feed ends it. -/
lemma refl_concat (begun : Bool) (s : List Char) {c : Char} (hc : c ≠ '\n') :
    Joins begun (s ++ [c]) (s ++ [c]) true := by
  induction s generalizing begun with
  | nil => exact .character c hc (.nil true)
  | cons d s ih =>
    by_cases hd : d = '\n'
    · subst hd
      exact .lineFeed (ih false)
    · exact .character d hd (ih true)

/-- A line that has begun may lose all line feeds behind it. -/
lemma lineFeeds (hs : ∀ c ∈ s, decide (c = '\n') = true) : Joins true s [] true := by
  induction s with
  | nil => exact .nil true
  | cons c s ih =>
    obtain ⟨hc, hrest⟩ := List.forall_mem_cons.mp hs
    obtain rfl : c = '\n' := by simpa using hc
    exact .join (ih hrest)

/-- The body of a code region stands behind a line that has begun. -/
lemma trimWhile (s : List Char) : Joins true s (trimWhile (· = '\n') s) true := by
  obtain ⟨front, back, hs, hfront, hback⟩ := exists_trimWhile (· = '\n') s
  have hmiddle : Joins true (Text.trimWhile (· = '\n') s) (Text.trimWhile (· = '\n') s) true := by
    rcases List.eq_nil_or_concat' (Text.trimWhile (· = '\n') s) with hnil | ⟨t, c, hconcat⟩
    · rw [hnil]
      exact .nil true
    · have hlast : c ∈ (Text.trimWhile (· = '\n') s).getLast? := by simp [hconcat]
      rw [hconcat]
      exact refl_concat true t (by simpa using eq_false_of_getLast?_trimWhile hlast)
  have hall := (lineFeeds hfront).append (hmiddle.append (lineFeeds hback))
  rwa [← hs, List.nil_append, List.append_nil] at hall

/-- Trimming code regions joins lines. -/
lemma trimCode (begun : Bool) (s : List Char) : ∃ last, Joins begun s (trimCode s) last := by
  fun_induction Reindent.trimCode s generalizing begun with
  | case1 s attrs body after hregion ih =>
    obtain ⟨last, hafter⟩ := ih true
    have htag : Joins begun (codeOpen ++ attrs ++ ['>']) (codeOpen ++ attrs ++ ['>']) true :=
      refl_concat begun _ (by decide)
    have hclose : Joins true codeClose codeClose true :=
      refl_concat true "</code".toList (c := '>') (by decide)
    have hall := htag.append ((trimWhile body).append (hclose.append hafter))
    refine ⟨last, ?_⟩
    rw [codeRegion?_eq_some hregion]
    simpa only [List.append_assoc, List.cons_append, List.nil_append] using hall
  | case2 => exact ⟨begun, .nil begun⟩
  | case3 c rest _ ih =>
    by_cases hc : c = '\n'
    · subst hc
      obtain ⟨last, hrest⟩ := ih false
      exact ⟨last, .lineFeed hrest⟩
    · obtain ⟨last, hrest⟩ := ih true
      exact ⟨last, .character c hc hrest⟩

lemma sublist (h : Joins begun s t last) : t.Sublist s := by
  induction h with
  | nil => exact List.Sublist.refl []
  | character c _ _ ih => exact ih.cons_cons c
  | lineFeed _ ih => exact ih.cons_cons '\n'
  | join _ ih => exact ih.cons '\n'

/-- Nothing is lost but line feeds. -/
lemma filter (h : Joins begun s t last) : t.filter (· ≠ '\n') = s.filter (· ≠ '\n') := by
  induction h with
  | nil => rfl
  | character c hc _ ih => rw [List.filter_cons, List.filter_cons, ih]
  | lineFeed _ ih => exact ih
  | join _ ih => exact ih

/-- Line by line: the first line may get longer, if it has begun, and settled lines behind it stay
settled. -/
lemma lines (h : Joins begun s t last) {first : List Char} {rest : List (List Char)}
    (hs : splitOn '\n' s = first :: rest) :
    ∃ more rest', splitOn '\n' t = (first ++ more) :: rest' ∧
      (begun = false → first = [] → more = []) ∧
      ((∀ l ∈ rest, Settled l) → ∀ l ∈ rest', Settled l) := by
  induction h generalizing first rest with
  | nil =>
    obtain ⟨rfl, rfl⟩ := List.cons.inj hs
    exact ⟨[], [], rfl, fun _ _ => rfl, id⟩
  | @character _ _ s _ c hc _ ih =>
    obtain ⟨piece, pieces, hpieces⟩ := exists_splitOn_eq '\n' s
    obtain ⟨more, rest', ht, -, hsettled⟩ := ih hpieces
    rw [splitOn_cons_of_ne hc hpieces] at hs
    obtain ⟨rfl, rfl⟩ := List.cons.inj hs
    exact ⟨more, rest', splitOn_cons_of_ne hc ht, by simp, hsettled⟩
  | @lineFeed _ _ s _ _ ih =>
    obtain ⟨piece, pieces, hpieces⟩ := exists_splitOn_eq '\n' s
    obtain ⟨more, rest', ht, hempty, hsettled⟩ := ih hpieces
    rw [splitOn_cons_self, hpieces] at hs
    obtain ⟨rfl, rfl⟩ := List.cons.inj hs
    refine ⟨[], (piece ++ more) :: rest', by rw [splitOn_cons_self, ht]; rfl, fun _ _ => rfl, ?_⟩
    intro hall
    obtain ⟨hpiece, hrest⟩ := List.forall_mem_cons.mp hall
    exact List.forall_mem_cons.mpr ⟨hpiece.append (hempty rfl), hsettled hrest⟩
  | @join _ s _ _ ih =>
    obtain ⟨piece, pieces, hpieces⟩ := exists_splitOn_eq '\n' s
    obtain ⟨more, rest', ht, -, hsettled⟩ := ih hpieces
    rw [splitOn_cons_self, hpieces] at hs
    obtain ⟨rfl, rfl⟩ := List.cons.inj hs
    refine ⟨piece ++ more, rest', ht, by simp, fun hall => ?_⟩
    exact hsettled fun l hl => hall l (List.mem_cons_of_mem _ hl)

/-- Joining lines keeps them settled. -/
theorem settled (h : Joins false s t last) (hs : ∀ l ∈ splitOn '\n' s, Settled l) :
    ∀ l ∈ splitOn '\n' t, Settled l := by
  obtain ⟨first, rest, hfirst⟩ := exists_splitOn_eq '\n' s
  obtain ⟨more, rest', ht, hempty, hsettled⟩ := h.lines hfirst
  rw [hfirst] at hs
  obtain ⟨hline, hrest⟩ := List.forall_mem_cons.mp hs
  rw [ht]
  exact List.forall_mem_cons.mpr ⟨hline.append (hempty rfl), hsettled hrest⟩

end Joins

/-! ## Trimming twice -/

/-- What stands in front of a trimmed text, up to its first tag, stood in front of the text. -/
lemma prefix_of_prefix_trimCode {w : List Char} (hw : '<' ∉ w) {s : List Char}
    (h : w <+: trimCode s) : w <+: s := by
  induction w generalizing s with
  | nil => exact List.nil_prefix
  | cons c w ih =>
    obtain ⟨hc, hw⟩ := not_or.mp (mt List.mem_cons.mpr hw)
    rw [trimCode] at h
    split at h
    · simp only [List.append_assoc] at h
      exact absurd (List.cons_prefix_cons.mp h).1.symm hc
    · cases s with
      | nil => exact h
      | cons d s =>
        obtain ⟨rfl, htail⟩ := List.cons_prefix_cons.mp h
        exact List.cons_prefix_cons.mpr ⟨rfl, ih hw htail⟩

/-- Where no region begins, none begins once the rest is trimmed. -/
lemma codeRegion?_cons_trimCode {c : Char} {s : List Char} (h : codeRegion? (c :: s) = none) :
    codeRegion? (c :: trimCode s) = none := by
  rw [codeRegion?_eq_none_iff] at h ⊢
  intro t ht hcloses
  obtain ⟨rfl, htail⟩ := List.cons.inj ht
  -- the name of the tag has not been put together by trimming
  obtain ⟨u, rfl⟩ := prefix_of_prefix_trimCode (w := "code".toList) (by decide)
    ⟨t, htail.symm⟩
  have hnot := h u rfl
  rw [trimCode_append_of_notMem (by decide), trimCode_of_not_closes hnot] at htail
  exact hnot (List.append_cancel_left htail ▸ hcloses)

/-- A second trimming changes nothing. -/
theorem trimCode_trimCode (s : List Char) : trimCode (trimCode s) = trimCode s := by
  fun_induction trimCode s with
  | case1 s attrs body after hregion ih =>
    obtain ⟨-, hattrs, hbody⟩ := codeRegion?_eq_some_iff.mp hregion
    have htrimmed : ¬ codeClose <:+: trimWhile (· = '\n') body := by
      intro hwithin
      obtain ⟨front, back, heq, -, -⟩ := exists_trimWhile (· = '\n') body
      exact hbody (hwithin.trans ⟨front, back, by rw [List.append_assoc, ← heq]⟩)
    simp only [List.append_assoc, List.cons_append, List.nil_append]
    rw [trimCode_region hattrs htrimmed, trimWhile_trimWhile, ih]
  | case2 => exact trimCode_nil
  | case3 c rest hregion ih => rw [trimCode_cons (codeRegion?_cons_trimCode hregion), ih]

/-! ## Re-indenting twice -/

/-- Every line of a re-indented text is settled, whatever the column. -/
lemma settled_reindent (content : List Char) (column : Int) :
    ∀ l ∈ splitOn '\n' (reindent content column), Settled l := by
  obtain ⟨last, hjoins⟩ := Joins.trimCode false (unlines (dedent column.toNat (lines content)))
  refine hjoins.settled ?_
  have hne : lines content ≠ [] := splitOn_ne_nil _
  rw [splitOn_unlines (dedent_ne_nil hne _)]
  · exact settled_dedent _ _
  · intro l hl hmem
    obtain ⟨line, hline, hsuffix⟩ := exists_suffix_of_mem_dedent hl
    exact notMem_of_mem_splitOn hline (hsuffix.subset hmem)

/-- **Re-indentation from column zero is idempotent.** -/
theorem reindentString_reindentString (content : String) {column : Int} (hcolumn : column ≤ 0) :
    reindentString (reindentString content column) column = reindentString content column := by
  have hzero : column.toNat = 0 := Int.toNat_eq_zero.mpr hcolumn
  have hreturn : '\r' ∉ reindent content.toList column := by
    intro hmem
    exact (mem_toLineFeeds ((dropsBlanks_reindent _ _).mem_of_mem hmem)).2 rfl
  have hlines : lines (reindent content.toList column)
      = splitOn '\n' (reindent content.toList column) := by
    rw [lines, toLineFeeds_of_notMem hreturn]
  have htwice : reindent (reindent content.toList column) column
      = reindent content.toList column := by
    rw [reindent, hzero, hlines, dedent_of_settled (settled_reindent _ _), unlines_splitOn]
    exact trimCode_trimCode _
  rw [reindentString, reindentString, String.toList_ofList, htwice]

/-- A text with code in code, an empty code element, and text in front of the first tag. -/
def codeInCode : String :=
  "  a\r\n    <code />\n\n   b <code x=\"\"\n>\n\n     c\n   </code>\n  </code>\n      d"

theorem reindentString_reindentString_codeInCode :
    (-1 : Int) ≤ 0 ∧
    reindentString codeInCode (-1)
      = "  a\n<code />b <code x=\"\"\n>\n\n c</code>\n</code>\n    d" ∧
    reindentString (reindentString codeInCode (-1)) (-1) = reindentString codeInCode (-1) :=
  ⟨by decide, by decide +kernel, reindentString_reindentString codeInCode (by decide)⟩

end DocComment.Reindent
