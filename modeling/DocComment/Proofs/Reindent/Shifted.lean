import DocComment.Proofs.Reindent.Indentation
import DocComment.Proofs.Text.Indented

/-!
# Re-indentation of shifted texts

A text is shifted by putting white space in front of its lines: as many characters everywhere, but
which ones may differ from line to line, and a white line stays as it is. Line breaks of any kind
stay what they are, so that the lines of the shifted text are the shifted lines (`lines_shifted`).
Re-indentation from a column that has moved along takes the shift back (`reindentString_shifted`).
-/

namespace DocComment.Text

/-! ## Shifted texts -/

/-- What is put in front of the line that a text begins with: nothing if the line is white. -/
def lead (chosen s : List Char) : List Char :=
  if allBlank (firstLine s) then [] else chosen

/-- A text with `chosen n` in front of the line number `n` behind the one that it begins with. -/
def shiftedBehind (chosen : Nat → List Char) : List Char → List Char
  | [] => []
  | '\r' :: '\n' :: rest =>
    '\r' :: '\n' :: (lead (chosen 0) rest ++ shiftedBehind (fun n => chosen (n + 1)) rest)
  | c :: rest =>
    if isBreak c then c :: (lead (chosen 0) rest ++ shiftedBehind (fun n => chosen (n + 1)) rest)
    else c :: shiftedBehind chosen rest

/-- A text with `chosen n` in front of its line number `n`, counted from zero, unless that line is
white. -/
def shifted (chosen : Nat → List Char) (s : List Char) : List Char :=
  lead (chosen 0) s ++ shiftedBehind (fun n => chosen (n + 1)) s

/-- A line with a text in front of it, unless the line is white. -/
def shiftLine (chosen line : List Char) : List Char :=
  if allBlank line then line else chosen ++ line

/-! ## The lines of a text -/

lemma lines_return_lineFeed (s : List Char) : lines ('\r' :: '\n' :: s) = [] :: lines s := by
  rw [lines, toLineFeeds_return_lineFeed, splitOn_cons_self]
  rfl

/-- A line break begins a new line. -/
lemma lines_of_break {c : Char} (hc : isBreak c = true) {s : List Char}
    (hs : c = '\r' → s.head? ≠ some '\n') : lines (c :: s) = [] :: lines s := by
  have hfeeds : toLineFeeds (c :: s) = '\n' :: toLineFeeds s := by
    rcases isBreak_iff.mp hc with rfl | rfl
    · exact toLineFeeds_cons_of_ne (by decide) s
    · exact toLineFeeds_return (hs rfl)
  rw [lines, hfeeds, splitOn_cons_self]
  rfl

/-- A text without line breaks before another belongs to its first line. -/
lemma lines_append_of_unbroken {w : List Char} (hw : ∀ c ∈ w, isBreak c = false)
    {s first : List Char} {rest : List (List Char)} (h : lines s = first :: rest) :
    lines (w ++ s) = (w ++ first) :: rest := by
  have hreturn : '\r' ∉ w := fun hmem => absurd (hw _ hmem) (by decide)
  have hfeed : '\n' ∉ w := fun hmem => absurd (hw _ hmem) (by decide)
  rw [lines, toLineFeeds_append_of_notMem hreturn]
  exact splitOn_append_of_notMem hfeed h

/-- The first of the lines is the first line. -/
lemma firstLine_of_lines {s first : List Char} {rest : List (List Char)}
    (h : lines s = first :: rest) : firstLine s = first := by
  rw [← firstLine_toLineFeeds, firstLine]
  rw [lines] at h
  have hreturn : ∀ c ∈ toLineFeeds s, c ≠ '\r' := fun c hc => (mem_toLineFeeds hc).2
  generalize toLineFeeds s = t at h hreturn
  induction t generalizing first with
  | nil =>
    obtain ⟨rfl, -⟩ := List.cons.inj h
    rfl
  | cons c t ih =>
    obtain ⟨hc, ht⟩ := List.forall_mem_cons.mp hreturn
    obtain ⟨piece, pieces, hpieces⟩ := exists_splitOn_eq '\n' t
    by_cases hfeed : c = '\n'
    · subst hfeed
      rw [splitOn_cons_self] at h
      obtain ⟨rfl, -⟩ := List.cons.inj h
      rfl
    · rw [splitOn_cons_of_ne hfeed hpieces] at h
      obtain ⟨rfl, rfl⟩ := List.cons.inj h
      have hbreak := isBreak_eq_false_iff.mpr ⟨hfeed, hc⟩
      rw [List.takeWhile_cons_of_pos (by simp [hbreak]), ih hpieces ht]

/-! ## The lines of a shifted text -/

lemma head?_shiftedBehind (chosen : Nat → List Char) (s : List Char) :
    (shiftedBehind chosen s).head? = s.head? := by
  fun_cases shiftedBehind chosen s with
  | case1 => rfl
  | case2 => rfl
  | case3 c rest _ hbreak => rfl
  | case4 c rest _ hbreak => rfl

section

variable {chosen : Nat → List Char} (hchosen : ∀ n, ∀ c ∈ chosen n, isBreak c = false)

include hchosen

/-- What is put in front of a text shifts its first line. -/
lemma lines_lead_append (n : Nat) {s t first : List Char} {rest rest' : List (List Char)}
    (hs : lines s = first :: rest) (ht : lines t = first :: rest') :
    lines (lead (chosen n) s ++ t) = shiftLine (chosen n) first :: rest' := by
  rw [lead, firstLine_of_lines hs, shiftLine]
  split
  · exact ht
  · exact lines_append_of_unbroken (hchosen n) ht

/-- No line feed comes into the text after a carriage return. -/
lemma head?_lead_append (n : Nat) {s : List Char} (hs : s.head? ≠ some '\n')
    (chosen' : Nat → List Char) :
    (lead (chosen n) s ++ shiftedBehind chosen' s).head? ≠ some '\n' := by
  intro hhead
  rw [List.head?_append, head?_shiftedBehind] at hhead
  cases hlead : (lead (chosen n) s).head? with
  | none =>
    rw [hlead] at hhead
    exact hs hhead
  | some c =>
    rw [hlead] at hhead
    obtain rfl := Option.some.inj hhead
    have hmem := List.mem_of_mem_head? hlead
    rw [lead] at hmem
    split at hmem
    · cases hmem
    · exact absurd (hchosen n _ hmem) (by decide)

/-- If the lines behind the first one are shifted, shifting the first one too shifts them all. -/
lemma lines_lead_shiftedBehind {s : List Char}
    (hbehind : ∀ {first rest}, lines s = first :: rest →
      lines (shiftedBehind (fun n => chosen (n + 1)) s)
        = first :: rest.mapIdx fun n => shiftLine (chosen (n + 1))) :
    lines (lead (chosen 0) s ++ shiftedBehind (fun n => chosen (n + 1)) s)
      = (lines s).mapIdx fun n => shiftLine (chosen n) := by
  obtain ⟨first, rest, hs⟩ := exists_splitOn_eq '\n' (toLineFeeds s)
  rw [lines_lead_append hchosen 0 hs (hbehind hs), lines, hs, List.mapIdx_cons]

/-- Behind the first line every line is shifted. -/
lemma lines_shiftedBehind {s first : List Char} {rest : List (List Char)}
    (h : lines s = first :: rest) :
    lines (shiftedBehind chosen s) = first :: rest.mapIdx fun n => shiftLine (chosen n) := by
  fun_induction shiftedBehind chosen s generalizing first rest with
  | case1 =>
    obtain ⟨rfl, rfl⟩ := List.cons.inj h
    rfl
  | case2 chosen tail ih =>
    rw [lines_return_lineFeed] at h ⊢
    obtain ⟨rfl, rfl⟩ := List.cons.inj h
    rw [lines_lead_shiftedBehind hchosen (ih fun n => hchosen (n + 1))]
  | case3 chosen c tail hpair hbreak ih =>
    have htail : c = '\r' → tail.head? ≠ some '\n' := by
      rintro rfl hhead
      obtain ⟨t, rfl⟩ := List.head?_eq_some_iff.mp hhead
      exact hpair t rfl rfl
    rw [lines_of_break hbreak htail] at h
    obtain ⟨rfl, rfl⟩ := List.cons.inj h
    rw [lines_of_break hbreak fun hc => head?_lead_append hchosen 0 (htail hc) _,
      lines_lead_shiftedBehind hchosen (ih fun n => hchosen (n + 1))]
  | case4 chosen c tail _ hbreak ih =>
    obtain ⟨first', rest', htail⟩ := exists_splitOn_eq '\n' (toLineFeeds tail)
    have hc : ∀ d ∈ [c], isBreak d = false := by simpa using hbreak
    have hhere := lines_append_of_unbroken hc htail
    rw [List.singleton_append] at hhere
    rw [hhere] at h
    obtain ⟨rfl, rfl⟩ := List.cons.inj h
    exact lines_append_of_unbroken hc (ih hchosen htail)

/-- The lines of a shifted text are the shifted lines. -/
theorem lines_shifted (s : List Char) :
    lines (shifted chosen s) = (lines s).mapIdx fun n => shiftLine (chosen n) :=
  lines_lead_shiftedBehind hchosen (lines_shiftedBehind fun n => hchosen (n + 1))

end

end DocComment.Text

namespace DocComment.Reindent

open DocComment.Text

/-! ## Re-indentation -/

/-- Shifted lines come out the same from a column that moves along. -/
lemma dedent_shift {d : Nat} {chosen : Nat → List Char} (hlength : ∀ n, (chosen n).length = d)
    (hblank : ∀ n, ∀ c ∈ chosen n, isBlank c = true) (column : Nat) (ls : List (List Char)) :
    dedent (column + d) (ls.mapIdx fun n => shiftLine (chosen n)) = dedent column ls := by
  induction ls generalizing column chosen with
  | nil => rfl
  | cons line rest ih =>
    rw [List.mapIdx_cons, dedent, dedent]
    cases hwhite : allBlank line with
    | true =>
      rw [shiftLine, if_pos hwhite, columnAfter_of_allBlank hwhite, columnAfter_of_allBlank hwhite,
        dedentLine_of_blank (List.all_eq_true.mp hwhite),
        dedentLine_of_blank (List.all_eq_true.mp hwhite),
        ih (fun n => hlength (n + 1)) (fun n => hblank (n + 1))]
    | false =>
      have hcolumn := columnAfter_shift (hblank 0) column line
      have hline := dedentLine_shift (hblank 0) (columnAfter column line) line
      rw [hlength 0] at hcolumn hline
      rw [shiftLine, hwhite, if_neg Bool.false_ne_true, hcolumn, hline,
        ih (fun n => hlength (n + 1)) (fun n => hblank (n + 1))]

/-- **Re-indentation takes a shift back.** If every line that is not white gets `d` white space
characters of its own in front of it and the column moves by `d`, the result is the same. -/
theorem reindentString_shifted (content : String) (column : Int) (d : Nat)
    (chosen : Nat → List Char)
    (hchosen : ∀ n, (chosen n).length = d ∧
      ∀ c ∈ chosen n, isBlank c = true ∧ c ≠ '\r' ∧ c ≠ '\n') :
    reindentString (String.ofList (shifted chosen content.toList)) (max column 0 + d)
      = reindentString content column := by
  have hbreak : ∀ n, ∀ c ∈ chosen n, isBreak c = false := by
    intro n c hc
    obtain ⟨-, hreturn, hfeed⟩ := (hchosen n).2 c hc
    exact isBreak_eq_false_iff.mpr ⟨hfeed, hreturn⟩
  have hcolumn : (max column 0 + d).toNat = column.toNat + d := by omega
  rw [reindentString, reindentString, String.toList_ofList, reindent, reindent,
    lines_shifted hbreak, hcolumn,
    dedent_shift (fun n => (hchosen n).1) fun n c hc => ((hchosen n).2 c hc).1]

/-- Two white space characters for each line, not the same ones for all. -/
def mixedMargins : Nat → List Char
  | 0 => ['\t', ' ']
  | _ => [' ', '\u3000']

/-- The margins may differ from line to line, and a negative column is as good as none. -/
theorem reindentString_shifted_mixed :
    (∀ n, (mixedMargins n).length = 2 ∧
      ∀ c ∈ mixedMargins n, isBlank c = true ∧ c ≠ '\r' ∧ c ≠ '\n') ∧
    shifted mixedMargins "  a\r\n <b/>\r\n\r\r   c".toList
      = "\t   a\r\n \u3000 <b/>\r\n\r\r \u3000   c".toList ∧
    reindentString (String.ofList (shifted mixedMargins "  a\r\n <b/>\r\n\r\r   c".toList))
        (max (-3) 0 + 2)
      = reindentString "  a\r\n <b/>\r\n\r\r   c" (-3) ∧
    reindentString "  a\r\n <b/>\r\n\r\r   c" (-3) = "  a\n<b/>\n\n\n  c" := by
  have hmargins : ∀ n, (mixedMargins n).length = 2 ∧
      ∀ c ∈ mixedMargins n, isBlank c = true ∧ c ≠ '\r' ∧ c ≠ '\n' := by
    rintro (_ | n)
    all_goals
      refine ⟨rfl, fun c hc => ?_⟩
      rcases List.mem_pair.mp hc with rfl | rfl <;> decide
  exact ⟨hmargins, by decide +kernel, reindentString_shifted _ _ 2 mixedMargins hmargins,
    by decide +kernel⟩

end DocComment.Reindent
