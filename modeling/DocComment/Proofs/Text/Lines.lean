import DocComment.Proofs.Text.LineFeeds

/-!
# Lines taken apart and joined

A text is its lines joined by line feeds, and no line holds a line feed. What replaces every
character by a text without line feeds works line by line.
-/

namespace DocComment.Text

variable {sep : Char}

lemma splitOn_ne_nil (s : List Char) : splitOn sep s ≠ [] := by
  cases s with
  | nil => simp [splitOn]
  | cons c rest =>
    rw [splitOn]
    split
    · simp
    · split <;> simp

lemma exists_splitOn_eq (sep : Char) (s : List Char) :
    ∃ piece pieces, splitOn sep s = piece :: pieces :=
  List.exists_cons_of_ne_nil (splitOn_ne_nil s)

/-- A separator begins a new piece. -/
lemma splitOn_cons_self (s : List Char) : splitOn sep (sep :: s) = [] :: splitOn sep s := by
  obtain ⟨piece, pieces, h⟩ := exists_splitOn_eq sep s
  rw [splitOn, h]
  simp

/-- Any other character is put before the first piece. -/
lemma splitOn_cons_of_ne {c : Char} (hc : c ≠ sep) {s piece : List Char}
    {pieces : List (List Char)} (h : splitOn sep s = piece :: pieces) :
    splitOn sep (c :: s) = (c :: piece) :: pieces := by
  rw [splitOn, h]
  simp [hc]

/-- A text without separators before another belongs to the first piece. -/
lemma splitOn_append_of_notMem {s : List Char} (hs : sep ∉ s) {t piece : List Char}
    {pieces : List (List Char)} (h : splitOn sep t = piece :: pieces) :
    splitOn sep (s ++ t) = (s ++ piece) :: pieces := by
  induction s with
  | nil => exact h
  | cons c s ih =>
    obtain ⟨hc, hs⟩ : sep ≠ c ∧ sep ∉ s := by simpa using hs
    exact splitOn_cons_of_ne hc.symm (ih hs)

/-- A text without separators is one piece. -/
lemma splitOn_of_notMem {s : List Char} (hs : sep ∉ s) : splitOn sep s = [s] := by
  have hpieces := splitOn_append_of_notMem hs (t := []) rfl
  rwa [List.append_nil] at hpieces

/-- Text behind a separator is split on its own. -/
lemma splitOn_append_cons_self (s t : List Char) :
    splitOn sep (s ++ sep :: t) = splitOn sep s ++ splitOn sep t := by
  induction s with
  | nil => exact splitOn_cons_self t
  | cons c s ih =>
    obtain ⟨piece, pieces, hs⟩ := exists_splitOn_eq sep s
    rw [hs] at ih
    by_cases hc : c = sep
    · subst hc
      rw [List.cons_append, splitOn_cons_self, splitOn_cons_self, ih, hs]
      rfl
    · rw [List.cons_append, splitOn_cons_of_ne hc ih, splitOn_cons_of_ne hc hs]
      rfl

/-- No piece of a text holds the separator. -/
lemma notMem_of_mem_splitOn {s piece : List Char} (h : piece ∈ splitOn sep s) : sep ∉ piece := by
  induction s generalizing piece with
  | nil =>
    obtain rfl := List.mem_singleton.mp h
    exact List.not_mem_nil
  | cons c s ih =>
    obtain ⟨first, rest, hs⟩ := exists_splitOn_eq sep s
    rw [hs] at ih
    by_cases hc : c = sep
    · subst hc
      rw [splitOn_cons_self, hs] at h
      rcases List.mem_cons.mp h with rfl | h
      · exact List.not_mem_nil
      · exact ih h
    · rw [splitOn_cons_of_ne hc hs] at h
      rcases List.mem_cons.mp h with rfl | h
      · have hfirst : sep ∉ first := ih List.mem_cons_self
        exact fun hmem => (List.mem_cons.mp hmem).elim (fun heq => hc heq.symm) hfirst
      · exact ih (List.mem_cons_of_mem _ h)

lemma unlines_cons {l : List Char} {ls : List (List Char)} (h : ls ≠ []) :
    unlines (l :: ls) = l ++ '\n' :: unlines ls := by
  rw [unlines, List.intercalate_cons_of_ne_nil h, List.append_assoc]
  rfl

@[simp] lemma unlines_singleton (l : List Char) : unlines [l] = l :=
  List.intercalate_singleton

/-- The pieces between line feeds, joined again, are the text. -/
lemma unlines_splitOn (s : List Char) : unlines (splitOn '\n' s) = s := by
  induction s with
  | nil => rfl
  | cons c s ih =>
    obtain ⟨piece, pieces, h⟩ := exists_splitOn_eq '\n' s
    by_cases hc : c = '\n'
    · rw [hc, splitOn_cons_self, unlines_cons (splitOn_ne_nil s), ih]
      rfl
    · rw [splitOn_cons_of_ne hc h]
      rw [h] at ih
      cases pieces with
      | nil =>
        rw [unlines_singleton] at ih ⊢
        rw [ih]
      | cons next pieces =>
        rw [unlines_cons (by simp)] at ih ⊢
        rw [List.cons_append, ih]

/-- Lines that hold no line feed come back when they are joined and taken apart. -/
lemma splitOn_unlines {ls : List (List Char)} (hne : ls ≠ []) (hls : ∀ l ∈ ls, '\n' ∉ l) :
    splitOn '\n' (unlines ls) = ls := by
  induction ls with
  | nil => exact absurd rfl hne
  | cons l ls ih =>
    obtain ⟨hl, hls⟩ := List.forall_mem_cons.mp hls
    cases ls with
    | nil => rw [unlines_singleton, splitOn_of_notMem hl]
    | cons next ls =>
      rw [unlines_cons (by simp), splitOn_append_cons_self, splitOn_of_notMem hl,
        ih (by simp) hls, List.singleton_append]

/-- The lines of a text, joined again, are the text with line feeds for its line breaks. -/
lemma unlines_lines (s : List Char) : unlines (lines s) = toLineFeeds s :=
  unlines_splitOn (toLineFeeds s)

section

variable {f : Char → List Char} (hfeed : f '\n' = ['\n']) (hf : ∀ c, c ≠ '\n' → '\n' ∉ f c)

include hfeed

/-- Replacing characters works line by line when joining. -/
lemma unlines_map_flatMap (ls : List (List Char)) :
    unlines (ls.map (·.flatMap f)) = (unlines ls).flatMap f := by
  induction ls with
  | nil => rfl
  | cons l ls ih =>
    cases ls with
    | nil => rw [List.map_singleton, unlines_singleton, unlines_singleton]
    | cons next ls =>
      rw [List.map_cons, unlines_cons (by simp), unlines_cons (by simp), ih, List.flatMap_append,
        List.flatMap_cons, hfeed]
      rfl

include hf

/-- Replacing characters works line by line when taking apart. -/
lemma splitOn_flatMap (s : List Char) :
    splitOn '\n' (s.flatMap f) = (splitOn '\n' s).map (·.flatMap f) := by
  induction s with
  | nil => rfl
  | cons c s ih =>
    obtain ⟨piece, pieces, h⟩ := exists_splitOn_eq '\n' s
    rw [h] at ih
    rw [List.flatMap_cons]
    by_cases hc : c = '\n'
    · subst hc
      rw [hfeed, List.singleton_append, splitOn_cons_self, splitOn_cons_self, ih, h]
      rfl
    · rw [splitOn_append_of_notMem (hf c hc) ih, splitOn_cons_of_ne hc h]
      rfl

end

/-- A line that is put behind a text comes after its lines, except for the empty one that a final
carriage return begins. -/
lemma lines_append_lineFeed (s : List Char) {t : List Char} (hreturn : '\r' ∉ t)
    (hfeed : '\n' ∉ t) : ∃ above, above <+: lines s ∧ lines (s ++ '\n' :: t) = above ++ [t] := by
  have ht : splitOn '\n' t = [t] := splitOn_of_notMem hfeed
  have hfeeds : toLineFeeds ('\n' :: t) = '\n' :: t := by
    rw [toLineFeeds_cons_of_ne (by decide), toLineFeeds_of_notMem hreturn]
  by_cases hlast : s.getLast? = some '\r'
  · -- the carriage return and the line feed are one line break
    obtain ⟨front, rfl⟩ := List.getLast?_eq_some_iff.mp hlast
    have hcut (rest : List Char) : toLineFeeds (front ++ '\r' :: rest)
        = toLineFeeds front ++ toLineFeeds ('\r' :: rest) :=
      toLineFeeds_append fun _ => by simp
    refine ⟨lines front, ⟨[[]], ?_⟩, ?_⟩
    · rw [lines, lines, hcut]
      exact (splitOn_append_cons_self _ []).symm
    · rw [lines, List.append_assoc, List.singleton_append, hcut, toLineFeeds_return_lineFeed,
        toLineFeeds_of_notMem hreturn, splitOn_append_cons_self, ht]
      rfl
  · refine ⟨lines s, List.prefix_refl _, ?_⟩
    rw [lines, toLineFeeds_append fun h => absurd h hlast, hfeeds, splitOn_append_cons_self, ht]
    rfl

end DocComment.Text
