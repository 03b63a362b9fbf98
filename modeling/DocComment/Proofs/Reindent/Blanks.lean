import DocComment.Proofs.Reindent.Indentation
import DocComment.Proofs.Text.Lines

/-!
# Re-indenting drops white space only

`DropsBlanks` relates a text to one that has lost some of its white space and nothing else. Each
phase of re-indentation does so: taking indentation off the lines and taking line feeds off the ends
of code regions.

* `dropsBlanks_dedent`: the lines, joined again;
* `dropsBlanks_trimCode`: the code regions;
* `dropsBlanks_reindent`: both, once the line breaks are line feeds.
-/

namespace DocComment.Reindent

open DocComment.Text

/-! ## Lost white space -/

/-- Whether a text arises from another by dropping white space. -/
inductive DropsBlanks : List Char → List Char → Prop
  | nil : DropsBlanks [] []
  | keep (c : Char) {s t : List Char} (h : DropsBlanks s t) : DropsBlanks (c :: s) (c :: t)
  | drop {c : Char} (hc : isBlank c = true) {s t : List Char} (h : DropsBlanks s t) :
    DropsBlanks (c :: s) t

namespace DropsBlanks

lemma refl (s : List Char) : DropsBlanks s s := by
  induction s with
  | nil => exact nil
  | cons c s ih => exact keep c ih

/-- White space may be dropped in two goes. -/
lemma trans {s t u : List Char} (hst : DropsBlanks s t) (htu : DropsBlanks t u) :
    DropsBlanks s u := by
  induction hst generalizing u with
  | nil => exact htu
  | keep c _ ih =>
    cases htu with
    | keep _ h => exact keep c (ih h)
    | drop hc h => exact drop hc (ih h)
  | drop hc _ ih => exact drop hc (ih htu)

lemma append {s t s' t' : List Char} (h : DropsBlanks s t) (h' : DropsBlanks s' t') :
    DropsBlanks (s ++ s') (t ++ t') := by
  induction h with
  | nil => exact h'
  | keep c _ ih => exact keep c ih
  | drop hc _ ih => exact drop hc ih

lemma of_all_blank {s : List Char} (hs : ∀ c ∈ s, isBlank c = true) : DropsBlanks s [] := by
  induction s with
  | nil => exact nil
  | cons c s ih =>
    obtain ⟨hc, hs⟩ := List.forall_mem_cons.mp hs
    exact drop hc (ih hs)

/-- White space in front may go. -/
lemma blank_append {s t : List Char} (hs : ∀ c ∈ s, isBlank c = true) : DropsBlanks (s ++ t) t :=
  (of_all_blank hs).append (refl t)

/-- White space at the end may go. -/
lemma append_blank {s t : List Char} (ht : ∀ c ∈ t, isBlank c = true) : DropsBlanks (s ++ t) s := by
  have h := (refl s).append (of_all_blank ht)
  rwa [List.append_nil] at h

/-- Characters that are no white space are still there, in front of what is left of the rest. -/
lemma of_visible_append {w s t : List Char} (hw : ∀ c ∈ w, isBlank c = false)
    (h : DropsBlanks (w ++ s) t) : ∃ t', t = w ++ t' ∧ DropsBlanks s t' := by
  induction w generalizing t with
  | nil => exact ⟨t, rfl, h⟩
  | cons c w ih =>
    obtain ⟨hc, hw⟩ := List.forall_mem_cons.mp hw
    cases h with
    | keep _ h =>
      obtain ⟨t', rfl, h'⟩ := ih hw h
      exact ⟨t', rfl, h'⟩
    | drop hblank _ =>
      rw [hc] at hblank
      cases hblank

/-- Each part of a text loses its own white space. -/
lemma exists_of_append {s s' t : List Char} (h : DropsBlanks (s ++ s') t) :
    ∃ u u', t = u ++ u' ∧ DropsBlanks s u ∧ DropsBlanks s' u' := by
  induction s generalizing t with
  | nil => exact ⟨[], t, rfl, nil, h⟩
  | cons c s ih =>
    cases h with
    | keep _ h =>
      obtain ⟨u, u', rfl, hu, hu'⟩ := ih h
      exact ⟨c :: u, u', rfl, hu.keep c, hu'⟩
    | drop hc h =>
      obtain ⟨u, u', rfl, hu, hu'⟩ := ih h
      exact ⟨u, u', rfl, hu.drop hc, hu'⟩

lemma mem_of_mem {s t : List Char} (h : DropsBlanks s t) {c : Char} (hc : c ∈ t) : c ∈ s := by
  induction h with
  | nil => exact hc
  | keep d _ ih =>
    rcases List.mem_cons.mp hc with rfl | hc
    · exact List.mem_cons_self
    · exact List.mem_cons_of_mem d (ih hc)
  | drop _ _ ih => exact List.mem_cons_of_mem _ (ih hc)

end DropsBlanks

/-! ## Lines -/

/-- A line is what it loses and what is left of it, and what it loses is white space. -/
lemma exists_margin (column : Nat) (line : List Char) :
    ∃ margin, line = margin ++ dedentLine column line ∧ ∀ c ∈ margin, isBlank c = true := by
  obtain ⟨blanks, rest, rfl, hblanks, hrest⟩ := exists_indentation line
  by_cases hne : rest = []
  · subst hne
    rw [List.append_nil, dedentLine_of_blank hblanks]
    exact ⟨blanks, (List.append_nil blanks).symm, hblanks⟩
  · -- what is dropped lies inside the indentation
    refine ⟨blanks.take column, ?_, fun c hc => hblanks c (List.mem_of_mem_take hc)⟩
    rw [dedentLine_indentation hblanks hrest hne, ← List.append_assoc, List.take_append_drop]

/-- A line loses white space only. -/
lemma dropsBlanks_dedentLine (column : Nat) (line : List Char) :
    DropsBlanks line (dedentLine column line) := by
  obtain ⟨margin, hline, hmargin⟩ := exists_margin column line
  have hdrops := DropsBlanks.blank_append (t := dedentLine column line) hmargin
  rwa [← hline] at hdrops

lemma dedent_ne_nil {ls : List (List Char)} (h : ls ≠ []) (column : Nat) :
    dedent column ls ≠ [] := by
  cases ls with
  | nil => exact absurd rfl h
  | cons l ls => simp [dedent]

/-- Lines that are joined again have lost white space only. -/
lemma dropsBlanks_dedent (column : Nat) (ls : List (List Char)) :
    DropsBlanks (unlines ls) (unlines (dedent column ls)) := by
  induction ls generalizing column with
  | nil => exact .nil
  | cons l ls ih =>
    have hl := dropsBlanks_dedentLine (columnAfter column l) l
    rw [dedent]
    cases ls with
    | nil =>
      rw [dedent, unlines_singleton, unlines_singleton]
      exact hl
    | cons next ls =>
      have hne : next :: ls ≠ [] := by simp
      rw [unlines_cons hne, unlines_cons (dedent_ne_nil hne _)]
      exact hl.append (.keep '\n' (ih _))

/-! ## Code regions -/

/-- A text is what stands before the first occurrence of a pattern, the pattern, and what stands
after it. -/
lemma cutAt?_eq_some {pattern s before after : List Char}
    (h : cutAt? pattern s = some (before, after)) : s = before ++ (pattern ++ after) := by
  induction s generalizing before with
  | nil =>
    rw [cutAt?] at h
    split at h
    · rename_i hempty
      cases h
      rw [List.isEmpty_iff.mp hempty]
      rfl
    · cases h
  | cons c rest ih =>
    rw [cutAt?] at h
    split at h
    · rename_i hpattern
      cases h
      exact (List.prefix_iff_eq_append.mp (List.isPrefixOf_iff_prefix.mp hpattern)).symm
    · obtain ⟨⟨b, a⟩, hrest, heq⟩ := Option.map_eq_some_iff.mp h
      cases heq
      rw [List.cons_append, ← ih hrest]

/-- A text that begins with a code region is the region and what stands after it. -/
lemma codeRegion?_eq_some {s attrs body after : List Char}
    (h : codeRegion? s = some (attrs, body, after)) :
    s = codeOpen ++ (attrs ++ '>' :: (body ++ (codeClose ++ after))) := by
  rw [codeRegion?] at h
  split at h
  · rename_i hopen
    obtain ⟨t, rfl⟩ := List.isPrefixOf_iff_prefix.mp hopen
    rw [List.drop_left] at h
    split at h
    · rename_i attrs' rest hattrs
      split at h
      · rename_i body' after' hbody
        cases h
        rw [cutAt?_eq_some hattrs, cutAt?_eq_some hbody]
        rfl
      · cases h
    · cases h
  · cases h

/-- A text is what is trimmed in front, the trimmed text, and what is trimmed at the end. -/
lemma exists_trimWhile (p : Char → Bool) (s : List Char) :
    ∃ front back, s = front ++ (trimWhile p s ++ back) ∧ (∀ c ∈ front, p c = true) ∧
      ∀ c ∈ back, p c = true := by
  have htake : ∀ t : List Char, ∀ c ∈ t.takeWhile p, p c = true :=
    fun t => List.all_eq_true.mp List.all_takeWhile
  refine ⟨s.takeWhile p, ((s.dropWhile p).reverse.takeWhile p).reverse, ?_, htake s, ?_⟩
  · rw [trimWhile, dropEndWhile, ← List.reverse_append, List.takeWhile_append_dropWhile,
      List.reverse_reverse, List.takeWhile_append_dropWhile]
  · intro c hc
    exact htake _ c (List.mem_reverse.mp hc)

/-- A text without the line feeds at its ends has lost white space only. -/
lemma dropsBlanks_trimWhile (s : List Char) : DropsBlanks s (trimWhile (· = '\n') s) := by
  have hblank : ∀ t : List Char, (∀ c ∈ t, decide (c = '\n') = true) →
      ∀ c ∈ t, isBlank c = true := by
    intro t ht c hc
    obtain rfl : c = '\n' := by simpa using ht c hc
    rfl
  obtain ⟨front, back, hs, hfront, hback⟩ := exists_trimWhile (· = '\n') s
  have hdrops := (DropsBlanks.of_all_blank (hblank front hfront)).append
    (DropsBlanks.append_blank (s := trimWhile (· = '\n') s) (hblank back hback))
  rwa [← hs] at hdrops

/-- Code regions lose white space only. -/
lemma dropsBlanks_trimCode (s : List Char) : DropsBlanks s (trimCode s) := by
  fun_induction trimCode s with
  | case1 s attrs body after hregion ih =>
    have hbody := dropsBlanks_trimWhile body
    have hregion := codeRegion?_eq_some hregion
    simp only [List.append_assoc]
    rw [hregion]
    refine (DropsBlanks.refl codeOpen).append ((DropsBlanks.refl attrs).append ?_)
    exact .keep '>' (hbody.append ((DropsBlanks.refl codeClose).append ih))
  | case2 => exact .nil
  | case3 c rest _ ih => exact .keep c ih

/-- A text whose line breaks are line feeds loses nothing but white space when it is re-indented. -/
theorem dropsBlanks_reindent (content : List Char) (column : Int) :
    DropsBlanks (toLineFeeds content) (reindent content column) := by
  have hdedent := dropsBlanks_dedent column.toNat (lines content)
  rw [unlines_lines] at hdedent
  exact hdedent.trans (dropsBlanks_trimCode _)

end DocComment.Reindent
