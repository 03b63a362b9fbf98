import DocComment.Proofs.Text.Lines
import DocComment.Proofs.Text.Squeeze

/-!
# Indented texts

Indenting a text puts spaces in front of every line but the first, except that a white line stays as
it is. `Indents` says of two texts that the second is the first with some of its lines moved so; it
remembers whether the line at hand is one that has been kept and must therefore stay white. Pieces of
texts can be put together when the end of one fits the beginning of the next.
-/

namespace DocComment.Text

/-! ## Indenting -/

/-- Whether a character ends a line. -/
def isBreak (c : Char) : Bool :=
  c = '\n' || c = '\r'

lemma isBreak_iff {c : Char} : isBreak c = true ↔ c = '\n' ∨ c = '\r' := by
  simp [isBreak]

lemma isBreak_eq_false_iff {c : Char} : isBreak c = false ↔ c ≠ '\n' ∧ c ≠ '\r' := by
  simp [isBreak]

/-- The first line of a text. -/
def firstLine (s : List Char) : List Char :=
  s.takeWhile (!isBreak ·)

/-- What is put in front of the first line of a text: spaces, unless the line is white. -/
def margin (d : Nat) (s : List Char) : List Char :=
  if allBlank (firstLine s) then [] else List.replicate d ' '

/-- A text with spaces in front of every line but the first, unless the line is white. -/
def indented (d : Nat) : List Char → List Char
  | [] => []
  | '\r' :: '\n' :: rest => '\r' :: '\n' :: (margin d rest ++ indented d rest)
  | c :: rest => c :: ((if isBreak c then margin d rest else []) ++ indented d rest)

lemma indented_of_break {d : Nat} {c : Char} (hc : isBreak c = true) {s : List Char}
    (hs : c = '\r' → s.head? ≠ some '\n') :
    indented d (c :: s) = c :: (margin d s ++ indented d s) := by
  rw [indented, if_pos hc]
  rintro rest rfl rfl
  exact hs rfl rfl

lemma indented_of_not_break {d : Nat} {c : Char} (hc : isBreak c = false) (s : List Char) :
    indented d (c :: s) = c :: indented d s := by
  rw [indented, hc, if_neg Bool.false_ne_true, List.nil_append]
  rintro rest rfl
  exact absurd hc (by decide)

lemma head?_indented (d : Nat) (s : List Char) : (indented d s).head? = s.head? := by
  fun_cases indented d s <;> rfl

/-- The first line ends with the first line break of any kind. -/
lemma firstLine_toLineFeeds (s : List Char) : firstLine (toLineFeeds s) = firstLine s := by
  rw [firstLine, firstLine]
  fun_induction toLineFeeds s with
  | case1 => rfl
  | case2 rest _ => rfl
  | case3 c rest _ ih =>
    by_cases hc : c = '\r'
    · subst hc
      rfl
    · rw [if_neg hc, List.takeWhile_cons, List.takeWhile_cons, ih]

lemma margin_toLineFeeds (d : Nat) (s : List Char) : margin d (toLineFeeds s) = margin d s := by
  rw [margin, margin, firstLine_toLineFeeds]

lemma mem_margin {d : Nat} {s : List Char} {c : Char} (hc : c ∈ margin d s) : c = ' ' := by
  rw [margin] at hc
  split at hc
  · cases hc
  · exact List.eq_of_mem_replicate hc

/-- Indenting does not depend on the kind of line breaks. -/
lemma toLineFeeds_indented (d : Nat) (s : List Char) :
    toLineFeeds (indented d s) = indented d (toLineFeeds s) := by
  have hmargin : ∀ s t, toLineFeeds (margin d s ++ t) = margin d s ++ toLineFeeds t := by
    intro s t
    refine toLineFeeds_append_of_notMem (fun hmem => ?_) t
    exact absurd (mem_margin hmem) (by decide)
  fun_induction toLineFeeds s with
  | case1 => rfl
  | case2 rest ih =>
    rw [indented, toLineFeeds_return_lineFeed, hmargin, ih,
      indented_of_break (by decide) (by simp), margin_toLineFeeds]
  | case3 c rest hbreak ih =>
    have hrest : c = '\r' → rest.head? ≠ some '\n' := by
      rintro rfl hhead
      obtain ⟨tail, rfl⟩ := List.head?_eq_some_iff.mp hhead
      exact hbreak tail rfl rfl
    by_cases hc : c = '\r'
    · -- what follows a lone carriage return is still no line feed
      have hhead : (margin d rest ++ indented d rest).head? ≠ some '\n' := by
        intro hhead
        rw [List.head?_append, head?_indented] at hhead
        cases hm : (margin d rest).head? with
        | none =>
          rw [hm] at hhead
          exact hrest hc hhead
        | some e =>
          rw [hm] at hhead
          have he := mem_margin (List.mem_of_mem_head? hm)
          cases hhead
          cases he
      subst hc
      rw [indented_of_break (by decide) hrest, toLineFeeds_return hhead, hmargin, ih, if_pos rfl,
        indented_of_break (by decide) (by simp), margin_toLineFeeds]
    · rw [if_neg hc]
      cases hfeed : isBreak c with
      | true =>
        rw [indented_of_break hfeed hrest, toLineFeeds_cons_of_ne hc, hmargin, ih,
          indented_of_break hfeed (by simp [hc]), margin_toLineFeeds]
      | false =>
        rw [indented_of_not_break hfeed, toLineFeeds_cons_of_ne hc, ih,
          indented_of_not_break hfeed]

/-- Indenting only adds white space to white space. -/
lemma squeeze_indented (d : Nat) (s : List Char) : squeeze (indented d s) = squeeze s := by
  have hmargin : ∀ s, ∀ c ∈ margin d s, isBlank c = true := by
    intro s c hc
    rw [mem_margin hc]
    decide
  fun_induction indented d s with
  | case1 => rfl
  | case2 rest ih =>
    rw [squeeze_of_blank (by decide), squeeze_cons_append (by decide) (hmargin rest),
      squeeze_of_blank (by decide), ih, ← squeeze_of_blank (c := '\n') (by decide),
      ← squeeze_of_blank (c := '\r') (by decide)]
  | case3 c rest _ ih =>
    cases hc : isBreak c with
    | true =>
      have hblank : isBlank c = true := by
        rcases isBreak_iff.mp hc with rfl | rfl <;> decide
      rw [if_pos rfl, squeeze_cons_append hblank (hmargin rest), squeeze_of_blank hblank, ih,
        ← squeeze_of_blank hblank]
    | false => rw [if_neg Bool.false_ne_true, List.nil_append, squeeze, squeeze, ih]

/-! ## Texts with moved lines -/

/-- The second text is the first with some lines moved by `d` spaces and others kept. The first flag
says whether the line at the beginning has been kept, the last one whether the line at the end has;
a kept line is white. No carriage return ends a line. -/
inductive Indents (d : Nat) : Bool → List Char → List Char → Bool → Prop
  | nil (kept : Bool) : Indents d kept [] [] kept
  | character {kept last : Bool} {s t : List Char} (c : Char) (hc : isBreak c = false)
      (hkept : kept = true → isBlank c = true) (h : Indents d kept s t last) :
      Indents d kept (c :: s) (c :: t) last
  | move {kept last : Bool} {s t : List Char} (h : Indents d false s t last) :
      Indents d kept ('\n' :: s) ('\n' :: (List.replicate d ' ' ++ t)) last
  | keep {kept last : Bool} {s t : List Char} (h : Indents d true s t last) :
      Indents d kept ('\n' :: s) ('\n' :: t) last

/-- The second line is the first moved by `d` spaces, or the same white line. -/
def MovedLine (d : Nat) (l l' : List Char) : Prop :=
  l' = List.replicate d ' ' ++ l ∨ l' = l ∧ allBlank l = true

namespace Indents

variable {d : Nat} {kept mid last : Bool} {s t s' t' : List Char}

lemma head? (h : Indents d kept s t last) : s.head? = t.head? := by
  cases h <;> rfl

/-- Texts are put together where one ends as the next begins. -/
lemma append (h : Indents d kept s t mid) (h' : Indents d mid s' t' last) :
    Indents d kept (s ++ s') (t ++ t') last := by
  induction h with
  | nil => exact h'
  | character c hc hkept _ ih => exact .character c hc hkept (ih h')
  | move _ ih =>
    rw [List.cons_append, List.cons_append, List.append_assoc]
    exact .move (ih h')
  | keep _ ih => exact .keep (ih h')

/-- A text without line breaks has no lines to move. -/
lemma refl (hs : ∀ c ∈ s, isBreak c = false) : Indents d false s s false := by
  induction s with
  | nil => exact .nil false
  | cons c s ih =>
    obtain ⟨hc, hs⟩ := List.forall_mem_cons.mp hs
    exact .character c hc (by simp) (ih hs)

/-- What stands before the first line break is the same in both texts. -/
lemma exists_append {p : List Char} (hp : '\n' ∉ p) (h : Indents d kept (p ++ s) t last) :
    ∃ t', t = p ++ t' ∧ Indents d kept p p kept ∧ Indents d kept s t' last := by
  induction p generalizing t with
  | nil => exact ⟨t, rfl, .nil kept, h⟩
  | cons c p ih =>
    obtain ⟨hc, hp⟩ : '\n' ≠ c ∧ '\n' ∉ p := by simpa using hp
    cases h with
    | character _ hbreak hkept h =>
      obtain ⟨t', rfl, hfront, h⟩ := ih hp h
      exact ⟨t', rfl, .character c hbreak hkept hfront, h⟩
    | move => exact absurd rfl hc
    | keep => exact absurd rfl hc

/-- A visible character stands on no line that has been kept. -/
lemma visible {c : Char} (hc : isBlank c = false) (h : Indents d kept (c :: s) t last) :
    kept = false ∧ ∃ t', t = c :: t' ∧ Indents d false s t' last := by
  cases h with
  | @character _ _ _ t _ _ hkept h =>
    obtain rfl : kept = false := by
      by_contra hwhite
      rw [hkept (by simpa using hwhite)] at hc
      cases hc
    exact ⟨rfl, t, rfl, h⟩
  | move => exact absurd hc (by decide)
  | keep => exact absurd hc (by decide)

/-- No carriage return stands in either text. -/
lemma return_notMem (h : Indents d kept s t last) : '\r' ∉ s ∧ '\r' ∉ t := by
  induction h with
  | nil => simp
  | character c hc _ _ ih =>
    have hne := (isBreak_eq_false_iff.mp hc).2.symm
    simpa [hne] using ih
  | move _ ih => simpa [List.mem_replicate] using ih
  | keep _ ih => simpa using ih

/-- Line by line, the first is the same and any other is moved or stays white. -/
lemma lines (h : Indents d kept s t last) :
    ∃ first ls ls', splitOn '\n' s = first :: ls ∧ splitOn '\n' t = first :: ls' ∧
      (kept = true → allBlank first = true) ∧ List.Forall₂ (MovedLine d) ls ls' := by
  induction h with
  | nil kept => exact ⟨[], [], [], rfl, rfl, fun _ => rfl, .nil⟩
  | character c hc hkept _ ih =>
    obtain ⟨first, ls, ls', hs, ht, hblank, hls⟩ := ih
    have hne := (isBreak_eq_false_iff.mp hc).1
    refine ⟨c :: first, ls, ls', splitOn_cons_of_ne hne hs, splitOn_cons_of_ne hne ht, ?_, hls⟩
    intro h
    rw [allBlank, List.all_cons, hkept h, Bool.true_and]
    exact hblank h
  | @move _ _ s t _ ih =>
    obtain ⟨first, ls, ls', hs, ht, -, hls⟩ := ih
    have hspaces : '\n' ∉ List.replicate d ' ' := by simp [List.mem_replicate]
    refine ⟨[], first :: ls, (List.replicate d ' ' ++ first) :: ls', ?_, ?_, fun _ => rfl,
      .cons (Or.inl rfl) hls⟩
    · rw [splitOn_cons_self, hs]
    · rw [splitOn_cons_self, splitOn_append_of_notMem hspaces ht]
  | keep _ ih =>
    obtain ⟨first, ls, ls', hs, ht, hblank, hls⟩ := ih
    refine ⟨[], first :: ls, first :: ls', ?_, ?_, fun _ => rfl,
      .cons (Or.inr ⟨rfl, hblank rfl⟩) hls⟩
    · rw [splitOn_cons_self, hs]
    · rw [splitOn_cons_self, ht]

end Indents

/-- Indenting moves lines. -/
lemma indents_indented (d : Nat) {s : List Char} (hs : '\r' ∉ s) (kept : Bool)
    (hkept : kept = true → allBlank (firstLine s) = true) :
    ∃ last, Indents d kept s (indented d s) last := by
  induction s generalizing kept with
  | nil => exact ⟨kept, .nil kept⟩
  | cons c s ih =>
    obtain ⟨hc, htail⟩ : '\r' ≠ c ∧ '\r' ∉ s := by simpa using hs
    cases hbreak : isBreak c with
    | false =>
      rw [indented_of_not_break hbreak]
      have hline : firstLine (c :: s) = c :: firstLine s := by
        rw [firstLine, List.takeWhile_cons_of_pos (by simp [hbreak])]
        rfl
      have hboth : kept = true → isBlank c = true ∧ allBlank (firstLine s) = true := by
        intro h
        have hwhite := hkept h
        rwa [hline, allBlank, List.all_cons, Bool.and_eq_true] at hwhite
      obtain ⟨last, h⟩ := ih htail kept fun h => (hboth h).2
      exact ⟨last, .character c hbreak (fun h => (hboth h).1) h⟩
    | true =>
      obtain rfl : c = '\n' := (isBreak_iff.mp hbreak).resolve_right hc.symm
      rw [indented_of_break hbreak (by simp), margin]
      cases hwhite : allBlank (firstLine s) with
      | true =>
        obtain ⟨last, h⟩ := ih htail true fun _ => hwhite
        exact ⟨last, .keep h⟩
      | false =>
        obtain ⟨last, h⟩ := ih htail false (by simp)
        exact ⟨last, .move h⟩

end DocComment.Text
