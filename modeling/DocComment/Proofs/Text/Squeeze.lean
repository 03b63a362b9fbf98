import DocComment.Proofs.Text.LineFeeds
import DocComment.Text.Blank
import Mathlib.Data.List.DropRight

/-!
# Texts up to the amount of white space

Squeezing makes one space of every run of white space. Two texts that are the same after squeezing
have the same visible characters with white space in the same places; only how much and which white
space stands there may differ.
-/

namespace DocComment.Text

/-- A text with one space for every run of white space. -/
def squeeze : List Char → List Char
  | [] => []
  | c :: rest =>
    if isBlank c then ' ' :: (squeeze rest).dropWhile isBlank else c :: squeeze rest

lemma squeeze_of_blank {c : Char} (hc : isBlank c = true) (s : List Char) :
    squeeze (c :: s) = ' ' :: (squeeze s).dropWhile isBlank := by
  rw [squeeze, if_pos hc]

lemma squeeze_of_visible {c : Char} (hc : isBlank c = false) (s : List Char) :
    squeeze (c :: s) = c :: squeeze s := by
  rw [squeeze, hc, if_neg Bool.false_ne_true]

lemma squeeze_eq_nil_iff {s : List Char} : squeeze s = [] ↔ s = [] := by
  cases s with
  | nil => simp [squeeze]
  | cons c s =>
    rw [squeeze]
    split <;> simp

/-- White space in front may be dropped before or after. -/
lemma dropWhile_squeeze (s : List Char) :
    (squeeze s).dropWhile isBlank = squeeze (s.dropWhile isBlank) := by
  induction s with
  | nil => rfl
  | cons c s ih =>
    cases hc : isBlank c with
    | true =>
      rw [squeeze_of_blank hc, List.dropWhile_cons_of_pos (by decide),
        List.dropWhile_cons_of_pos hc, List.dropWhile_idempotent, ih]
    | false =>
      rw [squeeze_of_visible hc, List.dropWhile_cons_of_neg (by simp [hc]),
        List.dropWhile_cons_of_neg (by simp [hc]), squeeze_of_visible hc]

/-- More white space after white space makes no difference. -/
lemma squeeze_cons_append {c : Char} (hc : isBlank c = true) {w : List Char}
    (hw : ∀ d ∈ w, isBlank d = true) (s : List Char) :
    squeeze (c :: (w ++ s)) = squeeze (c :: s) := by
  rw [squeeze_of_blank hc, squeeze_of_blank hc, dropWhile_squeeze, dropWhile_squeeze,
    List.dropWhile_append_of_pos hw]

/-- A text without white space stays as it is before any other. -/
lemma squeeze_append_of_visible {s : List Char} (hs : ∀ c ∈ s, isBlank c = false)
    (t : List Char) : squeeze (s ++ t) = s ++ squeeze t := by
  induction s with
  | nil => rfl
  | cons c s ih =>
    obtain ⟨hc, hs⟩ := List.forall_mem_cons.mp hs
    rw [List.cons_append, squeeze_of_visible hc, ih hs]
    rfl

/-- A text may be cut before a visible character and the pieces squeezed one by one. -/
lemma squeeze_append_cons {c : Char} (hc : isBlank c = false) (s t : List Char) :
    squeeze (s ++ c :: t) = squeeze s ++ c :: squeeze t := by
  induction s with
  | nil => exact squeeze_of_visible hc t
  | cons d s ih =>
    cases hd : isBlank d with
    | true =>
      rw [List.cons_append, squeeze_of_blank hd, squeeze_of_blank hd, ih, List.cons_append]
      congr 1
      rw [List.dropWhile_append]
      split
      · rename_i hempty
        rw [List.isEmpty_iff.mp hempty, List.dropWhile_cons_of_neg (by simp [hc])]
        rfl
      · rfl
    | false =>
      rw [List.cons_append, squeeze_of_visible hd, squeeze_of_visible hd, ih]
      rfl

/-- A visible character in the squeezed text tells where the text can be cut. -/
lemma exists_cut_of_squeeze {c : Char} (hc : isBlank c = false) {s x y : List Char}
    (h : squeeze s = x ++ c :: y) :
    ∃ x' y', s = x' ++ c :: y' ∧ squeeze x' = x ∧ squeeze y' = y := by
  induction s generalizing x with
  | nil => simp [squeeze] at h
  | cons d s ih =>
    cases hd : isBlank d with
    | false =>
      rw [squeeze_of_visible hd] at h
      cases x with
      | nil =>
        obtain ⟨rfl, hy⟩ := List.cons.inj h
        exact ⟨[], s, rfl, rfl, hy⟩
      | cons e x =>
        obtain ⟨rfl, hs⟩ := List.cons.inj h
        obtain ⟨x', y', rfl, hx, hy⟩ := ih hs
        exact ⟨d :: x', y', rfl, by rw [squeeze_of_visible hd, hx], hy⟩
    | true =>
      rw [squeeze_of_blank hd] at h
      cases x with
      | nil =>
        obtain ⟨rfl, -⟩ := List.cons.inj h
        exact absurd hc (by decide)
      | cons e x =>
        rw [List.cons_append] at h
        obtain ⟨rfl, hs⟩ := List.cons.inj h
        -- the space that the rest may begin with has been merged with the one in front
        have hrest : squeeze s = ((squeeze s).takeWhile isBlank ++ x) ++ c :: y := by
          rw [List.append_assoc, ← hs, List.takeWhile_append_dropWhile]
        obtain ⟨x', y', rfl, hx, hy⟩ := ih hrest
        refine ⟨d :: x', y', rfl, ?_, hy⟩
        have hvisible : ∀ e ∈ x.head?, isBlank e = false := by
          intro e he
          obtain ⟨x, rfl⟩ := List.head?_eq_some_iff.mp he
          have hstop := List.head?_dropWhile_not isBlank (squeeze (x' ++ c :: y'))
          rw [hs] at hstop
          simpa using hstop
        rw [squeeze_of_blank hd, hx,
          List.dropWhile_append_of_pos (List.all_eq_true.mp List.all_takeWhile)]
        cases x with
        | nil => rfl
        | cons e x => rw [List.dropWhile_cons_of_neg (by simp [hvisible e rfl])]

/-- Squeezing keeps the visible characters. -/
lemma mem_squeeze {c : Char} (hc : isBlank c = false) {s : List Char} :
    c ∈ squeeze s ↔ c ∈ s := by
  constructor
  · intro hmem
    obtain ⟨x, y, h⟩ := List.append_of_mem hmem
    obtain ⟨x', y', rfl, -, -⟩ := exists_cut_of_squeeze hc h
    simp
  · intro hmem
    obtain ⟨x, y, rfl⟩ := List.append_of_mem hmem
    rw [squeeze_append_cons hc]
    simp

/-- A text without white space is in front of the squeezed text if it is in front of the text. -/
lemma prefix_squeeze {w : List Char} (hw : ∀ c ∈ w, isBlank c = false) {s : List Char} :
    w <+: squeeze s ↔ w <+: s := by
  constructor
  · rintro ⟨t, ht⟩
    induction w generalizing s with
    | nil => exact List.nil_prefix
    | cons c w ih =>
      obtain ⟨hc, hw⟩ := List.forall_mem_cons.mp hw
      obtain ⟨x', y', rfl, hx, hy⟩ := exists_cut_of_squeeze (x := []) hc ht.symm
      obtain rfl := squeeze_eq_nil_iff.mp hx
      exact (List.prefix_cons_inj c).mpr (ih hw hy.symm)
  · rintro ⟨t, rfl⟩
    rw [squeeze_append_of_visible hw]
    exact List.prefix_append _ _

/-- Line breaks of any kind squeeze to a space. -/
lemma squeeze_toLineFeeds (s : List Char) : squeeze (toLineFeeds s) = squeeze s := by
  fun_induction toLineFeeds s with
  | case1 => rfl
  | case2 rest ih =>
    rw [squeeze_of_blank (by decide), squeeze_of_blank (by decide), squeeze_of_blank (by decide),
      List.dropWhile_cons_of_pos (by decide), List.dropWhile_idempotent, ih]
  | case3 c rest _ ih =>
    by_cases hc : c = '\r'
    · subst hc
      rw [if_pos rfl, squeeze_of_blank (by decide), squeeze_of_blank (by decide), ih]
    · rw [if_neg hc, squeeze, squeeze, ih]

end DocComment.Text
