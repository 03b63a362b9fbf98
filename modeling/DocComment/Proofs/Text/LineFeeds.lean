import DocComment.Text.Lines
import Mathlib.Tactic.Common

/-!
# Line breaks made line feeds

Making line feeds of line breaks leaves no carriage return and changes nothing else. A text may be
cut anywhere but inside a line break and the pieces treated one by one.
-/

namespace DocComment.Text

/-- A test that no character of a text passes fails for each of them. -/
lemma eq_false_of_any {p : Char → Bool} {s : List Char} (h : s.any p = false) :
    ∀ c ∈ s, p c = false := by
  intro c hc
  exact Bool.eq_false_iff.mpr (List.any_eq_false.mp h c hc)

/-- A carriage return becomes a line feed and takes a line feed after it along. -/
@[simp] lemma toLineFeeds_return_lineFeed (s : List Char) :
    toLineFeeds ('\r' :: '\n' :: s) = '\n' :: toLineFeeds s := rfl

lemma toLineFeeds_return {s : List Char} (hs : s.head? ≠ some '\n') :
    toLineFeeds ('\r' :: s) = '\n' :: toLineFeeds s := by
  rw [toLineFeeds]
  · rfl
  · rintro rest - rfl
    exact hs rfl

lemma exists_toLineFeeds_return (s : List Char) : ∃ t, toLineFeeds ('\r' :: s) = '\n' :: t := by
  by_cases hs : s.head? = some '\n'
  · obtain ⟨rest, rfl⟩ := List.head?_eq_some_iff.mp hs
    exact ⟨_, toLineFeeds_return_lineFeed rest⟩
  · exact ⟨_, toLineFeeds_return hs⟩

lemma toLineFeeds_cons_of_ne {c : Char} (hc : c ≠ '\r') (s : List Char) :
    toLineFeeds (c :: s) = c :: toLineFeeds s := by
  rw [toLineFeeds, if_neg hc]
  rintro rest rfl
  exact absurd rfl hc

lemma toLineFeeds_eq_nil_iff {s : List Char} : toLineFeeds s = [] ↔ s = [] := by
  fun_induction toLineFeeds s with
  | case1 => simp
  | case2 => simp
  | case3 => simp

/-- Every character of the new text is a line feed or was there before, and none is a carriage
return. -/
lemma mem_toLineFeeds {s : List Char} {c : Char} (hc : c ∈ toLineFeeds s) :
    (c = '\n' ∨ c ∈ s) ∧ c ≠ '\r' := by
  fun_induction toLineFeeds s with
  | case1 => exact absurd hc List.not_mem_nil
  | case2 rest ih =>
    rcases List.mem_cons.mp hc with rfl | hc
    · exact ⟨Or.inl rfl, by decide⟩
    · obtain ⟨hmem, hne⟩ := ih hc
      exact ⟨hmem.imp_right fun h => List.mem_cons_of_mem _ (List.mem_cons_of_mem _ h), hne⟩
  | case3 d rest _ ih =>
    rcases List.mem_cons.mp hc with rfl | hc
    · split
      · exact ⟨Or.inl rfl, by decide⟩
      · exact ⟨Or.inr List.mem_cons_self, ‹_›⟩
    · obtain ⟨hmem, hne⟩ := ih hc
      exact ⟨hmem.imp_right (List.mem_cons_of_mem _), hne⟩

/-- A text without carriage returns stays as it is. -/
lemma toLineFeeds_of_notMem {s : List Char} (hs : '\r' ∉ s) : toLineFeeds s = s := by
  induction s with
  | nil => rfl
  | cons c s ih =>
    have hc : c ≠ '\r' := fun h => hs (h ▸ List.mem_cons_self)
    rw [toLineFeeds_cons_of_ne hc, ih fun h => hs (List.mem_cons_of_mem _ h)]

/-- A text may be cut anywhere but between a carriage return and a line feed. -/
lemma toLineFeeds_append {s t : List Char}
    (h : s.getLast? = some '\r' → t.head? ≠ some '\n') :
    toLineFeeds (s ++ t) = toLineFeeds s ++ toLineFeeds t := by
  have hlast : ∀ (c d : Char) (rest : List Char), rest.getLast? = some d →
      (c :: rest).getLast? = some d := by
    intro c d rest hrest
    rw [List.getLast?_cons, hrest]
    rfl
  fun_induction toLineFeeds s with
  | case1 => rfl
  | case2 rest ih =>
    rw [List.cons_append, List.cons_append, toLineFeeds_return_lineFeed,
      ih fun hrest => h (hlast _ _ _ (hlast _ _ _ hrest))]
    rfl
  | case3 c rest hbreak ih =>
    rw [List.cons_append, List.cons_append, ← ih fun hrest => h (hlast _ _ _ hrest)]
    by_cases hc : c = '\r'
    · -- no line feed follows, neither in the first piece nor behind the cut
      subst hc
      refine toLineFeeds_return ?_
      cases rest with
      | nil => exact h rfl
      | cons d rest =>
        intro hd
        obtain rfl := Option.some.inj hd
        exact hbreak rest rfl rfl
    · rw [if_neg hc, toLineFeeds_cons_of_ne hc]

/-- A text without carriage returns stays as it is before any other. -/
lemma toLineFeeds_append_of_notMem {s : List Char} (hs : '\r' ∉ s) (t : List Char) :
    toLineFeeds (s ++ t) = s ++ toLineFeeds t := by
  rw [toLineFeeds_append, toLineFeeds_of_notMem hs]
  intro hlast
  exact absurd (List.mem_of_getLast? hlast) hs

/-- What the new text begins with, if it is no line feed, the text begins with. -/
lemma head?_of_head?_toLineFeeds {s : List Char} {c : Char} (hc : c ≠ '\n')
    (h : (toLineFeeds s).head? = some c) : s.head? = some c := by
  fun_induction toLineFeeds s with
  | case1 => exact h
  | case2 => exact absurd (Option.some.inj h).symm hc
  | case3 d rest _ _ =>
    have hd := Option.some.inj h
    split at hd
    · exact absurd hd.symm hc
    · exact congrArg some hd

end DocComment.Text
