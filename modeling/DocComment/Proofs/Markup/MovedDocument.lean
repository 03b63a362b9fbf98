import DocComment.Proofs.Markup.MovedContent

/-!
# Documents with moved lines

A document with moved lines is read as the same tree with moved lines (`readLines_moved`), as long as
its line breaks stand in character data or in layout around the root element. The prolog and the
content have been dealt with; what follows the root element is layout, comments and instructions,
and the last two are read there as they are inside the root element.
-/

namespace DocComment.Markup

open DocComment.Text Builder

/-! ## What follows the root element -/

namespace Doctype

/-- Whether a token is one that may follow the root element. -/
def Token.isTrailing : Token → Bool
  | .space => true
  | .comment => true
  | .instruction _ => true
  | _ => false

/-- What begins with `<` is no layout. -/
lemma scanOpen_ne_space {rest after : List Char} {token : Token}
    (h : scanOpen rest = .found token after) : token ≠ .space := by
  rintro rfl
  rw [scanOpen.eq_def] at h
  split at h
  · cases h
  · rcases scanDeclaration_eq_found h with ⟨hcomment, -⟩ | hsection | ⟨_, hkeyword⟩
    · cases hcomment
    · cases hsection
    · cases hkeyword
  · obtain ⟨_, -, hinstruction⟩ := Scan.map_eq_found.mp h
    cases hinstruction
  · split at h <;> cases h

/-- What may follow the root element is layout or begins with `<`. -/
lemma Token.begin_of_isTrailing (c : Char) (rest : List Char) :
    (Token.next c rest).Finds fun token =>
      token.isTrailing = true → isSpace c = true ∨ c = '<' ∧ token ≠ .space := by
  have other {scan : Scan Token} (h : scan.Finds (·.isTrailing = false)) :
      scan.Finds fun token =>
        token.isTrailing = true → isSpace c = true ∨ c = '<' ∧ token ≠ .space := by
    intro token after hfound htoken
    rw [h token after hfound] at htoken
    cases htoken
  -- white space and angle brackets; all characters after them begin other tokens
  refine Scan.finds_ite (fun hc _ _ _ _ => Or.inl hc) fun _ => ?_
  refine Scan.finds_ite (fun hc _ _ h _ => Or.inr ⟨hc, scanOpen_ne_space h⟩) fun _ => ?_
  refine Scan.finds_ite (fun _ => other (Scan.finds_map fun _ _ _ => rfl)) fun _ => ?_
  refine Scan.finds_ite (fun _ => other ?_) fun _ => ?_
  · cases rest with
    | nil => exact Scan.finds_incomplete
    | cons c rest =>
      refine Scan.finds_ite (fun _ => Scan.finds_found rfl) fun _ => ?_
      exact Scan.finds_andThen (Scan.finds_true _) fun _ _ _ => Scan.finds_expect rfl
  refine Scan.finds_ite (fun _ => other (Scan.finds_found rfl)) fun _ => ?_
  refine Scan.finds_ite (fun _ => other (Scan.finds_found rfl)) fun _ => ?_
  refine Scan.finds_ite (fun _ => other ?_) fun _ => ?_
  · rw [scanCloseBracket.eq_def]
    split
    · exact Scan.finds_incomplete
    · exact Scan.finds_found rfl
    · exact Scan.finds_found rfl
  refine Scan.finds_ite (fun _ => other (Scan.finds_found rfl)) fun _ => ?_
  refine Scan.finds_ite (fun _ => other ?_) fun _ => ?_
  · cases rest with
    | nil => exact Scan.finds_found rfl
    | cons c rest =>
      refine Scan.finds_ite (fun _ => Scan.finds_found rfl) fun _ => ?_
      exact Scan.finds_ite (fun _ => Scan.finds_found rfl) fun _ => Scan.finds_invalid _
  refine Scan.finds_ite (fun _ => other (Scan.finds_found rfl)) fun _ => ?_
  refine Scan.finds_ite (fun _ => other (Scan.finds_found rfl)) fun _ => ?_
  refine Scan.finds_ite (fun _ => other ?_) fun _ => other ?_
  · refine Scan.finds_andThen (Scan.finds_true _) fun name rest _ => ?_
    cases rest with
    | nil => exact Scan.finds_found rfl
    | cons c after =>
      exact Scan.finds_ite (fun _ => Scan.finds_found rfl) fun _ => Scan.finds_invalid _
  · refine Scan.finds_ite (fun _ => Scan.finds_invalid _) fun _ => ?_
    have htoken : Token.isTrailing (if isNameStart c then
        .name (String.ofList (c :: rest.takeWhile isNameChar)) else .nameToken) = false := by
      split <;> rfl
    dsimp only
    split
    · exact Scan.finds_found htoken
    · refine Scan.finds_ite (fun _ => Scan.finds_found htoken) fun _ => ?_
      exact Scan.finds_ite (fun _ => Scan.finds_found rfl) fun _ => Scan.finds_invalid _

section

variable {c : Char} {rest after : List Char}

/-- A comment outside the root element is read as one inside it is. -/
lemma next_of_comment (h : Token.next c rest = .found .comment after) :
    ∃ body, Lexeme.next c rest = .found (.comment body) after := by
  obtain hspace | ⟨rfl, -⟩ := Token.begin_of_isTrailing c rest _ after h rfl
  · rw [next_of_isSpace hspace] at h
    cases h
  obtain ⟨r, body, rfl, hbody⟩ := scanOpen_comment ((next_open rest).symm.trans h)
  refine ⟨body, ?_⟩
  show (scanComment r).map Lexeme.comment = _
  rw [hbody]
  rfl

/-- An instruction outside the root element is read as one inside it is. -/
lemma next_of_instruction (h : Token.next c rest = .found (.instruction .other) after) :
    Lexeme.next c rest = .found .instruction after := by
  obtain hspace | ⟨rfl, -⟩ := Token.begin_of_isTrailing c rest _ after h rfl
  · rw [next_of_isSpace hspace] at h
    cases h
  rw [next_open, scanOpen.eq_def] at h
  split at h
  · cases h
  · rcases scanDeclaration_eq_found h with ⟨hcomment, -⟩ | hsection | ⟨_, hkeyword⟩
    · cases hcomment
    · cases hsection
    · cases hkeyword
  · rename_i r
    obtain ⟨instruction, hscan, hother⟩ := Scan.map_eq_found.mp h
    cases hother
    show scanInstructionLexeme r = _
    rw [scanInstructionLexeme, hscan]
    rfl
  · split at h <;> cases h

/-- Layout is character data. -/
lemma breaksInText_skipSpace {doc : Doctype} {inner : List Char → Bool} {s : List Char}
    (h : breaksInText doc inner s = true) : breaksInText doc inner (skipSpace s) = true := by
  induction s with
  | nil => exact h
  | cons c s ih =>
    by_cases hc : isSpace c = true
    · rw [skipSpace, List.dropWhile_cons_of_pos hc]
      exact ih (breaksInText_character (Lexeme.next_of_isSpace hc s) h)
    · rw [skipSpace, List.dropWhile_cons_of_neg hc]
      exact h

lemma checkEpilog_space (hc : isSpace c = true) :
    checkEpilog (c :: rest) = checkEpilog (skipSpace rest) := by
  have hnext := next_of_isSpace hc rest
  rw [checkEpilog]
  grind

lemma checkEpilog_markup {token : Token} (hnext : Token.next c rest = .found token after)
    (htoken : token = .comment ∨ token = .instruction .other) :
    checkEpilog (c :: rest) = checkEpilog after := by
  rw [checkEpilog]
  grind

/-- What follows the root element begins with layout, a comment or an instruction. -/
lemma exists_next_of_checkEpilog (h : checkEpilog (c :: rest) = .ok ()) :
    isSpace c = true ∨ ∃ token after, Token.next c rest = .found token after ∧
      (token = .comment ∨ token = .instruction .other) := by
  have hfound : ∃ token after, Token.next c rest = .found token after ∧
      (token = .space ∨ token = .comment ∨ token = .instruction .other) := by
    rw [checkEpilog] at h
    split at h
    · cases h
    · cases h
    · rename_i token after hnext
      refine ⟨token, after, hnext, ?_⟩
      split at h
      · exact Or.inl rfl
      · exact Or.inr (Or.inl rfl)
      · exact Or.inr (Or.inr rfl)
      · cases h
  obtain ⟨token, after, hnext, rfl | htoken⟩ := hfound
  · rcases Token.begin_of_isTrailing c rest _ after hnext rfl with hspace | ⟨-, hne⟩
    · exact Or.inl hspace
    · exact absurd rfl hne
  · exact Or.inr ⟨token, after, hnext, htoken⟩

/-- A comment or an instruction that follows the root element holds no line break if breaks stand in
character data. -/
lemma notMem_of_breaksInText {doc : Doctype} {inner : List Char → Bool} {token : Token}
    (hnext : Token.next c rest = .found token after)
    (htoken : token = .comment ∨ token = .instruction .other)
    (hbreaks : breaksInText doc inner (c :: rest) = true) :
    isBlank c = false ∧ '\n' ∉ spanned (c :: rest) after ∧
      breaksInText doc inner after = true := by
  have hlexeme : ∃ lexeme, Lexeme.next c rest = .found lexeme after ∧
      (∀ e, lexeme ≠ .character e) ∧ lexeme ≠ .sectionOpen := by
    rcases htoken with rfl | rfl
    · obtain ⟨body, hcomment⟩ := next_of_comment hnext
      exact ⟨.comment body, hcomment, by simp, by simp⟩
    · exact ⟨.instruction, next_of_instruction hnext, by simp, by simp⟩
  obtain ⟨lexeme, hfound, hcharacter, hsection⟩ := hlexeme
  obtain ⟨hspan, -, hafter⟩ := breaksInText_lexeme hfound hcharacter hbreaks
  rw [Lexeme.behind_of_ne hsection] at hspan hafter
  exact ⟨Lexeme.visible_of_next hfound hcharacter, hspan, hafter⟩

end

/-- Only a declaration remembers a place. -/
lemma Token.eq_of_bare {token token' : Token} (hbare : token'.bare = token.bare)
    (h : ∀ body remaining, token ≠ .instruction (.declaration body remaining)) :
    token' = token := by
  by_cases htoken : ∃ value, token' = .instruction value
  · obtain ⟨value, rfl⟩ := htoken
    cases token with
    | instruction value' =>
      have hvalue : value.bare = value'.bare := Token.instruction.inj hbare
      cases value' with
      | declaration body remaining => exact absurd rfl (h body remaining)
      | other => cases value <;> first | rfl | cases hvalue
    | _ => cases hbare
  · rw [Token.bare_of_ne (by simpa using htoken)] at hbare
    subst hbare
    cases token <;> first | rfl | exact absurd ⟨_, rfl⟩ htoken

/-- What follows the root element is still allowed there when its lines are moved. -/
theorem checkEpilog_moved {d : Nat} {kept last : Bool} {doc : Doctype} {inner : List Char → Bool}
    {s t : List Char} (hmoved : Indents d kept s t last)
    (hbreaks : breaksInText doc inner s = true) (h : checkEpilog s = .ok ()) :
    checkEpilog t = .ok () := by
  match s with
  | [] =>
    cases hmoved
    exact h
  | c :: rest =>
    rcases exists_next_of_checkEpilog h with hspace | ⟨token, after, hnext, htoken⟩
    -- layout, which moving only makes longer
    · obtain ⟨t, rfl⟩ := List.head?_eq_some_iff.mp hmoved.head?.symm
      obtain ⟨mid, -, hmoved⟩ := indents_skipSpace hmoved
      have hlength := length_dropWhile_le isSpace rest
      rw [checkEpilog_space hspace] at h ⊢
      have hbreaks := breaksInText_skipSpace hbreaks
      rw [skipSpace, List.dropWhile_cons_of_pos hspace] at hbreaks
      rw [skipSpace, skipSpace, List.dropWhile_cons_of_pos hspace,
        List.dropWhile_cons_of_pos hspace] at hmoved
      exact checkEpilog_moved hmoved hbreaks h
    -- a comment or an instruction, which is the same in both texts
    · have hlength := Token.next_leaves c rest token after hnext
      obtain ⟨hvisible, hspan, hafter⟩ := notMem_of_breaksInText hnext htoken hbreaks
      rw [checkEpilog_markup hnext htoken] at h
      obtain ⟨p, rfl, hlocal⟩ := Token.next_local c rest token after hnext
      rw [← List.cons_append, spanned_append] at hspan
      obtain rfl := (hmoved.visible hvisible).1
      obtain ⟨t', rfl, -, hmoved⟩ := hmoved.exists_append (p := c :: p) hspan
      obtain ⟨token', hnext', hbare⟩ := hlocal t' (peek_of_indents hmoved)
      have htoken' : token' = .comment ∨ token' = .instruction .other := by
        rcases htoken with rfl | rfl
        · exact Or.inl (Token.eq_of_bare hbare (by simp))
        · exact Or.inr (Token.eq_of_bare hbare (by simp))
      rw [List.cons_append, checkEpilog_markup hnext' htoken']
      exact checkEpilog_moved hmoved hafter h
termination_by s.length
decreasing_by
  · simp only [List.length_cons]
    omega
  · simp only [List.length_cons]
    omega

end Doctype

/-! ## Documents -/

/-- Whether all line breaks of a document stand in the character data of its root element, or in
layout before and behind that element. -/
def breaksOnlyInText (s : List Char) : Bool :=
  Doctype.isUnbroken (dropMark s) &&
    match Doctype.readProlog {} .start (dropMark s) with
    | .ok (doc, body) => breaksInText doc (entityUnbroken doc doc.depth) body
    | .error _ => true

/-- A byte order mark stands in a moved text as it is. -/
lemma dropMark_moved {d : Nat} {last : Bool} {s t : List Char} (h : Indents d false s t last) :
    ∃ mark, s = mark ++ dropMark s ∧ t = mark ++ dropMark t ∧ Indents d false mark mark false ∧
      Indents d false (dropMark s) (dropMark t) last := by
  by_cases hmark : s.head? = some '\uFEFF'
  · obtain ⟨s, rfl⟩ := List.head?_eq_some_iff.mp hmark
    obtain ⟨-, t, rfl, hrest⟩ := h.visible (by decide)
    exact ⟨['\uFEFF'], rfl, rfl, .refl (eq_false_of_any (by decide)), hrest⟩
  · have hkeep : ∀ r : List Char, r.head? ≠ some '\uFEFF' → dropMark r = r := by
      intro r hr
      rw [dropMark.eq_def]
      split
      · exact absurd rfl hr
      · rfl
    rw [hkeep s hmark, hkeep t (h.head? ▸ hmark)]
    exact ⟨[], rfl, rfl, .nil false, h⟩

/-- A document with moved lines is read as the same tree with moved lines. -/
theorem readLines_moved {d : Nat} {last : Bool} {s t : List Char} {root : Element}
    (hmoved : Indents d false s t last) (hbreaks : breaksOnlyInText s = true)
    (h : readLines s = .ok root) :
    ∃ root', readLines t = .ok root' ∧ root.toNode.Moved d root'.toNode := by
  obtain ⟨doc, body, b, rest, hprolog, hcontent, hepilog, hroot⟩ := readLines_eq_ok.mp h
  rw [breaksOnlyInText, hprolog, Bool.and_eq_true] at hbreaks
  obtain ⟨hunbroken, hbreaks⟩ := hbreaks
  have hstart : Doctype.Expect.Proper .start := trivial
  have hrules := Doctype.readProlog_wellFormed hstart rulesWellFormed_nil hprolog
  -- the prolog
  obtain ⟨mark, hs, ht, hmark, hrest⟩ := dropMark_moved hmoved
  obtain ⟨front, front', body', hfront, hfront', hmovedFront, hbody, hprolog'⟩ :=
    Doctype.readProlog_moved hrest hunbroken hprolog
  -- the content, whose places count from the mark on
  have htext : MovedText d (entityUnbroken doc doc.depth) last
      { doc, locate := Position.ofRemaining s } { doc, locate := Position.ofRemaining t }
      false body body' := by
    refine ⟨⟨rfl, rfl, rfl, ?_⟩, hbody, hbreaks, fun hfloor => absurd rfl hfloor⟩
    rintro p q s₁ t₁ rfl rfl hpq
    have hconsumed := (hmark.append hmovedFront).append hpq
    have hs' : s = (mark ++ front ++ p) ++ s₁ := by
      rw [hs, hfront]
      simp
    have ht' : t = (mark ++ front' ++ q) ++ t₁ := by
      rw [ht, hfront']
      simp
    show Position.ofRemaining t t₁.length = (Position.ofRemaining s s₁.length).moved d
    rw [hs', ht', ofRemaining_append, ofRemaining_append]
    exact after_moved hconsumed
  obtain ⟨b', rest', hcontent', hb, hmovedRest, hbreaks⟩ :=
    readContent_moved (expandEntity_moved d doc doc.depth) hrules htext (moved_empty d) hcontent
  have hepilog' := Doctype.checkEpilog_moved hmovedRest hbreaks hepilog
  obtain ⟨root', hroot', hmovedRoot⟩ := hb.root root hroot
  refine ⟨root', ?_, hmovedRoot⟩
  exact readLines_eq_ok.mpr ⟨doc, body', b', rest', hprolog', hcontent', hepilog', hroot'⟩

end DocComment.Markup
