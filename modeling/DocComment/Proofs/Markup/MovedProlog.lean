import DocComment.Proofs.Markup.Places
import DocComment.Proofs.Text.Indented

/-!
# Prologs with moved lines

Moving the lines of a prolog changes how much layout stands between its tokens and nothing else, as
long as no token but layout holds a line break.
-/

namespace DocComment.Markup

open DocComment.Text

/-! ## Tokens of moved texts -/

section

variable {d : Nat} {kept last : Bool} {s t : List Char}

/-- Moved texts look alike up to the first line break. -/
lemma peek_of_indents (h : Indents d kept s t last) : Peek s t := by
  cases h with
  | nil => exact ⟨rfl, fun _ => rfl⟩
  | character c hc hkept h => exact ⟨rfl, fun _ => h.head?⟩
  | move h => exact ⟨rfl, fun hne => absurd rfl hne⟩
  | keep h => exact ⟨rfl, fun hne => absurd rfl hne⟩

/-- Layout in front of moved texts can be skipped in both. -/
lemma indents_skipSpace (h : Indents d kept s t last) :
    ∃ mid, Indents d kept (s.takeWhile isSpace) (t.takeWhile isSpace) mid ∧
      Indents d mid (skipSpace s) (skipSpace t) last := by
  induction h with
  | nil kept => exact ⟨kept, .nil kept, .nil kept⟩
  | @character kept last s t c hc hkept h ih =>
    by_cases hspace : isSpace c = true
    · obtain ⟨mid, hfront, hback⟩ := ih
      refine ⟨mid, ?_, ?_⟩
      · rw [List.takeWhile_cons_of_pos hspace, List.takeWhile_cons_of_pos hspace]
        exact .character c hc hkept hfront
      · rw [skipSpace, skipSpace, List.dropWhile_cons_of_pos hspace,
          List.dropWhile_cons_of_pos hspace]
        exact hback
    · refine ⟨kept, ?_, ?_⟩
      · rw [List.takeWhile_cons_of_neg hspace, List.takeWhile_cons_of_neg hspace]
        exact .nil kept
      · rw [skipSpace, skipSpace, List.dropWhile_cons_of_neg hspace,
          List.dropWhile_cons_of_neg hspace]
        exact .character c hc hkept h
  | @move kept last s t h ih =>
    obtain ⟨mid, hfront, hback⟩ := ih
    -- the spaces that are put in are layout themselves
    have hspaces : ∀ c ∈ List.replicate d ' ', isSpace c = true := by
      intro c hc
      rw [List.eq_of_mem_replicate hc]
      decide
    refine ⟨mid, ?_, ?_⟩
    · rw [List.takeWhile_cons_of_pos (by decide), List.takeWhile_cons_of_pos (by decide),
        List.takeWhile_append_of_pos hspaces]
      exact .move hfront
    · rw [skipSpace, skipSpace, List.dropWhile_cons_of_pos (by decide),
        List.dropWhile_cons_of_pos (by decide), List.dropWhile_append_of_pos hspaces]
      exact hback
  | keep h ih =>
    obtain ⟨mid, hfront, hback⟩ := ih
    refine ⟨mid, ?_, ?_⟩
    · rw [List.takeWhile_cons_of_pos (by decide), List.takeWhile_cons_of_pos (by decide)]
      exact .keep hfront
    · rw [skipSpace, skipSpace, List.dropWhile_cons_of_pos (by decide),
        List.dropWhile_cons_of_pos (by decide)]
      exact hback

end

/-- What a token takes up of a text, given what is left behind it. -/
def spanned (s after : List Char) : List Char :=
  s.take (s.length - after.length)

lemma spanned_append (p after : List Char) : spanned (p ++ after) after = p := by
  rw [spanned, List.length_append, Nat.add_sub_cancel, List.take_left]

/-! ## The prolog -/

namespace Doctype

/-- Whether no token before the root element but layout holds a line break. -/
def isUnbroken (s : List Char) : Bool :=
  match s with
  | [] => true
  | c :: rest =>
    if isSpace c then isUnbroken (skipSpace rest)
    else
      match _h : Token.next c rest with
      | .found .rootStart _ => true
      | .found _ after => !(spanned (c :: rest) after).contains '\n' && isUnbroken after
      | .invalid _ => true
      | .incomplete => true
termination_by s.length
decreasing_by
  · have := length_dropWhile_le isSpace rest
    simp [skipSpace]; omega
  · have := Token.next_leaves c rest _ after _h
    simp; omega

lemma isUnbroken_space {c : Char} (hc : isSpace c = true) (rest : List Char) :
    isUnbroken (c :: rest) = isUnbroken (skipSpace rest) := by
  rw [isUnbroken, if_pos hc]

lemma isUnbroken_token {c : Char} (hc : isSpace c = false) {rest after : List Char} {token : Token}
    (hnext : Token.next c rest = .found token after) (hroot : token ≠ .rootStart)
    (h : isUnbroken (c :: rest) = true) :
    '\n' ∉ spanned (c :: rest) after ∧ isUnbroken after = true := by
  rw [isUnbroken] at h
  grind

lemma Token.ne_rootStart_of_bare {token token' : Token} (hbare : token'.bare = token.bare)
    (h : token ≠ .rootStart) : token' ≠ .rootStart := by
  rintro rfl
  cases token <;> first | exact h rfl | cases hbare

lemma readProlog_of_step {doc doc' : Doctype} {state state' : Expect} {c : Char}
    {rest after : List Char} {token : Token} (hnext : Token.next c rest = .found token after)
    (hroot : token ≠ .rootStart)
    (hstep : step doc state token (rest.length + 1) after.length = .ok (state', doc')) :
    readProlog doc state (c :: rest) = readProlog doc' state' after := by
  rw [readProlog]
  grind

/-- A prolog with moved lines declares the same and ends at the same tag. -/
theorem readProlog_moved {d : Nat} {kept last : Bool} {doc doc' : Doctype} {state : Expect}
    {s t body : List Char} (hmoved : Indents d kept s t last) (hunbroken : isUnbroken s = true)
    (h : readProlog doc state s = .ok (doc', body)) :
    ∃ front front' body', s = front ++ body ∧ t = front' ++ body' ∧
      Indents d kept front front' false ∧ Indents d false body body' last ∧
      readProlog doc state t = .ok (doc', body') := by
  match s with
  | [] =>
    rw [readProlog] at h
    cases h
  | c :: rest =>
    by_cases hspace : isSpace c = true
    · -- layout stays layout, however much of it there is
      obtain ⟨state', doc₁, hstep, hafter⟩ :=
        readProlog_step (next_of_isSpace hspace rest) (by simp) h
      rw [isUnbroken_space hspace] at hunbroken
      obtain ⟨t, rfl⟩ := List.head?_eq_some_iff.mp hmoved.head?.symm
      obtain ⟨mid, hfirst, hmoved⟩ := indents_skipSpace hmoved
      rw [List.takeWhile_cons_of_pos hspace, List.takeWhile_cons_of_pos hspace] at hfirst
      rw [skipSpace, skipSpace, List.dropWhile_cons_of_pos hspace,
        List.dropWhile_cons_of_pos hspace] at hmoved
      have hlength := length_dropWhile_le isSpace rest
      obtain ⟨front, front', body', hs, ht, hfront, hbody, hread⟩ :=
        readProlog_moved hmoved hunbroken hafter
      refine ⟨c :: rest.takeWhile isSpace ++ front, c :: t.takeWhile isSpace ++ front', body',
        ?_, ?_, hfirst.append hfront, hbody, ?_⟩
      · rw [List.append_assoc, ← hs, List.cons_append, List.takeWhile_append_dropWhile]
      · rw [List.append_assoc, ← ht, List.cons_append, List.takeWhile_append_dropWhile]
      · rw [readProlog_of_step (next_of_isSpace hspace t) (by simp) (step_ok hstep)]
        exact hread
    obtain ⟨token, after, hnext⟩ := exists_next_of_readProlog h
    have hlength := Token.next_leaves c rest token after hnext
    -- a token that is no layout begins with a visible character
    have hvisible : isBlank c = false := by
      by_contra hblank
      rw [next_of_isBlank (by simpa using hblank) (by simpa using hspace)] at hnext
      cases hnext
    by_cases hroot : token = .rootStart
    · obtain ⟨rfl, hstart⟩ : c = '<' ∧ StartsTag rest := by
        rcases Token.next_finds c rest token after hnext with hplain | ⟨-, hc⟩
        · rw [hroot] at hplain
          exact hplain.elim
        · exact hc
      obtain ⟨rfl, t, rfl, hrest⟩ := hmoved.visible hvisible
      have hstart' : StartsTag t := hstart.of_head? hrest.head?
      rw [readProlog_rootStart hstart] at h
      split at h
      · rename_i hallowed
        cases h
        refine ⟨[], [], '<' :: t, rfl, rfl, .nil false, hmoved, ?_⟩
        rw [readProlog_rootStart hstart', if_pos hallowed]
      · cases h
    obtain ⟨state', doc₁, hstep, hafter⟩ := readProlog_step hnext hroot h
    obtain ⟨p, rfl, hlocal⟩ := Token.next_local c rest token after hnext
    obtain ⟨hfeed, hunbroken⟩ := isUnbroken_token (by simpa using hspace) hnext hroot hunbroken
    rw [← List.cons_append, spanned_append] at hfeed
    obtain rfl := (hmoved.visible hvisible).1
    obtain ⟨t', rfl, hfirst, hmoved⟩ := hmoved.exists_append (p := c :: p) hfeed
    obtain ⟨token', hnext', hbare⟩ := hlocal t' (peek_of_indents hmoved)
    obtain ⟨front, front', body', rfl, rfl, hfront, hbody, hread⟩ :=
      readProlog_moved hmoved hunbroken hafter
    refine ⟨c :: p ++ front, c :: p ++ front', body', by simp, by simp, hfirst.append hfront,
      hbody, ?_⟩
    rw [List.cons_append, readProlog_of_step hnext' (Token.ne_rootStart_of_bare hbare hroot)
      (step_bare hbare hstep), hread]
termination_by s.length
decreasing_by
  · simp only [List.length_cons]
    omega
  · simp only [List.length_cons]
    omega

end Doctype

end DocComment.Markup
