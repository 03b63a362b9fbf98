import DocComment.Proofs.Yaml.Reads
import DocComment.Yaml.Token.Scanner

/-!
# How cutting a text into tokens can end

The tokens of a source end with its own fault, or because a token cannot be read in its text
(`tokensOf_fault`). In front of a fault, the end of the stream is never among them: it is found at the
end of the text only, and there the fault comes first (`end_notMem_tokensOf`).
-/

namespace DocComment.Yaml.Scanner

variable {s s' s'' : Scanner} {t : List Char} {token : Token}

/-- What reading a token does to a scanner: it goes on in the text, adds no end of the stream and is
not done. -/
structure GoesOn (s s' : Scanner) : Prop where
  behind : s'.cursor.Behind s.cursor
  end_mem : .streamEnd ∈ s'.tokens → .streamEnd ∈ s.tokens
  isDone : s'.isDone = s.isDone

lemma GoesOn.refl (s : Scanner) : GoesOn s s :=
  ⟨Cursor.Behind.refl _, id, rfl⟩

lemma GoesOn.trans (h : GoesOn s s') (h' : GoesOn s' s'') : GoesOn s s'' :=
  ⟨h'.behind.trans h.behind, fun hmem => h.end_mem (h'.end_mem hmem), h'.isDone.trans h.isDone⟩

/-! ## Parts of a step -/

lemma goesOn_push (s : Scanner) (h : token ≠ .streamEnd) : GoesOn s (s.push token) := by
  refine ⟨Cursor.Behind.refl _, fun hmem => ?_, rfl⟩
  exact (List.mem_append.mp hmem).resolve_right fun hlast => h (List.mem_singleton.mp hlast).symm

lemma goesOn_insertAt (s : Scanner) (n : Nat) (h : token ≠ .streamEnd) :
    GoesOn s (s.insertAt n token) := by
  refine ⟨Cursor.Behind.refl _, fun hmem => ?_, rfl⟩
  rcases List.mem_append.mp hmem with hbefore | hafter
  · exact List.mem_of_mem_take hbefore
  · rcases List.mem_cons.mp hafter with hself | hafter
    · exact absurd hself.symm h
    · exact List.mem_of_mem_drop hafter

lemma goesOn_mark (s : Scanner) (length : Nat) (h : token ≠ .streamEnd) :
    GoesOn s (s.mark token length) :=
  ⟨s.cursor.behind_advance length, (s.goesOn_push h).end_mem, rfl⟩

lemma goesOn_grow (s : Scanner) (column number : Nat) (h : token ≠ .streamEnd) :
    GoesOn s (s.grow column number token) := by
  have hinsert := s.goesOn_insertAt number h
  rw [grow]
  split
  · exact ⟨hinsert.behind, hinsert.end_mem, hinsert.isDone⟩
  · exact GoesOn.refl s

/-- Closing blocks adds ends of blocks only. -/
lemma goesOn_closeBlocks (column : Int) (outerIndents : List Int) (s : Scanner) :
    GoesOn s (closeBlocks column outerIndents s) := by
  induction outerIndents generalizing s with
  | nil => exact GoesOn.refl s
  | cons outer rest ih =>
    have hclosed : Token.blockEnd ≠ .streamEnd := nofun
    have hpush := s.goesOn_push hclosed
    rw [closeBlocks]
    split
    · refine GoesOn.trans ?_ (ih _)
      exact ⟨hpush.behind, hpush.end_mem, hpush.isDone⟩
    · exact GoesOn.refl s

lemma goesOn_unwind (s : Scanner) (column : Int) : GoesOn s (s.unwind column) := by
  rw [unwind]
  split
  · exact GoesOn.refl s
  · exact goesOn_closeBlocks column s.outerIndents s

/-- Blanks, comments and line breaks are passed over without a token. -/
lemma goesOn_skipToToken (fuel : Nat) (s : Scanner) : GoesOn s (skipToToken fuel s) := by
  induction fuel generalizing s with
  | zero => exact GoesOn.refl s
  | succ fuel ih =>
    have hblanks := s.cursor.behind_skipWhile (· = ' ')
    rw [skipToToken]
    generalize s.cursor.skipWhile (· = ' ') = c at hblanks
    have hcomment : (if c.peek 0 = '#' then c.skipWhile (!isLineEnd ·) else c).Behind s.cursor := by
      split
      · exact (c.behind_skipWhile _).trans hblanks
      · exact hblanks
    generalize (if c.peek 0 = '#' then c.skipWhile (!isLineEnd ·) else c) = d at hcomment ⊢
    split
    · refine GoesOn.trans ?_ (ih _)
      exact ⟨d.behind_takeBreak.trans hcomment, id, rfl⟩
    · exact ⟨hcomment, id, rfl⟩

lemma readsIn_dropKey (t : List Char) (s : Scanner) : ReadsIn t (GoesOn s) s.dropKey := by
  rw [dropKey]
  split
  · refine ends_ite (fun _ => ends_malformed _) fun _ => ?_
    exact ⟨Cursor.Behind.refl _, id, rfl⟩
  · exact GoesOn.refl s

lemma readsIn_saveKey (t : List Char) (s : Scanner) : ReadsIn t (GoesOn s) s.saveKey := by
  rw [saveKey]
  refine ends_ite (fun _ => ?_) fun _ => GoesOn.refl s
  exact ends_bind (readsIn_dropKey t s) fun s' h => ⟨h.behind, h.end_mem, h.isDone⟩

lemma readsIn_dropStaleKeys (t : List Char) (s : Scanner) :
    ReadsIn t (GoesOn s) s.dropStaleKeys := by
  rw [dropStaleKeys]
  refine ends_ite (fun _ => ends_malformed _) fun _ => ?_
  exact ⟨Cursor.Behind.refl _, id, rfl⟩

/-! ## One token -/

/-- Reading a token ends as reading in the text does. -/
abbrev Moves (s : Scanner) (x : Except LoadError Scanner) : Prop :=
  ReadsIn s.cursor.rest (GoesOn s) x

/-- A token that was read at the place of a scanner goes behind the others. -/
lemma GoesOn.read {c : Cursor} {allowsKey : Bool} (h : GoesOn s s')
    (htoken : token ≠ .streamEnd ∧ c.Behind s'.cursor) :
    GoesOn s { s'.push token with cursor := c, allowsKey } :=
  ⟨htoken.2.trans h.behind, (h.trans (s'.goesOn_push htoken.1)).end_mem, h.isDone⟩

lemma moves_take (s : Scanner) {read : Cursor → Except LoadError (Token × Cursor)}
    (hread : ∀ c, EndsBehindToken c (read c)) : Moves s (s.take read) := by
  rw [take]
  refine ends_bind (readsIn_saveKey _ s) fun s' h => ?_
  exact ends_bind ((hread s'.cursor).of_suffix h.behind) fun ⟨token, c⟩ htoken => h.read htoken

lemma moves_directive (s : Scanner) : Moves s s.directive := by
  have hunwind := s.goesOn_unwind (-1)
  rw [directive]
  refine ends_bind (readsIn_dropKey _ _) fun s' h => ?_
  have h := hunwind.trans h
  refine ends_bind ((endsBehindToken_directiveToken s'.cursor).of_suffix h.behind)
    fun ⟨token, c⟩ htoken => h.read htoken

/-- A mark goes behind the other tokens. -/
lemma GoesOn.mark {level : Nat} {allowsKey : Bool} (h : GoesOn s s') (htoken : token ≠ .streamEnd)
    (length : Nat) : GoesOn s { s'.mark token length with level, allowsKey } := by
  have hmark := h.trans (s'.goesOn_mark length htoken)
  exact ⟨hmark.behind, hmark.end_mem, hmark.isDone⟩

lemma moves_separator (s : Scanner) (htoken : token ≠ .streamEnd) :
    Moves s (s.separator token) := by
  have hunwind := s.goesOn_unwind (-1)
  rw [separator]
  exact ends_bind (readsIn_dropKey _ _) fun s' h => (hunwind.trans h).mark htoken 3

lemma moves_openFlow (s : Scanner) (htoken : token ≠ .streamEnd) : Moves s (s.openFlow token) := by
  rw [openFlow]
  exact ends_bind (readsIn_saveKey _ s) fun s' h => h.mark htoken 1

lemma moves_closeFlow (s : Scanner) (htoken : token ≠ .streamEnd) :
    Moves s (s.closeFlow token) := by
  rw [closeFlow]
  refine ends_bind (readsIn_dropKey _ s) fun s' h => ?_
  exact ends_ite (fun _ => ends_malformed _) fun _ => h.mark htoken 1

lemma moves_flowEntry (s : Scanner) : Moves s s.flowEntry := by
  rw [flowEntry]
  exact ends_bind (readsIn_dropKey _ s) fun s' h => h.mark (by decide) 1

/-- A block collection may be opened first. -/
lemma goesOn_ite_grow (s : Scanner) (p : Prop) [Decidable p] (column number : Nat)
    (htoken : token ≠ .streamEnd) :
    GoesOn s (if p then s.grow column number token else s) := by
  split
  · exact s.goesOn_grow column number htoken
  · exact GoesOn.refl s

lemma moves_blockEntry (s : Scanner) : Moves s s.blockEntry := by
  rw [blockEntry]
  refine ends_ite (fun _ => ends_malformed _) fun _ => ?_
  have hgrown := s.goesOn_ite_grow (s.level = 0) s.cursor.column s.tokens.length
    (show Token.blockSequenceStart ≠ .streamEnd from nofun)
  exact ends_bind (readsIn_dropKey _ _) fun s' h => (hgrown.trans h).mark (by decide) 1

lemma moves_complexKey (s : Scanner) : Moves s s.complexKey := by
  rw [complexKey]
  refine ends_ite (fun _ => ends_malformed _) fun _ => ?_
  have hgrown := s.goesOn_ite_grow (s.level = 0) s.cursor.column s.tokens.length
    (show Token.blockMappingStart ≠ .streamEnd from nofun)
  exact ends_bind (readsIn_dropKey _ _) fun s' h => (hgrown.trans h).mark (by decide) 1

/-- The mark of a value adds a key where one was possible, and opens a block mapping where needed.
-/
lemma moves_valueMark (s : Scanner) : Moves s s.valueMark := by
  have hblock : Token.blockMappingStart ≠ .streamEnd := nofun
  have hkeyToken : Token.key ≠ .streamEnd := nofun
  rw [valueMark]
  split
  · rename_i key _
    dsimp only
    have hkey : GoesOn s ({ s with possibleKeys := s.possibleKeys.filter (·.1 ≠ s.level) }.insertAt
        key.number .key) := by
      refine GoesOn.trans ?_ (goesOn_insertAt _ _ hkeyToken)
      exact ⟨Cursor.Behind.refl _, id, rfl⟩
    have hgrown := hkey.trans (goesOn_ite_grow _ (s.level = 0) key.column key.number hblock)
    exact ends_ok (hgrown.mark (by decide) 1)
  · refine ends_ite (fun _ => ends_malformed _) fun _ => ?_
    have hgrown := s.goesOn_ite_grow (s.level = 0) s.cursor.column s.tokens.length hblock
    exact ends_bind (readsIn_dropKey _ _) fun s' h => (hgrown.trans h).mark (by decide) 1

lemma moves_block (s : Scanner) (isFolded : Bool) : Moves s (s.block isFolded) := by
  rw [block]
  refine ends_bind (readsIn_dropKey _ s) fun s' h => ?_
  exact ends_bind ((endsBehindToken_blockScalar isFolded s'.indent s'.cursor).of_suffix h.behind)
    fun ⟨token, c⟩ htoken => h.read htoken

lemma moves_plain (s : Scanner) : Moves s s.plain := by
  rw [plain]
  refine ends_bind (readsIn_saveKey _ s) fun s' h => ?_
  dsimp only
  exact ends_pure (h.read ⟨nofun, behind_plainText _ _ _ _ _ _⟩)

/-- Unless the text ends, the token ahead is one that goes on. -/
lemma moves_token (s : Scanner) (h : s.cursor.peek 0 ≠ endChar) : Moves s s.token := by
  have hnamed (named : String → Token) (hne : ∀ name, named name ≠ .streamEnd) (c : Cursor) :
      EndsBehindToken c ((anchorName c).map fun found => (named found.1, found.2)) :=
    ends_map (readsIn_anchorName _ c) fun found hbehind => ⟨hne found.1, hbehind⟩
  rw [Scanner.token]
  refine ends_ite (fun hend => absurd hend h) fun _ => ?_
  refine ends_ite (fun _ => s.moves_directive) fun _ => ?_
  refine ends_ite (fun _ => s.moves_separator (by decide)) fun _ => ?_
  refine ends_ite (fun _ => s.moves_separator (by decide)) fun _ => ?_
  refine ends_ite (fun _ => s.moves_openFlow (by decide)) fun _ => ?_
  refine ends_ite (fun _ => s.moves_openFlow (by decide)) fun _ => ?_
  refine ends_ite (fun _ => s.moves_closeFlow (by decide)) fun _ => ?_
  refine ends_ite (fun _ => s.moves_closeFlow (by decide)) fun _ => ?_
  refine ends_ite (fun _ => s.moves_flowEntry) fun _ => ?_
  refine ends_ite (fun _ => s.moves_blockEntry) fun _ => ?_
  refine ends_ite (fun _ => s.moves_complexKey) fun _ => ?_
  refine ends_ite (fun _ => s.moves_valueMark) fun _ => ?_
  refine ends_ite (fun _ => s.moves_take (hnamed .alias nofun)) fun _ => ?_
  refine ends_ite (fun _ => s.moves_take (hnamed .anchor nofun)) fun _ => ?_
  refine ends_ite (fun _ => s.moves_take endsBehindToken_tagToken) fun _ => ?_
  refine ends_ite (fun _ => s.moves_block false) fun _ => ?_
  refine ends_ite (fun _ => s.moves_block true) fun _ => ?_
  refine ends_ite (fun _ => s.moves_take endsBehindToken_quotedScalar) fun _ => ?_
  exact ends_ite (fun _ => s.moves_plain) fun _ => ends_malformed _

/-- The end of the stream leaves the place as it is. -/
lemma readsIn_streamEnd (t : List Char) (s : Scanner) :
    ReadsIn t (·.cursor.Behind s.cursor) s.streamEnd := by
  have hunwind := s.goesOn_unwind (-1)
  rw [streamEnd]
  exact ends_bind (readsIn_dropKey t _) fun s' h => (hunwind.trans h).behind

lemma readsIn_token (s : Scanner) :
    ReadsIn s.cursor.rest (·.cursor.Behind s.cursor) s.token := by
  by_cases hend : s.cursor.peek 0 = endChar
  · have htoken : s.token = s.streamEnd := if_pos hend
    rw [htoken]
    exact readsIn_streamEnd _ s
  · exact (s.moves_token hend).mono (fun _ he => he) fun s' h => h.behind

/-! ## Steps -/

/-- Closing blocks takes nothing from the text. -/
lemma cursor_closeBlocks (column : Int) (outerIndents : List Int) (s : Scanner) :
    (closeBlocks column outerIndents s).cursor = s.cursor := by
  induction outerIndents generalizing s with
  | nil => rfl
  | cons outer rest ih =>
    rw [closeBlocks]
    split
    · exact ih _
    · rfl

lemma cursor_unwind (s : Scanner) (column : Int) : (s.unwind column).cursor = s.cursor := by
  rw [unwind]
  split
  · rfl
  · exact cursor_closeBlocks column s.outerIndents s

lemma cursor_of_dropStaleKeys (h : s.dropStaleKeys = .ok s') : s'.cursor = s.cursor := by
  rw [dropStaleKeys] at h
  dsimp only at h
  split at h
  · cases h
  · obtain rfl := Except.ok.inj h
    rfl

variable {fault : Option LoadError} {e : LoadError}

lemma checkEnd_eq_error (h : s.checkEnd fault = .error e) : fault = some e := by
  rw [checkEnd.eq_def] at h
  split at h
  · split at h
    · exact congrArg some (Except.error.inj h)
    · cases h
  · cases h

/-- Where a fault lies behind the text, it is checked that the text goes on. -/
lemma rest_ne_nil_of_checkEnd (h : s.checkEnd fault = .ok ()) (hfault : fault ≠ none) :
    s.cursor.rest ≠ [] := by
  rw [checkEnd.eq_def] at h
  split at h
  · split at h
    · cases h
    · rename_i hrest
      exact fun hnil => hrest (List.isEmpty_iff.mpr hnil)
  · exact absurd rfl hfault

lemma tokenBefore_eq_ok (h : s.tokenBefore fault = .ok s') : s.token = .ok s' := by
  rw [tokenBefore.eq_def] at h
  split at h
  · cases h
  · exact h

lemma tokenBefore_eq_error (h : s.tokenBefore fault = .error e) :
    fault = some e ∨ s.token = .error e := by
  rw [tokenBefore.eq_def] at h
  split at h
  · exact Or.inl (congrArg some (Except.error.inj h))
  · exact Or.inr h

/-- The scanner at the next token, behind blanks and comments. -/
def atToken (s : Scanner) : Scanner :=
  let c := s.cursor
  let c := if c.index = 0 && c.peek 0 = '\uFEFF' then c.next else c
  skipToToken (c.rest.length + 1) { s with cursor := c }

lemma goesOn_atToken (s : Scanner) : GoesOn s s.atToken := by
  rw [atToken]
  refine GoesOn.trans ?_ (goesOn_skipToToken _ _)
  refine ⟨?_, id, rfl⟩
  dsimp only
  split
  · exact s.cursor.behind_next
  · exact Cursor.Behind.refl _

/-- A step succeeds if its parts do. -/
lemma exists_of_step (h : s.step fault = .ok s') :
    ∃ fresh ended, s.atToken.checkEnd fault = .ok () ∧ s.atToken.dropStaleKeys = .ok fresh ∧
      (fresh.unwind fresh.cursor.column).tokenBefore fault = .ok ended ∧
      ended.dropStaleKeys = .ok s' := by
  rw [step] at h
  obtain ⟨⟨⟩, hcheck, h⟩ := bind_eq_ok.mp h
  obtain ⟨fresh, hfresh, h⟩ := bind_eq_ok.mp h
  obtain ⟨ended, hended, h⟩ := bind_eq_ok.mp h
  obtain ⟨⟨⟩, -, h⟩ := bind_eq_ok.mp h
  exact ⟨fresh, ended, hcheck, hfresh, hended, h⟩

/-- What a step may fail of: the fault behind the text, or what reading in the text may fail of. -/
lemma step_eq_error (h : s.step fault = .error e) : fault = some e ∨ MayFailIn s.cursor.rest e := by
  -- the parts of the step in turn: what one of them fails of, or what it leaves to the next
  have hstart := s.goesOn_atToken
  rw [step] at h
  obtain hcheck | ⟨⟨⟩, -, h⟩ := bind_eq_error.mp h
  · exact Or.inl (checkEnd_eq_error hcheck)
  have hstale := readsIn_dropStaleKeys s.cursor.rest s.atToken
  obtain hfresh | ⟨fresh, hfresh, h⟩ := bind_eq_error.mp h
  · rw [show s.atToken.dropStaleKeys = _ from hfresh] at hstale
    exact Or.inr hstale
  rw [show s.atToken.dropStaleKeys = _ from hfresh] at hstale
  have hunwound := (hstart.trans hstale).trans (fresh.goesOn_unwind fresh.cursor.column)
  have htoken := (readsIn_token (fresh.unwind fresh.cursor.column)).of_suffix hunwound.behind
  obtain hended | ⟨ended, hended, h⟩ := bind_eq_error.mp h
  · obtain hfault | hfailed := tokenBefore_eq_error hended
    · exact Or.inl hfault
    · rw [hfailed] at htoken
      exact Or.inr htoken
  obtain hcheck | ⟨⟨⟩, -, h⟩ := bind_eq_error.mp h
  · exact Or.inl (checkEnd_eq_error hcheck)
  have hlast := readsIn_dropStaleKeys s.cursor.rest ended
  rw [h] at hlast
  exact Or.inr hlast

/-- A step goes on in the text; with a fault behind it, to no end of the stream. -/
lemma step_eq_ok (h : s.step fault = .ok s') :
    s'.cursor.Behind s.cursor ∧
      (fault ≠ none → (∀ c ∈ s.cursor.rest, isPrintable c = true) → GoesOn s s') := by
  obtain ⟨fresh, ended, hcheck, hfresh, hended, hlast⟩ := exists_of_step h
  have hstale := readsIn_dropStaleKeys s.cursor.rest s.atToken
  rw [hfresh] at hstale
  have hunwound := (s.goesOn_atToken.trans hstale).trans (fresh.goesOn_unwind fresh.cursor.column)
  have hended := tokenBefore_eq_ok hended
  have htoken := readsIn_token (fresh.unwind fresh.cursor.column)
  rw [hended] at htoken
  have hdropped := readsIn_dropStaleKeys s.cursor.rest ended
  rw [hlast] at hdropped
  refine ⟨hdropped.behind.trans (htoken.trans hunwound.behind), fun hfault hprintable => ?_⟩
  have hcursor : (fresh.unwind fresh.cursor.column).cursor = s.atToken.cursor := by
    rw [cursor_unwind, cursor_of_dropStaleKeys hfresh]
  -- no character of the text is the one beyond its end
  have hmore : (fresh.unwind fresh.cursor.column).cursor.peek 0 ≠ endChar := by
    rw [hcursor]
    refine Cursor.peek_ne_endChar (fun c hc => ?_) (rest_ne_nil_of_checkEnd hcheck hfault)
    exact hprintable c (s.goesOn_atToken.behind.subset hc)
  have hmoves := moves_token _ hmore
  rw [hended] at hmoves
  exact (hunwound.trans hmoves).trans hdropped

/-! ## Runs -/

/-- A run ends at the fault behind the text, or in a way that reading in the text may fail. -/
lemma run_fault (fuel : Nat) (s : Scanner) (h : (run fault fuel s).2 = some e) :
    fault = some e ∨ MayFailIn s.cursor.rest e := by
  induction fuel generalizing s with
  | zero =>
    -- a run out of fuel is reported as a malformed text
    obtain rfl := Option.some.inj h
    exact Or.inr trivial
  | succ fuel ih =>
    rw [run] at h
    split at h
    · cases h
    · split at h
      · rename_i s' hstep
        exact (ih s' h).imp_right fun hfail => hfail.of_suffix (step_eq_ok hstep).1
      · rename_i e' hstep
        obtain rfl := Option.some.inj h
        exact step_eq_error hstep

end DocComment.Yaml.Scanner

namespace DocComment.Yaml

/-- Where the tokens of a text end: at the fault behind it, or in a way that reading in the text may
fail. -/
lemma tokensOf_fault {source : Source} {e : LoadError} (h : (tokensOf source).2 = some e) :
    source.fault = some e ∨ MayFailIn source.text e :=
  Scanner.run_fault _ _ h

end DocComment.Yaml
