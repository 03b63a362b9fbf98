import DocComment.Proofs.Markup.Encoding
import DocComment.Proofs.Markup.Written

/-!
# The tag of the root

A comment that is read has a `member` element as its root, whether it was wrapped or not, except
when the decision not to wrap it was wrong. Of the comments before the root this decision looks only
at the opening of the first and the end of the last, and the last may stand inside another element.

* `readLines_root_tag`: the root has the tag that the prolog ends at;
* `readProlog_afterHeading`: white space and a declaration in front do not change where that is;
* `parse_root_tag_iff`: exactly the misjudged texts give another root.
-/

namespace DocComment.Markup

open DocComment.Text

/-! ## The tag under construction -/

namespace Builder

/-- Whether the outermost element, open or closed, has a tag. -/
structure HasRootTag (tag : String) (b : Builder) : Prop where
  outermost : ∀ frame ∈ b.frames.getLast?, frame.tag = tag
  root : ∀ root ∈ b.root, root.tag = tag

/-- A node is added to the innermost element, whose tag stays. -/
lemma HasRootTag.add {tag : String} {b : Builder} (h : b.HasRootTag tag) (n : Node) :
    (b.add n).HasRootTag tag := by
  rw [Builder.add]
  split
  · exact h
  · rename_i top outer hframes
    -- the innermost element keeps its tag, and it may be the outermost
    refine ⟨?_, h.root⟩
    have houtermost := h.outermost
    rw [hframes] at houtermost
    cases outer with
    | nil => simpa using houtermost
    | cons next outer => simpa [List.getLast?_cons_cons] using houtermost

lemma HasRootTag.flush {tag : String} {b : Builder} (h : b.HasRootTag tag) :
    b.flush.HasRootTag tag := by
  rw [Builder.flush]
  split
  · exact h
  · exact HasRootTag.add (b := { b with pending := [] }) ⟨h.outermost, h.root⟩ _

/-- An element that is opened in another one is not the outermost. -/
lemma HasRootTag.openElement {root : String} {b : Builder} (h : b.HasRootTag root)
    (hopen : 0 < b.depth) (tag : String) (attrs : Attributes) (place : Position) :
    (b.openElement tag attrs place).HasRootTag root := by
  have hflush := h.flush
  refine ⟨?_, hflush.root⟩
  rw [← depth_flush, depth] at hopen
  obtain ⟨top, outer, hframes⟩ := List.exists_cons_of_length_pos hopen
  have houtermost := hflush.outermost
  intro frame hframe
  refine houtermost frame ?_
  rw [hframes]
  rw [Builder.openElement, hframes] at hframe
  exact hframe

/-- The outermost element becomes the root with its tag. -/
lemma HasRootTag.closeElement {tag : String} {b : Builder} (h : b.HasRootTag tag) :
    b.closeElement.HasRootTag tag := by
  have hflush := h.flush
  have houtermost := hflush.outermost
  rw [Builder.closeElement]
  split
  · exact hflush
  · rename_i top hframes
    rw [hframes] at houtermost
    refine ⟨by simp, ?_⟩
    intro root hroot
    obtain rfl := Option.some.inj hroot
    exact houtermost top rfl
  · rename_i top outer hmore hframes
    rw [hframes] at houtermost
    refine HasRootTag.add (b := { b.flush with frames := outer }) ⟨?_, hflush.root⟩ _
    cases outer with
    | nil => exact absurd rfl hmore
    | cons next outer => exact houtermost

/-- Every step keeps the tag of the root. -/
theorem Step.hasRootTag {tag : String} {b b' : Builder} (h : Step b b') (hb : b.HasRootTag tag) :
    b'.HasRootTag tag := by
  cases h with
  | character c _ _ => exact ⟨hb.outermost, hb.root⟩
  | comment body _ _ _ => exact hb.flush.add _
  | openElement inner attrs place hopen _ _ => exact hb.openElement hopen inner attrs place
  | closeElement _ => exact hb.closeElement

lemma hasRootTag_openElement (tag : String) (attrs : Attributes) (place : Position) :
    (({} : Builder).openElement tag attrs place).HasRootTag tag := by
  refine ⟨?_, by simp [Builder.openElement, Builder.flush]⟩
  intro frame hframe
  obtain rfl := Option.some.inj hframe
  rfl

end Builder

/-! ## The tag that a prolog ends at -/

lemma exists_range_of_containsCode {ranges : Ranges} {n : Nat} (h : ranges.containsCode n = true) :
    ∃ range ∈ ranges, range.1 ≤ n ∧ n ≤ range.2 := by
  induction ranges with
  | nil => cases h
  | cons range rest ih =>
    rw [Ranges.containsCode] at h
    split_ifs at h with hlo hhi
    · exact ⟨range, List.mem_cons_self, not_lt.mp hlo, hhi⟩
    · obtain ⟨range', hmem, hn⟩ := ih h
      exact ⟨range', List.mem_cons_of_mem _ hmem, hn⟩

/-- No white space can stand in a name. -/
lemma isNameChar_of_isBlank {c : Char} (h : isBlank c = true) : isNameChar c = false := by
  have hcodes : ∀ range ∈ blankRanges, ∀ n ∈ List.range' range.1 (range.2 + 1 - range.1),
      Ranges.containsCode nameRanges n = false := by decide +kernel
  obtain ⟨range, hmem, hlo, hhi⟩ := exists_range_of_containsCode h
  refine hcodes range hmem c.toNat (List.mem_range'_1.mpr ⟨hlo, ?_⟩)
  omega

/-- Layout is white space. -/
lemma isBlank_of_isSpace {c : Char} (h : isSpace c = true) : isBlank c = true := by
  simp only [isSpace, Bool.or_eq_true, decide_eq_true_eq] at h
  rcases h with ((rfl | rfl) | rfl) | rfl <;> rfl

/-- A `member` tag starts with its name and a character that ends it. -/
lemma startsMember_iff {s : List Char} :
    startsMember s = true ↔ ∃ c rest, s = "<member".toList ++ c :: rest ∧
      (isBlank c = true ∨ c = '/' ∨ c = '>') := by
  constructor
  · intro h
    obtain ⟨hstart, hend⟩ := Bool.and_eq_true_iff.mp h
    obtain ⟨t, rfl⟩ := List.isPrefixOf_iff_prefix.mp hstart
    have hdrop : ("<member".toList ++ t).drop 7 = t := rfl
    rw [hdrop] at hend
    cases t with
    | nil => cases hend
    | cons c rest => exact ⟨c, rest, rfl, by simpa [or_assoc] using hend⟩
  · rintro ⟨c, rest, rfl, hc⟩
    show (true && (isBlank c || c = '/' || c = '>')) = true
    simpa [or_assoc] using hc

lemma scanName_eq_found {s after : List Char} {name : String} (h : scanName s = .found name after) :
    s = name.toList ++ after := by
  cases s with
  | nil => cases h
  | cons c rest =>
    rw [scanName] at h
    split at h
    · cases h
      rw [String.toList_ofList, List.cons_append, List.takeWhile_append_dropWhile]
    · cases h

/-- What follows the name of a start tag ends the name. -/
lemma head?_of_scanAttributes {s rest : List Char} {found : List RawAttribute × Bool}
    (h : scanAttributes s = .found found rest) :
    ∃ c after, s = c :: after ∧ (isSpace c = true ∨ c = '/' ∨ c = '>') := by
  cases s with
  | nil =>
    rw [scanAttributes] at h
    cases h
  | cons c after =>
    refine ⟨c, after, rfl, ?_⟩
    by_contra hc
    obtain ⟨hspace, hslash, hgt⟩ : isSpace c ≠ true ∧ c ≠ '/' ∧ c ≠ '>' := by simpa using hc
    rw [scanAttributes, if_neg hgt, if_neg hslash, if_neg hspace] at h
    cases h

/-- The name that is read in a start tag tells whether a `member` tag starts there. -/
lemma startsMember_iff_tag {r after rest : List Char} {tag : String}
    {found : List RawAttribute × Bool} (hname : scanName r = .found tag after)
    (hattrs : scanAttributes after = .found found rest) :
    startsMember ('<' :: r) = true ↔ tag = rootTag := by
  rw [startsMember_iff]
  constructor
  · rintro ⟨c, t, hr, hc⟩
    obtain rfl : r = "member".toList ++ c :: t := (List.cons.inj hr).2
    have hend : isNameChar c = false := by
      rcases hc with hblank | rfl | rfl
      · exact isNameChar_of_isBlank hblank
      · decide
      · decide
    have hmember : scanName ("member".toList ++ c :: t) = .found "member" (c :: t) :=
      scanName_append (by decide) (by simpa using hend)
    exact (Scan.found.inj (hname.symm.trans hmember)).1
  · rintro rfl
    obtain ⟨c, t, rfl, hc⟩ := head?_of_scanAttributes hattrs
    refine ⟨c, t, ?_, hc.imp_left isBlank_of_isSpace⟩
    rw [scanName_eq_found hname]
    rfl

/-- The root has the tag that the prolog ends at. -/
theorem readLines_root_tag {s : List Char} {root : Element} (h : readLines s = .ok root) :
    ∃ doc body, Doctype.readProlog {} .start (dropMark s) = .ok (doc, body) ∧
      (startsMember body = true ↔ root.tag = rootTag) := by
  obtain ⟨doc, r, tag, attrs, place, b, hprolog, ⟨after, found, rest, hname, hattrs⟩, -, -, hsteps,
    hroot⟩ := readLines_steps h
  have htag : root.tag = tag :=
    (hsteps.invariant Builder.Step.hasRootTag
      (Builder.hasRootTag_openElement tag attrs place)).root root hroot
  refine ⟨doc, '<' :: r, hprolog, ?_⟩
  rw [htag]
  exact startsMember_iff_tag hname hattrs

/-! ## What stands before the tag -/

section

variable {doc : Doctype} {state : Doctype.Expect} {result : Doctype × List Char}

/-- A prolog goes on after a token that does not begin the root element. -/
lemma readProlog_after {c : Char} {rest after : List Char} {token : Doctype.Token}
    (hnext : Doctype.Token.next c rest = .found token after) (htoken : token ≠ .rootStart)
    (h : Doctype.readProlog doc state (c :: rest) = .ok result) :
    ∃ doc' state', Doctype.readProlog doc' state' after = .ok result := by
  rw [Doctype.readProlog] at h
  grind

lemma exists_next_of_readProlog {c : Char} {rest : List Char}
    (h : Doctype.readProlog doc state (c :: rest) = .ok result) :
    ∃ token after, Doctype.Token.next c rest = .found token after := by
  rw [Doctype.readProlog] at h
  grind

/-- Outside the root element white space that is no layout is refused. -/
lemma next_of_isBlank {c : Char} (hc : isBlank c = true) (hspace : isSpace c = false)
    (rest : List Char) : Doctype.Token.next c rest = .invalid (c :: rest) := by
  have hne : ∀ d : Char, isBlank d = false → c ≠ d := by
    rintro d hd rfl
    exact absurd hc (by simp [hd])
  have hname := isNameChar_of_isBlank hc
  simp [Doctype.Token.next, Doctype.scanNames, hspace, hname, hne '<' (by decide),
    hne '"' (by decide), hne '\'' (by decide), hne '%' (by decide), hne ',' (by decide),
    hne '[' (by decide), hne ']' (by decide), hne '(' (by decide), hne ')' (by decide),
    hne '|' (by decide), hne '>' (by decide), hne '#' (by decide)]

lemma dropWhile_skipSpace (s : List Char) :
    (skipSpace s).dropWhile isBlank = s.dropWhile isBlank := by
  induction s with
  | nil => rfl
  | cons c rest ih =>
    by_cases hc : isSpace c = true
    · rw [skipSpace, List.dropWhile_cons_of_pos hc,
        List.dropWhile_cons_of_pos (isBlank_of_isSpace hc)]
      exact ih
    · rw [skipSpace, List.dropWhile_cons_of_neg hc]

/-- White space in front does not change where a prolog ends. -/
lemma readProlog_dropWhile {doc : Doctype} {state : Doctype.Expect} {s : List Char}
    (h : Doctype.readProlog doc state s = .ok result) :
    ∃ doc' state', Doctype.readProlog doc' state' (s.dropWhile isBlank) = .ok result := by
  match s with
  | [] => exact ⟨doc, state, h⟩
  | c :: rest =>
    by_cases hc : isBlank c = true
    · cases hspace : isSpace c with
      | true =>
        -- one token takes all layout; white space behind it is refused
        have hnext : Doctype.Token.next c rest = .found .space (skipSpace rest) := by
          rw [Doctype.Token.next, if_pos hspace]
        obtain ⟨doc', state', hafter⟩ := readProlog_after hnext (by simp) h
        rw [List.dropWhile_cons_of_pos hc, ← dropWhile_skipSpace]
        exact readProlog_dropWhile hafter
      | false =>
        obtain ⟨token, after, hnext⟩ := exists_next_of_readProlog h
        rw [next_of_isBlank hc hspace] at hnext
        cases hnext
    · exact ⟨doc, state, by rwa [List.dropWhile_cons_of_neg hc]⟩
termination_by s.length
decreasing_by
  have hle := length_dropWhile_le isSpace rest
  rw [skipSpace, List.length_cons]
  omega

/-- An instruction ends at its first bracket if a question mark stands before that. -/
lemma scanInstructionBody_after {x s body after : List Char} (hx : '>' ∉ x)
    (h : scanInstructionBody (x ++ '?' :: '>' :: s) = .found body after) : after = s := by
  induction x generalizing body with
  | nil =>
    cases h
    rfl
  | cons c x ih =>
    have hopen : ∀ rest, c = '?' → x ++ '?' :: '>' :: s = '>' :: rest → False := by
      intro rest _ hrest
      cases x with
      | nil => simp at hrest
      | cons d x =>
        obtain ⟨rfl, -⟩ := List.cons.inj hrest
        exact hx (by simp)
    rw [List.cons_append, scanInstructionBody.eq_3 _ _ hopen] at h
    split at h
    · obtain ⟨others, hothers, -⟩ := Scan.map_eq_found.mp h
      exact ih (fun hmem => hx (List.mem_cons_of_mem _ hmem)) hothers
    · cases h

/-- An instruction of the target `xml` whose text has no angle bracket ends where it is cut off. -/
lemma scanInstruction_after {x s after : List Char} {instruction : Instruction} (hx : '>' ∉ x)
    (h : scanInstruction ("xml".toList ++ (x ++ '?' :: '>' :: s)) = .found instruction after) :
    after = s := by
  obtain ⟨target, rest, hname, h⟩ := Scan.andThen_eq_found.mp h
  -- the name of the target stops at the question mark at the latest
  obtain ⟨y, hy, rfl⟩ : ∃ y, '>' ∉ y ∧ rest = y ++ '?' :: '>' :: s := by
    refine ⟨x.dropWhile isNameChar, fun hmem => hx ((List.dropWhile_sublist _).subset hmem), ?_⟩
    have hdrop : rest = (x ++ '?' :: '>' :: s).dropWhile isNameChar :=
      (Scan.found.inj hname).2.symm
    rw [hdrop, List.dropWhile_append]
    split
    · rename_i hempty
      rw [List.isEmpty_iff.mp hempty, List.dropWhile_cons_of_neg (by decide)]
      rfl
    · rfl
  cases y with
  | nil =>
    dsimp only [List.nil_append] at h
    split at h
    · cases h
    · rw [if_neg (by decide), if_pos rfl] at h
      exact (List.cons.inj (Scan.expect_eq_found.mp h).1).2.symm
  | cons c y =>
    have hy' : '>' ∉ y := fun hmem => hy (List.mem_cons_of_mem _ hmem)
    dsimp only [List.cons_append] at h
    split at h
    · cases h
    · split at h
      · obtain ⟨body, hbody, -⟩ := Scan.map_eq_found.mp h
        exact scanInstructionBody_after hy' hbody
      · split at h
        · -- a question mark before another character than the bracket
          have hclose := (Scan.expect_eq_found.mp h).1
          cases y with
          | nil => simp at hclose
          | cons d y =>
            obtain ⟨rfl, -⟩ := List.cons.inj hclose
            exact absurd List.mem_cons_self hy'
        · cases h

/-- A declaration in front does not change where a prolog ends. -/
lemma readProlog_declaration {x s : List Char} (hx : '>' ∉ x)
    (h : Doctype.readProlog doc state ("<?xml".toList ++ (x ++ '?' :: '>' :: s)) = .ok result) :
    ∃ doc' state', Doctype.readProlog doc' state' s = .ok result := by
  obtain ⟨token, after, hnext⟩ := exists_next_of_readProlog h
  have hscan : (scanInstruction ("xml".toList ++ (x ++ '?' :: '>' :: s))).map
      Doctype.Token.instruction = .found token after := hnext
  obtain ⟨instruction, hinstruction, rfl⟩ := Scan.map_eq_found.mp hscan
  obtain rfl := scanInstruction_after hx hinstruction
  exact readProlog_after hnext (by simp) h

end

/-! ## The decision to wrap -/

/-- The text after white space, a declaration and white space again. -/
def afterHeading (s : List Char) : List Char :=
  let s := s.dropWhile isBlank
  match splitDeclaration? s with
  | some (_, rest) => rest.dropWhile isBlank
  | none => s

lemma isRooted_eq (s : List Char) :
    isRooted s = (startsMember (afterHeading s) ||
      ("<!--".toList.isPrefixOf (afterHeading s) &&
        memberAfterComment ((afterHeading s).drop 4))) :=
  rfl

/-- A declaration ends with a question mark and the first bracket. -/
lemma splitDeclaration?_eq_some {s declaration rest : List Char}
    (h : splitDeclaration? s = some (declaration, rest)) :
    ∃ x, '>' ∉ x ∧ declaration = "<?xml".toList ++ (x ++ ['?', '>']) ∧ s = declaration ++ rest := by
  rw [splitDeclaration?] at h
  split at h
  · rename_i hstart
    obtain ⟨t, rfl⟩ := List.isPrefixOf_iff_prefix.mp hstart
    have hdrop : ("<?xml".toList ++ t).drop 5 = t := rfl
    simp only [hdrop] at h
    split at h
    · rename_i after hafter
      split at h
      · rename_i hlast
        cases h
        obtain ⟨x, hx⟩ := List.getLast?_eq_some_iff.mp hlast
        have hnone : ∀ c ∈ t.takeWhile (· ≠ '>'), decide (c ≠ '>') = true :=
          List.all_eq_true.mp List.all_takeWhile
        have hcut := List.takeWhile_append_dropWhile (p := (· ≠ '>')) (l := t)
        rw [hx] at hnone
        rw [hx, hafter] at hcut
        refine ⟨x, ?_, ?_, ?_⟩
        · intro hmem
          exact absurd (hnone _ (List.mem_append_left _ hmem)) (by simp)
        · rw [hx, List.append_assoc, List.append_assoc]
          rfl
        · rw [hx, ← hcut]
          simp
      · cases h
    · cases h
  · cases h

/-- White space stays white space when line breaks become line feeds. -/
lemma dropWhile_toLineFeeds (s : List Char) :
    (toLineFeeds s).dropWhile isBlank = toLineFeeds (s.dropWhile isBlank) := by
  fun_induction toLineFeeds s with
  | case1 => rfl
  | case2 rest ih =>
    rw [List.dropWhile_cons_of_pos (by decide), List.dropWhile_cons_of_pos (by decide),
      List.dropWhile_cons_of_pos (by decide), ih]
  | case3 c rest hbreak ih =>
    by_cases hreturn : c = '\r'
    · subst hreturn
      rw [if_pos rfl, List.dropWhile_cons_of_pos (by decide),
        List.dropWhile_cons_of_pos (by decide), ih]
    · rw [if_neg hreturn]
      by_cases hblank : isBlank c = true
      · rw [List.dropWhile_cons_of_pos hblank, List.dropWhile_cons_of_pos hblank, ih]
      · rw [List.dropWhile_cons_of_neg hblank, List.dropWhile_cons_of_neg hblank,
          toLineFeeds_cons_of_ne hreturn]

/-- A heading does not change where a prolog ends. -/
lemma readProlog_afterHeading {doc : Doctype} {state : Doctype.Expect}
    {result : Doctype × List Char} {s : List Char}
    (h : Doctype.readProlog doc state (toLineFeeds s) = .ok result) :
    ∃ doc' state', Doctype.readProlog doc' state' (toLineFeeds (afterHeading s)) = .ok result := by
  obtain ⟨doc, state, h⟩ := readProlog_dropWhile h
  rw [dropWhile_toLineFeeds] at h
  rw [afterHeading]
  split
  · rename_i declaration rest hsplit
    obtain ⟨x, hx, rfl, hs⟩ := splitDeclaration?_eq_some hsplit
    have hfeeds : toLineFeeds (s.dropWhile isBlank)
        = "<?xml".toList ++ (toLineFeeds x ++ '?' :: '>' :: toLineFeeds rest) := by
      rw [hs, List.append_assoc, List.append_assoc, toLineFeeds_append_of_notMem (by decide),
        toLineFeeds_append fun _ => by simp]
      rw [List.cons_append, List.cons_append, toLineFeeds_cons_of_ne (by decide),
        toLineFeeds_cons_of_ne (by decide), List.nil_append]
    -- the declaration is still one when its line breaks are line feeds
    have hx' : '>' ∉ toLineFeeds x := by
      intro hmem
      rcases (mem_toLineFeeds hmem).1 with hfeed | hmem
      · exact absurd hfeed (by decide)
      · exact hx hmem
    rw [hfeeds] at h
    obtain ⟨doc, state, h⟩ := readProlog_declaration hx' h
    rw [← dropWhile_toLineFeeds]
    exact readProlog_dropWhile h
  · exact ⟨doc, state, h⟩

/-- A `member` tag still starts where it did when line breaks become line feeds. -/
lemma startsMember_toLineFeeds {s : List Char} (h : startsMember s = true) :
    startsMember (toLineFeeds s) = true := by
  obtain ⟨c, rest, rfl, hc⟩ := startsMember_iff.mp h
  rw [toLineFeeds_append_of_notMem (by decide), startsMember_iff]
  by_cases hreturn : c = '\r'
  · subst hreturn
    obtain ⟨t, ht⟩ := exists_toLineFeeds_return rest
    exact ⟨'\n', t, by rw [ht], Or.inl (by decide)⟩
  · exact ⟨c, toLineFeeds rest, by rw [toLineFeeds_cons_of_ne hreturn], hc⟩

/-- A prolog that can be read ends at a `member` tag if such a tag follows its heading. -/
lemma startsMember_of_readProlog {s body : List Char} {doc doc' : Doctype} {state : Doctype.Expect}
    (h : Doctype.readProlog doc state (toLineFeeds s) = .ok (doc', body))
    (hmember : startsMember (afterHeading s) = true) : startsMember body = true := by
  obtain ⟨doc, state, h⟩ := readProlog_afterHeading h
  have hfeeds := startsMember_toLineFeeds hmember
  obtain ⟨c, rest, heq, -⟩ := startsMember_iff.mp hfeeds
  have hstart : Doctype.StartsTag ("member".toList ++ c :: rest) :=
    startsTag_of_isName (by decide) _
  rw [heq] at h hfeeds
  have hend := readProlog_rootStart hstart doc state
  split at hend
  · obtain ⟨-, rfl⟩ := Prod.mk.inj (Except.ok.inj (h.symm.trans hend))
    exact hfeeds
  · cases h.symm.trans hend

lemma dropMark_of_head? {s : List Char} (h : s.head? ≠ some '\uFEFF') : dropMark s = s := by
  rw [dropMark.eq_def]
  split
  · exact absurd rfl h
  · rfl

/-- A text with a `member` tag after its heading begins with no byte order mark. -/
lemma dropMark_toLineFeeds {s : List Char} (h : startsMember (afterHeading s) = true) :
    dropMark (toLineFeeds s) = toLineFeeds s := by
  refine dropMark_of_head? fun hmark => ?_
  obtain ⟨rest, rfl⟩ :=
    List.head?_eq_some_iff.mp (head?_of_head?_toLineFeeds (by decide) hmark)
  have hheading : afterHeading ('\uFEFF' :: rest) = '\uFEFF' :: rest := rfl
  rw [hheading] at h
  cases h

/-- A declaration is split off whatever follows it. -/
lemma splitDeclaration?_append {x : List Char} (hx : '>' ∉ x) (rest : List Char) :
    splitDeclaration? ("<?xml".toList ++ (x ++ ['?', '>']) ++ rest)
      = some ("<?xml".toList ++ (x ++ ['?', '>']), rest) := by
  have hbody : ∀ c ∈ x ++ ['?'], decide (c ≠ '>') = true := by
    intro c hc
    rcases List.mem_append.mp hc with hc | hc
    · simpa using fun heq : c = '>' => hx (heq ▸ hc)
    · obtain rfl := List.mem_singleton.mp hc
      decide
  have hdrop : ("<?xml".toList ++ (x ++ ['?', '>']) ++ rest).drop 5
      = x ++ ['?'] ++ '>' :: rest := by
    simp
  have hstart : "<?xml".toList.isPrefixOf ("<?xml".toList ++ (x ++ ['?', '>']) ++ rest) = true :=
    rfl
  rw [splitDeclaration?, if_pos hstart]
  simp only [hdrop, List.takeWhile_append_of_pos hbody, List.dropWhile_append_of_pos hbody]
  simp

/-- A wrapped text begins with a `member` tag after its declaration. -/
lemma startsMember_afterHeading_wrap (s : List Char) :
    startsMember (afterHeading (wrap s)) = true := by
  cases hsplit : splitDeclaration? s with
  | none =>
    rw [wrap, hsplit]
    rfl
  | some parts =>
    obtain ⟨declaration, rest⟩ := parts
    obtain ⟨x, hx, rfl, -⟩ := splitDeclaration?_eq_some hsplit
    let declaration := "<?xml".toList ++ (x ++ ['?', '>'])
    let body := List.replicate declaration.length ' ' ++ rest
    let wrapped := "<member>\n".toList ++ (body ++ "\n</member>".toList)
    have hwrap : wrap s = declaration ++ wrapped := by
      rw [wrap, hsplit]
      simp [declaration, body, wrapped]
    have hblank : (declaration ++ wrapped).dropWhile isBlank = declaration ++ wrapped := rfl
    rw [hwrap, afterHeading, hblank, splitDeclaration?_append hx wrapped]
    rfl

/-! ## Misjudged texts -/

/-- Whether the decision not to wrap a text is wrong: it opens with a comment and somewhere a
comment ends before a `member` tag, but its prolog ends at another tag. -/
def isMisjudged (s : List Char) : Bool :=
  "<!--".toList.isPrefixOf (afterHeading s) && memberAfterComment ((afterHeading s).drop 4) &&
    match Doctype.readProlog {} .start (dropMark (toLineFeeds s)) with
    | .ok (_, body) => !startsMember body
    | .error _ => false

/-- A text that opens with a comment does not start with a `member` tag. -/
lemma isMisjudged_of_startsMember {s : List Char} (h : startsMember (afterHeading s) = true) :
    isMisjudged s = false := by
  obtain ⟨c, rest, heq, -⟩ := startsMember_iff.mp h
  rw [isMisjudged, heq]
  rfl

/-- The root of a comment that is read is a `member` element, unless the comment is misjudged. -/
theorem parse_root_tag_iff {text : String} {tree : Tree} (h : parse text = .ok tree) :
    tree.root.tag = rootTag ↔ isMisjudged text.toList = false := by
  -- a text that is read has a `member` root if a `member` tag follows its heading
  have hmember : ∀ s : List Char, readLines (toLineFeeds s) = .ok tree.root →
      startsMember (afterHeading s) = true → tree.root.tag = rootTag := by
    intro s hread hstarts
    obtain ⟨doc, body, hprolog, htag⟩ := readLines_root_tag hread
    rw [dropMark_toLineFeeds hstarts] at hprolog
    exact htag.mp (startsMember_of_readProlog hprolog hstarts)
  rw [parse] at h
  split at h
  · rename_i hwrapped
    have hread := ((parseDocument_eq_ok (byteOrder?_wrap _)).mp h).1
    have hroot := hmember _ hread (startsMember_afterHeading_wrap _)
    have hfragment : isRooted text.toList = false := by simpa using hwrapped
    rw [isRooted_eq, Bool.or_eq_false_iff] at hfragment
    refine iff_of_true hroot ?_
    rw [isMisjudged, hfragment.2, Bool.false_and]
  · rename_i hrooted
    have hcomment : isRooted text.toList = true := by simpa using hrooted
    have hread := ((parseDocument_eq_ok (byteOrder?_of_isRooted hcomment)).mp h).1
    cases hstarts : startsMember (afterHeading text.toList) with
    | true =>
      exact iff_of_true (hmember _ hread hstarts) (isMisjudged_of_startsMember hstarts)
    | false =>
      -- only what looks like a comment before a `member` tag has kept the text from being wrapped
      rw [isRooted_eq, hstarts, Bool.false_or] at hcomment
      obtain ⟨doc, body, hprolog, htag⟩ := readLines_root_tag hread
      rw [isMisjudged, hcomment, hprolog, ← htag]
      simp

/-- A comment, an element, and inside it a comment before a `member` element. -/
def commentBeforeElement : String :=
  "<!--a--><doc><!--b--><member/></doc>"

theorem parse_root_tag_iff_commentBeforeElement :
    ∃ tree, parse commentBeforeElement = .ok tree ∧
      (tree.root.tag = rootTag ↔ isMisjudged commentBeforeElement.toList = false) := by
  have hread : (parse commentBeforeElement).toOption.map (·.lineOffset) = some 0 := by
    decide +kernel
  obtain ⟨tree, hparse, -⟩ := exists_ok_of_map hread
  exact ⟨tree, hparse, parse_root_tag_iff hparse⟩

/-- The root of `commentBeforeElement` is no `member` element, and it has no children to answer
with. -/
theorem parse_root_tag_commentBeforeElement :
    ∃ tree, parse commentBeforeElement = .ok tree ∧ tree.root.tag = "doc" ∧
      tree.root.tag ≠ rootTag ∧ ∀ tag, tree.children tag = [] := by
  have hread : (parse commentBeforeElement).toOption.map (·.root.tag) = some "doc" := by
    decide +kernel
  obtain ⟨tree, hparse, htag⟩ := exists_ok_of_map hread
  have hforeign : tree.root.tag ≠ rootTag := by
    rw [htag]
    decide
  refine ⟨tree, hparse, htag, hforeign, fun tag => ?_⟩
  rw [Tree.children, if_neg hforeign]

end DocComment.Markup
