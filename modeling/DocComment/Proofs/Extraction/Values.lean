import DocComment.Comment
import DocComment.Proofs.Markup.RoundTrip
import DocComment.Proofs.Reindent.CodeRegions

/-!
# The text of an element

The value of an element is its written content, re-indented and with its references replaced. What
comes out is the content as it was read: every reference that the printer writes is replaced by the
character it was written for, none twice, and re-indentation drops white space only.

* `StandsFor` relates a written text to the characters that it stands for, and `unescape` gives just
  these (`unescape_of_standsFor`);
* `StandsFor.dropsBlanks`: lost white space is lost between references, never inside one;
* `standsFor_render`: a written node stands for the node with its characters as they are;
* `unescape_reindent_escapeText`: the value of character data;
* `parse_wellFormed`: a tree that was read can be written.
-/

namespace DocComment.Text

/-- The characters of a text that are no white space. -/
def visible (s : List Char) : List Char :=
  s.filter (!isBlank ·)

lemma visible_cons_blank {c : Char} (hc : isBlank c = true) (s : List Char) :
    visible (c :: s) = visible s := by
  simp [visible, hc]

lemma visible_cons_congr (c : Char) {s t : List Char} (h : visible s = visible t) :
    visible (c :: s) = visible (c :: t) := by
  have hcons : ∀ u, visible (c :: u) = if !isBlank c then c :: visible u else visible u :=
    fun u => List.filter_cons
  rw [hcons, hcons, h]

namespace CharacterReference

/-! ## What a written text stands for -/

/-- The references that are written, each behind its ampersand, with what they stand for. -/
def written : List (List Char × Char) :=
  [("amp;".toList, '&'), ("lt;".toList, '<'), ("gt;".toList, '>'), ("quot;".toList, '"'),
   ("#13;".toList, '\r'), ("#10;".toList, '\n'), ("#09;".toList, '\t')]

/-- A written reference is read up to its semicolon, whatever follows. -/
lemma read?_written {name : List Char} {c : Char} (h : (name, c) ∈ written) (s : List Char) :
    read? (name ++ s) = some ([c], s) := by
  simp only [written, List.mem_cons, Prod.mk.injEq, List.not_mem_nil, or_false] at h
  rcases h with ⟨rfl, rfl⟩ | ⟨rfl, rfl⟩ | ⟨rfl, rfl⟩ | ⟨rfl, rfl⟩ | ⟨rfl, rfl⟩ | ⟨rfl, rfl⟩ |
    ⟨rfl, rfl⟩ <;> rfl

/-- A written reference holds no white space. -/
lemma isBlank_of_mem_written {name : List Char} {c : Char} (h : (name, c) ∈ written) :
    ∀ d ∈ '&' :: name, isBlank d = false := by
  have hall : ∀ reference ∈ written, ('&' :: reference.1).any isBlank = false := by decide
  exact eq_false_of_any (hall _ h)

/-- Whether a written text stands for characters: all but the ampersand stand for themselves, and an
ampersand begins a reference. -/
inductive StandsFor : List Char → List Char → Prop
  | nil : StandsFor [] []
  | character {c : Char} (hc : c ≠ '&') {s t : List Char} (h : StandsFor s t) :
    StandsFor (c :: s) (c :: t)
  | reference (name : List Char) {c : Char} (hname : (name, c) ∈ written) {s t : List Char}
    (h : StandsFor s t) : StandsFor ('&' :: name ++ s) (c :: t)

/-- Replacing references gives the characters that a text stands for. -/
lemma unescape_of_standsFor {s t : List Char} (h : StandsFor s t) : unescape s = t := by
  induction h with
  | nil => rw [unescape]
  | character hc _ ih => rw [unescape, if_neg hc, ih]
  | reference name hname _ ih =>
    rename_i s t _
    rw [List.cons_append, unescape, if_pos rfl]
    have hread := read?_written hname s
    split
    · rename_i chars after hfound
      obtain ⟨rfl, rfl⟩ := Prod.mk.inj (Option.some.inj (hread.symm.trans hfound))
      rw [ih]
      rfl
    · rename_i hnone
      cases hread.symm.trans hnone

namespace StandsFor

/-- What stands for one text and what stands for another stand together for both. -/
lemma append {s t s' t' : List Char} (h : StandsFor s t) (h' : StandsFor s' t') :
    StandsFor (s ++ s') (t ++ t') := by
  induction h with
  | nil => exact h'
  | character hc _ ih => exact character hc ih
  | reference name hname _ ih =>
    rw [List.append_assoc]
    exact reference name hname ih

/-- A text without ampersands stands for itself. -/
lemma of_notMem {s : List Char} (hs : '&' ∉ s) : StandsFor s s := by
  induction s with
  | nil => exact nil
  | cons c s ih =>
    obtain ⟨hc, hs⟩ : '&' ≠ c ∧ '&' ∉ s := by simpa using hs
    exact character hc.symm (ih hs)

/-- Where every character is written as a text that stands for it, so is a text of them. -/
lemma flatMap {f : Char → List Char} (hf : ∀ c, StandsFor (f c) [c]) (s : List Char) :
    StandsFor (s.flatMap f) s := by
  induction s with
  | nil => exact nil
  | cons c s ih => exact (hf c).append ih

/-- Making line feeds of line breaks changes white space only. -/
lemma toLineFeeds {s t : List Char} (h : StandsFor s t) :
    ∃ t', StandsFor (Text.toLineFeeds s) t' ∧ visible t' = visible t := by
  induction h with
  | nil => exact ⟨[], nil, rfl⟩
  | character hc _ ih =>
    rename_i c s t _
    obtain ⟨t', hstands, hvisible⟩ := ih
    by_cases hreturn : c = '\r'
    · subst hreturn
      by_cases hfeed : s.head? = some '\n'
      · -- the line feed after the carriage return is the one that stays
        obtain ⟨rest, rfl⟩ := List.head?_eq_some_iff.mp hfeed
        have hsame : Text.toLineFeeds ('\r' :: '\n' :: rest) = Text.toLineFeeds ('\n' :: rest) := by
          rw [toLineFeeds_return_lineFeed, toLineFeeds_cons_of_ne (by decide)]
        refine ⟨t', hsame ▸ hstands, ?_⟩
        rw [hvisible, visible_cons_blank (by decide)]
      · refine ⟨'\n' :: t', ?_, ?_⟩
        · rw [toLineFeeds_return hfeed]
          exact character (by decide) hstands
        · rw [visible_cons_blank (by decide), visible_cons_blank (by decide), hvisible]
    · refine ⟨c :: t', ?_, visible_cons_congr c hvisible⟩
      rw [toLineFeeds_cons_of_ne hreturn]
      exact character hc hstands
  | reference name hname _ ih =>
    rename_i c s t _
    obtain ⟨t', hstands, hvisible⟩ := ih
    refine ⟨c :: t', ?_, visible_cons_congr c hvisible⟩
    have hreturn : '\r' ∉ '&' :: name := by
      intro hmem
      exact absurd (isBlank_of_mem_written hname _ hmem) (by decide)
    rw [toLineFeeds_append_of_notMem hreturn]
    exact reference name hname hstands

/-- White space that is dropped stands between references. -/
lemma dropsBlanks {s t s' : List Char} (h : StandsFor s t) (hdrop : Reindent.DropsBlanks s s') :
    ∃ t', StandsFor s' t' ∧ visible t' = visible t := by
  induction h generalizing s' with
  | nil =>
    cases hdrop
    exact ⟨[], nil, rfl⟩
  | character hc _ ih =>
    rename_i c s t _
    cases hdrop with
    | keep _ hrest =>
      obtain ⟨t', hstands, hvisible⟩ := ih hrest
      exact ⟨c :: t', character hc hstands, visible_cons_congr c hvisible⟩
    | drop hblank hrest =>
      obtain ⟨t', hstands, hvisible⟩ := ih hrest
      exact ⟨t', hstands, hvisible.trans (visible_cons_blank hblank t).symm⟩
  | reference name hname _ ih =>
    rename_i c s t _
    obtain ⟨s'', rfl, hrest⟩ := hdrop.of_visible_append (isBlank_of_mem_written hname)
    obtain ⟨t', hstands, hvisible⟩ := ih hrest
    exact ⟨c :: t', reference name hname hstands, visible_cons_congr c hvisible⟩

end StandsFor

/-- A re-indented text gives the visible characters that it stood for. -/
lemma visible_unescape_reindent {s t : List Char} (h : StandsFor s t) (column : Int) :
    visible (unescape (Reindent.reindent s column)) = visible t := by
  obtain ⟨t', hfeeds, hvisible⟩ := h.toLineFeeds
  obtain ⟨t'', hstands, hvisible'⟩ := hfeeds.dropsBlanks (Reindent.dropsBlanks_reindent s column)
  rw [unescape_of_standsFor hstands, hvisible', hvisible]

end CharacterReference

end DocComment.Text

namespace DocComment.Markup

open Text CharacterReference Reindent

/-! ## Trees with their characters as they are -/

/-- The attributes of a tag with their values as they are, each after a blank. -/
def plainAttrs (attrs : Attributes) : List Char :=
  attrs.flatMap fun (name, value) => ' ' :: name.toList ++ ['=', '"'] ++ value.toList ++ ['"']

mutual

/-- A node with its characters as they are: nothing is escaped. -/
def Node.plain : Node → List Char
  | .text value => value.toList
  | .comment value => "<!--".toList ++ value.toList ++ "-->".toList
  | .element tag attrs _ content =>
    '<' :: tag.toList ++ plainAttrs attrs ++
      (match content with
        | [] => " />".toList
        | n :: rest => '>' :: n.plain ++ plainNodes rest ++ "</".toList ++ tag.toList ++ ['>'])

/-- A list of nodes with their characters as they are. -/
def plainNodes : List Node → List Char
  | [] => []
  | n :: rest => n.plain ++ plainNodes rest

end

mutual

/-- The comments in a node, in document order. -/
def Node.comments : Node → List String
  | .text _ => []
  | .comment value => [value]
  | .element _ _ _ content => commentsOf content

/-- The comments in a list of nodes, in document order. -/
def commentsOf : List Node → List String
  | [] => []
  | n :: rest => n.comments ++ commentsOf rest

end

lemma mem_commentsOf {content : List Node} {value : String} {n : Node} (hn : n ∈ content)
    (hvalue : value ∈ n.comments) : value ∈ commentsOf content := by
  induction content with
  | nil => exact absurd hn List.not_mem_nil
  | cons m rest ih =>
    rw [commentsOf, List.mem_append]
    rcases List.mem_cons.mp hn with rfl | hn
    · exact Or.inl hvalue
    · exact Or.inr (ih hn)

/-! ## Written nodes stand for plain ones -/

/-- Escaped characters stand for the characters. -/
lemma standsFor_escapeText (s : List Char) : StandsFor (escapeText s) s := by
  refine StandsFor.flatMap (fun c => ?_) s
  rw [escapeTextChar.eq_def]
  split
  · exact .reference "amp;".toList (by decide) .nil
  · exact .reference "lt;".toList (by decide) .nil
  · exact .reference "gt;".toList (by decide) .nil
  · rename_i hamp _ _
    exact .character hamp .nil

/-- An escaped attribute value stands for the value. -/
lemma standsFor_escapeAttr (s : List Char) : StandsFor (escapeAttr s) s := by
  refine StandsFor.flatMap (fun c => ?_) s
  rw [escapeAttrChar.eq_def]
  split
  · exact .reference "amp;".toList (by decide) .nil
  · exact .reference "lt;".toList (by decide) .nil
  · exact .reference "gt;".toList (by decide) .nil
  · exact .reference "quot;".toList (by decide) .nil
  · exact .reference "#13;".toList (by decide) .nil
  · exact .reference "#10;".toList (by decide) .nil
  · exact .reference "#09;".toList (by decide) .nil
  · rename_i hamp _ _ _ _ _ _
    exact .character hamp .nil

lemma standsFor_name {name : String} (h : isName name.toList = true) :
    StandsFor name.toList name.toList :=
  .of_notMem (notMem_of_isName (by decide) (by decide) h)

/-- Written attributes stand for the same ones with plain values. -/
lemma standsFor_renderAttrs {attrs : Attributes} (h : attrs.WellFormed) :
    StandsFor (renderAttrs attrs) (plainAttrs attrs) := by
  induction attrs with
  | nil => exact .nil
  | cons a attrs ih =>
    obtain ⟨hname, -, hattrs⟩ := h.of_cons
    have hfirst : StandsFor (' ' :: a.1.toList ++ ['=', '"'] ++ escapeAttr a.2.toList ++ ['"'])
        (' ' :: a.1.toList ++ ['=', '"'] ++ a.2.toList ++ ['"']) := by
      have hsign : StandsFor ['=', '"'] ['=', '"'] := .of_notMem (by decide)
      have hquote : StandsFor ['"'] ['"'] := .of_notMem (by decide)
      have hblank : StandsFor (' ' :: a.1.toList) (' ' :: a.1.toList) :=
        .character (by decide) (standsFor_name hname)
      exact ((hblank.append hsign).append (standsFor_escapeAttr a.2.toList)).append hquote
    exact hfirst.append (ih hattrs)

lemma standsFor_renderNodes {content : List Node}
    (h : ∀ n ∈ content, StandsFor n.render n.plain) :
    StandsFor (renderNodes content) (plainNodes content) := by
  induction content with
  | nil => exact .nil
  | cons n rest ih =>
    obtain ⟨hn, hrest⟩ := List.forall_mem_cons.mp h
    exact hn.append (ih hrest)

/-- A written node stands for the node with its characters as they are, if no comment in it holds an
ampersand. -/
lemma standsFor_render {n : Node} (h : n.WellFormed)
    (hcomments : ∀ value ∈ n.comments, '&' ∉ value.toList) : StandsFor n.render n.plain := by
  induction h with
  | text _ _ => exact standsFor_escapeText _
  | comment hchars hreturn hsafe =>
    rename_i value
    have hvalue : '&' ∉ value.toList := hcomments value (List.mem_singleton_self _)
    have hopen : StandsFor "<!--".toList "<!--".toList := .of_notMem (by decide)
    have hclose : StandsFor "-->".toList "-->".toList := .of_notMem (by decide)
    exact (hopen.append (.of_notMem hvalue)).append hclose
  | element htag hattrs hcontent hapart ih =>
    rename_i tag attrs place content
    have hstart : StandsFor ('<' :: tag.toList ++ renderAttrs attrs)
        ('<' :: tag.toList ++ plainAttrs attrs) :=
      (StandsFor.character (by decide) (standsFor_name htag)).append (standsFor_renderAttrs hattrs)
    cases content with
    | nil =>
      have hend : StandsFor " />".toList " />".toList := .of_notMem (by decide)
      exact hstart.append hend
    | cons n rest =>
      have hnodes : StandsFor (renderNodes (n :: rest)) (plainNodes (n :: rest)) := by
        refine standsFor_renderNodes fun m hm => ih m hm ?_
        exact fun value hvalue => hcomments value (mem_commentsOf hm hvalue)
      have hopen : StandsFor "</".toList "</".toList := .of_notMem (by decide)
      have hclose : StandsFor ['>'] ['>'] := .of_notMem (by decide)
      have hinner : StandsFor ('>' :: renderNodes (n :: rest)) ('>' :: plainNodes (n :: rest)) :=
        .character (by decide) hnodes
      exact hstart.append (((hinner.append hopen).append (standsFor_name htag)).append hclose)

/-! ## Character data alone -/

lemma escapeText_append (s t : List Char) :
    escapeText (s ++ t) = escapeText s ++ escapeText t :=
  List.flatMap_append

/-- White space is written as it is. -/
lemma escapeText_of_blank {s : List Char} (hs : ∀ c ∈ s, isBlank c = true) : escapeText s = s := by
  induction s with
  | nil => rfl
  | cons c s ih =>
    obtain ⟨hc, hs⟩ := List.forall_mem_cons.mp hs
    have hchar : escapeTextChar c = [c] := by
      rw [escapeTextChar.eq_def]
      split
      · exact absurd hc (by decide)
      · exact absurd hc (by decide)
      · exact absurd hc (by decide)
      · rfl
    have hcons : escapeText (c :: s) = escapeTextChar c ++ escapeText s := rfl
    rw [hcons, hchar, ih hs]
    rfl

/-- Written character data that begins with no white space still does, and it begins no tag. -/
lemma head?_escapeText {s : List Char} (hs : ∀ c ∈ s.head?, isBlank c = false) :
    (∀ c ∈ (escapeText s).head?, isBlank c = false) ∧ (escapeText s).head? ≠ some '<' := by
  cases s with
  | nil => exact ⟨by simp [escapeText], by simp [escapeText]⟩
  | cons c s =>
    have hc := hs c rfl
    rw [escapeText, List.flatMap_cons, escapeTextChar.eq_def]
    split
    · exact ⟨by simp; decide, by simp⟩
    · exact ⟨by simp; decide, by simp⟩
    · exact ⟨by simp; decide, by simp⟩
    · rename_i hlt _
      exact ⟨by simpa using hc, by simpa using hlt⟩

/-- A line of written character data is dedented as a line of text and leaves the column alone. -/
lemma dedentLine_escapeText (column : Nat) (line : List Char) :
    columnAfter column (escapeText line) = column ∧
      dedentLine column (escapeText line) = escapeText (dedentLine column line) := by
  obtain ⟨blanks, rest, rfl, hblanks, hrest⟩ := exists_indentation line
  obtain ⟨hvisible, htag⟩ := head?_escapeText hrest
  have hwritten : escapeText (blanks ++ rest) = blanks ++ escapeText rest := by
    rw [escapeText_append, escapeText_of_blank hblanks]
  rw [hwritten]
  refine ⟨?_, ?_⟩
  · rw [columnAfter_indentation hblanks hvisible, if_neg htag]
  · cases rest with
    | nil =>
      have hnil : escapeText [] = [] := rfl
      rw [hnil, List.append_nil, dedentLine_of_blank hblanks]
      rfl
    | cons c rest =>
      have hne : escapeText (c :: rest) ≠ [] := by
        rw [escapeText, List.flatMap_cons, escapeTextChar.eq_def]
        split <;> simp
      have hdrop : ∀ c ∈ blanks.drop column, isBlank c = true :=
        fun c hc => hblanks c (List.mem_of_mem_drop hc)
      rw [dedentLine_indentation hblanks hvisible hne,
        dedentLine_indentation hblanks hrest (by simp), escapeText_append,
        escapeText_of_blank hdrop]

/-- Lines of written character data are dedented as lines of text. -/
lemma dedent_escapeText (column : Nat) (ls : List (List Char)) :
    dedent column (ls.map escapeText) = (ls.map (dedentLine column)).map escapeText := by
  induction ls with
  | nil => rfl
  | cons l ls ih =>
    obtain ⟨hcolumn, hline⟩ := dedentLine_escapeText column l
    rw [List.map_cons, dedent, hcolumn, hline, ih]
    rfl

/-- Every angle bracket of a text is escaped. -/
lemma lt_notMem_escapeText (s : List Char) : '<' ∉ escapeText s := by
  intro h
  obtain ⟨c, -, hc⟩ := List.mem_flatMap.mp h
  rw [escapeTextChar.eq_def] at hc
  split at hc
  · exact absurd hc (by decide)
  · exact absurd hc (by decide)
  · exact absurd hc (by decide)
  · rename_i hlt _
    exact hlt (List.mem_singleton.mp hc).symm

/-- Written character data has the lines of the text, written. -/
lemma lines_escapeText (s : List Char) : lines (escapeText s) = (lines s).map escapeText := by
  rw [lines, toLineFeeds_escapeText]
  refine splitOn_flatMap rfl (fun c hc hmem => ?_) _
  rw [escapeTextChar.eq_def] at hmem
  split at hmem
  · exact absurd hmem (by decide)
  · exact absurd hmem (by decide)
  · exact absurd hmem (by decide)
  · exact hc (List.mem_singleton.mp hmem).symm

/-- Written character data, re-indented and with its references replaced, is the text with each line
dedented. -/
lemma unescape_reindent_escapeText (s : List Char) (column : Int) :
    unescape (reindent (escapeText s) column)
      = unlines ((lines s).map (dedentLine column.toNat)) := by
  have hjoined : unlines (((lines s).map (dedentLine column.toNat)).map escapeText)
      = escapeText (unlines ((lines s).map (dedentLine column.toNat))) :=
    unlines_map_flatMap rfl _
  rw [reindent, lines_escapeText, dedent_escapeText, hjoined,
    trimCode_of_notMem (lt_notMem_escapeText _), unescape_of_standsFor (standsFor_escapeText _)]

/-- Nodes of character data are written as the escaped text of them all. -/
lemma renderNodes_of_isText {content : List Node} (h : ∀ n ∈ content, n.isText = true) :
    renderNodes content = escapeText (plainNodes content) := by
  induction content with
  | nil => rfl
  | cons n rest ih =>
    obtain ⟨hn, hrest⟩ := List.forall_mem_cons.mp h
    cases n with
    | text value =>
      rw [renderNodes, plainNodes, ih hrest, escapeText_append]
      rfl
    | comment value => cases hn
    | element tag attrs place content => cases hn

end DocComment.Markup

namespace DocComment

open Markup Text

/-! ## Trees that were read -/

/-- A tree that was read can be written, whether its text was wrapped or not. -/
lemma parse_wellFormed {text : String} {wrapFragments : Bool} {tree : Tree}
    (h : parse text wrapFragments = .ok tree) : tree.root.toNode.WellFormed := by
  rw [parse] at h
  split at h
  · exact readLines_wellFormed (readLines_of_parseDocument h).1
  · exact readLines_wellFormed (readLines_of_parseDocument h).1

end DocComment
