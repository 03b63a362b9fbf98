import DocComment.Proofs.Extraction.Fields
import DocComment.Proofs.Markup.MovedDocument
import DocComment.Proofs.Reindent.Steady
import DocComment.Proofs.Resolution.Moved

/-!
# Comments in indented files

A comment that stands further to the right in its file is the same text with all lines but the first
moved. Its fields are re-indented from the column of their tags, so most of the move is taken back;
`steadyFields` says when all of it is. The comment is then built as before:

* `readValue_moved`: a steady element is read alike in the moved tree;
* `ofTree_moved`: a tree whose fields are steady holds the same comment;
* `buildComment_indented`: building a comment does not depend on its indentation.
-/

namespace DocComment

open Markup Text

/-! ## Fields -/

/-- Whether the text of an element does not depend on how far its lines are moved to the right. The
column of its tag moves along unless the tag stands on the first line. -/
def Markup.Element.isSteady (e : Element) : Bool :=
  Reindent.steady (e.place.any (1 < ·.line)) (Tree.column e) (lines e.renderContent)

/-- Whether all texts that a comment is read from are steady once its references are resolved. -/
def steadyFields (raw : String) (context : Context) (listener : Listener) : Bool :=
  (parse raw).toOption.all fun tree =>
    (readElements (tree.resolved context listener)).all Element.isSteady

variable {d : Nat}

/-- The column of an element moves if its tag does not stand on the first line. -/
lemma column_moved {e e' : Element} (h : e.toNode.Moved d e'.toNode) :
    Tree.column e'
      = if e.place.any (1 < ·.line) then Tree.column e + d else Tree.column e := by
  rw [Tree.column, Tree.column, (moved_of_toNode h).2.2.1]
  cases e.place with
  | none => rfl
  | some p => simp [Position.moved]

/-- The content of a moved element is written with moved lines. -/
lemma renderContent_moved {e e' : Element} (h : e.toNode.Moved d e'.toNode) :
    Indents d false e.renderContent e'.renderContent false :=
  indents_renderNodes ((moved_of_toNode h).2.2.2.imp fun _ _ hn => hn.render)

/-- The content of a steady element is re-indented to the same text wherever the element stands. -/
lemma reindent_moved {e e' : Element} (h : e.toNode.Moved d e'.toNode)
    (hsteady : e.isSteady = true) :
    Reindent.reindent e'.renderContent (Tree.column e')
      = Reindent.reindent e.renderContent (Tree.column e) := by
  have hcontent := renderContent_moved h
  obtain ⟨hreturn, hreturn'⟩ := hcontent.return_notMem
  obtain ⟨first, ls, ls', hlines, hlines', -, hmoved⟩ := hcontent.lines
  rw [Element.isSteady, lines, toLineFeeds_of_notMem hreturn, hlines] at hsteady
  have hdedent := Reindent.dedent_of_steady hmoved hsteady
  rw [Reindent.reindent, Reindent.reindent, Int.toNat_natCast, Int.toNat_natCast, lines, lines,
    toLineFeeds_of_notMem hreturn, toLineFeeds_of_notMem hreturn', hlines, hlines', column_moved h,
    hdedent]

/-- A steady element is read alike wherever it stands. -/
theorem readValue_moved {e e' : Element} (h : e.toNode.Moved d e'.toNode)
    (hsteady : e.isSteady = true) : readValue e' = readValue e := by
  have htext := reindent_moved h hsteady
  rw [readValue, readValue, overlongIn?, overlongIn?, elementValue, elementValue, htext]

/-! ## Comments -/

section

variable {l l' : List Element}
  (h : List.Forall₂ (fun e e' : Element => e.toNode.Moved d e'.toNode) l l')

include h

/-- A keyed field has the same entries, and the same notices, if the elements that count are
steady. -/
lemma keyedEntries_moved (content : String) (context : Context) (entries : List (String × String))
    (hsteady : ∀ e ∈ firstNamed (entries.map Prod.fst) l, e.isSteady = true) :
    keyedEntries content context l' entries = keyedEntries content context l entries := by
  induction h generalizing entries with
  | nil => rfl
  | @cons e e' rest rest' hfirst _ ih =>
    have hname : (e.attr? "name").getD "" = e.givenName := rfl
    rw [firstNamed] at hsteady
    rw [keyedEntries, keyedEntries, attr?_moved hfirst, hname]
    by_cases hempty : e.givenName = ""
    · rw [if_pos (Or.inl hempty)] at hsteady
      rw [if_pos (by simp [hempty]), if_pos (by simp [hempty]), ih entries hsteady]
    · have hgiven : ¬ e.givenName.isEmpty = true := by simpa using hempty
      rw [if_neg hgiven, if_neg hgiven]
      by_cases htaken : e.givenName ∈ entries.map Prod.fst
      · -- the text of the element is not read
        have hlookup := (isSome_lookup_iff entries e.givenName).mpr htaken
        rw [if_pos (Or.inr htaken)] at hsteady
        rw [if_pos hlookup, if_pos hlookup, ih entries hsteady]
      · have hlookup : ¬ (entries.lookup e.givenName).isSome = true := fun hsome =>
          htaken ((isSome_lookup_iff entries _).mp hsome)
        rw [if_neg (not_or.mpr ⟨hempty, htaken⟩)] at hsteady
        obtain ⟨hfirstSteady, hsteady⟩ := List.forall_mem_cons.mp hsteady
        rw [if_neg hlookup, if_neg hlookup, readValue_moved hfirst hfirstSteady]
        congr 1
        funext value
        refine ih _ ?_
        rw [List.map_append]
        exact hsteady

/-- The elements that refer to something correspond, and refer to the same. -/
lemma referring_moved :
    List.Forall₂ (fun found found' : Element × CommentId =>
      found.1.toNode.Moved d found'.1.toNode ∧ found'.2 = found.2) (referring l) (referring l') := by
  induction h with
  | nil => exact .nil
  | @cons e e' _ _ hfirst _ ih =>
    rw [referring, referring, List.filterMap_cons, List.filterMap_cons, attr?_moved hfirst]
    cases CommentId.ofString? ((e.attr? "cref").getD "") with
    | none => exact ih
    | some id => exact .cons ⟨hfirst, rfl⟩ ih

lemma mapM_readValue_moved (hsteady : ∀ e ∈ l, e.isSteady = true) :
    l'.mapM readValue = l.mapM readValue := by
  induction h with
  | nil => rfl
  | cons hfirst _ ih =>
    obtain ⟨hfirstSteady, hsteady⟩ := List.forall_mem_cons.mp hsteady
    rw [List.mapM_cons, List.mapM_cons, readValue_moved hfirst hfirstSteady, ih hsteady]

end

/-- Entries of references that move along with their text are read as before. -/
lemma mapM_referenceEntry_moved {found found' : List (Element × CommentId)}
    (h : List.Forall₂ (fun found found' : Element × CommentId =>
      found.1.toNode.Moved d found'.1.toNode ∧ found'.2 = found.2) found found')
    (hsteady : ∀ r ∈ found, r.1.isSteady = true) :
    found'.mapM referenceEntry = found.mapM referenceEntry := by
  induction h with
  | nil => rfl
  | cons hfirst _ ih =>
    obtain ⟨hmoved, htarget⟩ := hfirst
    obtain ⟨hfirstSteady, hsteady⟩ := List.forall_mem_cons.mp hsteady
    rw [List.mapM_cons, List.mapM_cons, ih hsteady, referenceEntry, referenceEntry, htarget,
      readValue_moved hmoved hfirstSteady]

/-- The elements of a moved content. -/
lemma filterMap_toElement?_moved {content content' : List Node}
    (h : List.Forall₂ (Node.Moved d) content content') :
    List.Forall₂ (fun e e' : Element => e.toNode.Moved d e'.toNode)
      (content.filterMap Node.toElement?) (content'.filterMap Node.toElement?) := by
  induction h with
  | nil => exact .nil
  | cons hn _ ih =>
    cases hn with
    | text => exact ih
    | comment => exact ih
    | element htag hattrs hlength hcontent =>
      exact .cons (.element htag hattrs hlength hcontent) ih

/-- The direct children of a moved root with a tag. -/
lemma children_moved {tree tree' : Tree} (h : tree.root.toNode.Moved d tree'.root.toNode)
    (tag : String) :
    List.Forall₂ (fun e e' : Element => e.toNode.Moved d e'.toNode)
      (tree.children tag) (tree'.children tag) := by
  obtain ⟨htag, -, -, hcontent⟩ := moved_of_toNode h
  rw [Tree.children, Tree.children, htag]
  split
  · refine List.rel_filter ?_ (filterMap_toElement?_moved hcontent)
    intro e e' he
    show (e.tag == tag) = true ↔ (e'.tag == tag) = true
    rw [(moved_of_toNode he).1]
  · exact .nil

/-- A tree whose fields are steady holds the same comment when its lines are moved. -/
theorem ofTree_moved {tree tree' : Tree} (h : tree.root.toNode.Moved d tree'.root.toNode)
    (hsteady : ∀ e ∈ readElements tree, e.isSteady = true) (context : Context) :
    Comment.ofTree tree' context = Comment.ofTree tree context := by
  rw [readElements, List.forall_mem_append, List.forall_mem_append, List.forall_mem_append,
    List.forall_mem_flatMap, List.forall_mem_flatMap, List.forall_mem_flatMap] at hsteady
  obtain ⟨⟨⟨hfirsts, hcounting⟩, hreferring⟩, hexamples⟩ := hsteady
  -- field by field, with the elements that the field reads
  have hsingle : ∀ tag ∈ ["summary", "remarks", "returns"],
      singleValue tree' tag = singleValue tree tag := by
    intro tag htag
    have hchildren := children_moved h tag
    have hfirst : ∀ e ∈ (tree.children tag).head?, e.isSteady = true := fun e he =>
      hfirsts tag htag e (Option.mem_toList.mpr he)
    rw [singleValue, singleValue, Tree.firstChild?, Tree.firstChild?]
    generalize tree.children tag = l at hchildren hfirst ⊢
    generalize tree'.children tag = l' at hchildren ⊢
    cases hchildren with
    | nil => rfl
    | cons hmoved _ =>
      rw [List.head?_cons, List.head?_cons]
      dsimp only
      rw [readValue_moved hmoved (hfirst _ rfl)]
  have hkeyed : ∀ content, ∀ tag ∈ ["param", "typeparam"],
      keyedEntries content context (tree'.children tag) []
        = keyedEntries content context (tree.children tag) [] := by
    intro content tag htag
    exact keyedEntries_moved (children_moved h tag) content context [] (hcounting tag htag)
  have hreferences : ∀ tag ∈ ["exception", "see", "seealso"],
      referenceEntries tree' tag = referenceEntries tree tag := by
    intro tag htag
    have hentries := mapM_referenceEntry_moved (referring_moved (children_moved h tag))
      fun r hr => hreferring tag htag r.1 (List.mem_map_of_mem hr)
    rw [referenceEntries, referenceEntries, hentries]
  have hexamples : allValues tree' "example" = allValues tree "example" :=
    mapM_readValue_moved (children_moved h "example") hexamples
  rw [Comment.ofTree, Comment.ofTree, hkeyed _ "param" (by simp), hkeyed _ "typeparam" (by simp),
    hsingle "summary" (by simp), hsingle "remarks" (by simp), hsingle "returns" (by simp),
    hreferences "exception" (by simp), hreferences "see" (by simp),
    hreferences "seealso" (by simp), hexamples]

/-! ## Building -/

/-- What a text begins with, up to the end of the line, stays where it is. -/
lemma isPrefixOf_indented {p : List Char} (hp : ∀ c ∈ p, isBreak c = false) (s : List Char) :
    p.isPrefixOf (indented d s) = p.isPrefixOf s := by
  induction p generalizing s with
  | nil => rfl
  | cons c p ih =>
    obtain ⟨hc, hp⟩ := List.forall_mem_cons.mp hp
    cases s with
    | nil => rfl
    | cons e s =>
      cases he : isBreak e with
      | false =>
        rw [indented_of_not_break he, List.isPrefixOf_cons_cons, List.isPrefixOf_cons_cons, ih hp]
      | true =>
        -- a line break matches nothing in the prefix
        have hne : (c == e) = false := by
          rw [beq_eq_false_iff_ne]
          rintro rfl
          rw [hc] at he
          cases he
        obtain ⟨r, hr⟩ := List.head?_eq_some_iff.mp (head?_indented d (e :: s))
        rw [hr, List.isPrefixOf_cons_cons, List.isPrefixOf_cons_cons, hne, Bool.false_and, Bool.false_and]

lemma allBlank_of_isRooted {s : List Char} (h : isRooted s = true) : allBlank s = false := by
  by_contra hvisible
  have hblank : allBlank s = true := by simpa using hvisible
  have hnil : s.dropWhile isBlank = [] :=
    List.dropWhile_eq_nil_iff.mpr (List.all_eq_true.mp hblank)
  rw [isRooted, hnil] at h
  exact absurd h (by decide)

/-- A text that begins with the root tag is read as it stands. -/
lemma parse_of_isRooted {text : String} (h : isRooted text.toList = true) {tree : Tree} :
    parse text = .ok tree
      ↔ readLines (toLineFeeds text.toList) = .ok tree.root ∧ tree.lineOffset = 0 := by
  rw [← parseDocument_eq_ok (byteOrder?_of_isRooted h), parse, h]
  rfl

/-- **Comments do not depend on the indentation of their file.** A comment is built as before when
spaces are put in front of all its lines but the first, white lines apart: its fields, the
identifiers that are reported and the notices are the same. Its line breaks have to stand in
character data and its fields have to be steady. -/
theorem buildComment_indented (raw : String) (context : Context) (listener : Listener) (d : Nat)
    (hrooted : isRooted raw.toList = true)
    (haccepted : (buildComment (some raw) context listener).comment.isSome = true)
    (hbreaks : breaksOnlyInText (toLineFeeds raw.toList) = true)
    (hsteady : steadyFields raw context listener = true) :
    buildComment (some (String.ofList (indented d raw.toList))) context listener
      = buildComment (some raw) context listener := by
  obtain ⟨hblank, hmarker, tree, hparse⟩ := accepted_of_isSome haccepted
  rw [steadyFields, hparse] at hsteady
  obtain ⟨hread, -⟩ := (parse_of_isRooted hrooted).mp hparse
  -- the text that is read, once its line breaks are line feeds, has moved lines
  have hreturn : '\r' ∉ toLineFeeds raw.toList := fun hmem => (mem_toLineFeeds hmem).2 rfl
  obtain ⟨last, hmoved⟩ := indents_indented d hreturn false (by simp)
  rw [← toLineFeeds_indented] at hmoved
  obtain ⟨root', hread', hroot⟩ := readLines_moved hmoved hbreaks hread
  -- it is accepted as the text itself is
  have hrooted' : isRooted (String.ofList (indented d raw.toList)).toList = true := by
    rw [String.toList_ofList, isRooted_congr (squeeze_indented d raw.toList)]
    exact hrooted
  have hmarker' : malformedMarker.toList.isPrefixOf
      (String.ofList (indented d raw.toList)).toList = false := by
    have hline : ∀ c ∈ malformedMarker.toList, isBreak c = false := eq_false_of_any (by decide)
    rw [String.toList_ofList, isPrefixOf_indented hline]
    exact hmarker
  have hparse' : parse (String.ofList (indented d raw.toList)) = .ok ⟨root', 0⟩ := by
    rw [parse_of_isRooted hrooted', String.toList_ofList]
    exact ⟨hread', rfl⟩
  -- and gives the same comment
  have hresolved := resolved_moved context listener hroot
  have hcomment : Comment.ofTree ⟨(resolved context listener root').root, 0⟩ context
      = Comment.ofTree ⟨(resolved context listener tree.root).root, tree.lineOffset⟩ context :=
    ofTree_moved hresolved.root (List.all_eq_true.mp hsteady) context
  rw [buildComment_of_parse (allBlank_of_isRooted hrooted') hmarker' hparse',
    buildComment_of_parse hblank hmarker hparse]
  dsimp only
  rw [hcomment, hresolved.reports, hresolved.notices]

/-- A comment in several lines, one of them white, with a reference and two fields on one line. -/
def linesInFields : String :=
  "<member>\r\n  <summary>\n    <see cref='T:A'/>\n\n      a\n  </summary><returns>b\n  c</returns></member>"

/-- Three spaces more on each line, and two fields on one line, leave the comment as it is. -/
theorem buildComment_indented_linesInFields :
    (buildComment (some linesInFields) {} .absent).comment.map (fun c => (c.summary, c.returns))
        = some (some "\n<xref href=\"A\" data-throw-if-not-resolved=\"false\" />\n\n  a\n",
          some "b\nc") ∧
      buildComment (some (String.ofList (indented 3 linesInFields.toList))) {} .absent
        = buildComment (some linesInFields) {} .absent := by
  have hbuilt : (buildComment (some linesInFields) {} .absent).comment.map
      (fun c => (c.summary, c.returns))
        = some (some "\n<xref href=\"A\" data-throw-if-not-resolved=\"false\" />\n\n  a\n",
          some "b\nc") := by
    decide +kernel
  have haccepted : (buildComment (some linesInFields) {} .absent).comment.isSome = true := by
    rw [← Option.isSome_map, hbuilt]
    rfl
  exact ⟨hbuilt, buildComment_indented linesInFields {} .absent 3 (by decide +kernel) haccepted
    (by decide +kernel) (by decide +kernel)⟩

/-- A comment whose text begins with a space behind the tag, left of which nothing stands. -/
def spaceBeforeText : String :=
  "<member>\n<summary> a</summary></member>"

/-- Without steady fields the move shows: the space is dropped once the tag stands further to the
right. -/
theorem buildComment_indented_spaceBeforeText :
    isRooted spaceBeforeText.toList = true ∧
      breaksOnlyInText (toLineFeeds spaceBeforeText.toList) = true ∧
      (buildComment (some spaceBeforeText) {} .absent).comment.map (·.summary)
        = some (some " a") ∧
      (buildComment (some (String.ofList (indented 1 spaceBeforeText.toList))) {} .absent).comment.map
        (·.summary) = some (some "a") := by
  decide +kernel

end DocComment
