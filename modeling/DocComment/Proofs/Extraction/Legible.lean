import DocComment.Proofs.Extraction.Values
import DocComment.Proofs.Resolution.Invariants

/-!
# Texts that can be read

The text of an element cannot be read if a decimal number behind `&#` has too many digits. The
printer escapes every ampersand but those in comments, so such a number comes from a comment: a tree
is legible if no comment in it holds one, white space apart, and then the text of each of its
elements can be read, before resolution and after.

* `overlong?_of_visible`: dropping white space makes numbers longer, never shorter;
* `harmless_render`: what a legible node is written as holds no such number;
* `legible_resolved`: resolution keeps a tree legible;
* `overlongIn?_of_legible`: the text of a legible element can be read;
* `visible_elementValue`: the value of an element without ampersands in its comments.
-/

namespace DocComment.Text

/-! ## White space -/

lemma visible_append (s t : List Char) : visible (s ++ t) = visible s ++ visible t :=
  List.filter_append s t

lemma visible_of_visible {s : List Char} (hs : ∀ c ∈ s, isBlank c = false) : visible s = s :=
  List.filter_eq_self.mpr fun c hc => by rw [hs c hc]; rfl

/-- A text without its white space has lost nothing else. -/
lemma dropsBlanks_visible (s : List Char) : Reindent.DropsBlanks s (visible s) := by
  induction s with
  | nil => exact .nil
  | cons c s ih =>
    rw [visible, List.filter_cons]
    split
    · exact .keep c ih
    · rename_i hc
      exact .drop (by simpa using hc) ih

/-- A text that has lost white space only shows the same characters. -/
lemma visible_of_dropsBlanks {s t : List Char} (h : Reindent.DropsBlanks s t) :
    visible t = visible s := by
  induction h with
  | nil => rfl
  | keep c _ ih => exact visible_cons_congr c ih
  | drop hc _ ih => rw [visible_cons_blank hc, ih]

/-- A line break is white space in each of its forms. -/
lemma visible_toLineFeeds (s : List Char) : visible (toLineFeeds s) = visible s := by
  fun_induction toLineFeeds s with
  | case1 => rfl
  | case2 rest ih =>
    rw [visible_cons_blank (by decide), visible_cons_blank (by decide),
      visible_cons_blank (by decide), ih]
  | case3 c rest _ ih =>
    split
    · rename_i hc
      subst hc
      rw [visible_cons_blank (by decide), visible_cons_blank (by decide), ih]
    · exact visible_cons_congr c ih

/-- Re-indenting does not change the visible characters. -/
lemma visible_reindent (s : List Char) (column : Int) :
    visible (Reindent.reindent s column) = visible s := by
  rw [visible_of_dropsBlanks (Reindent.dropsBlanks_reindent s column), visible_toLineFeeds]

namespace CharacterReference

/-! ## Numbers with too many digits -/

lemma isBlank_of_isDigit {c : Char} (hc : c.isDigit = true) : isBlank c = false := by
  have hcodes : ∀ n ∈ List.range' 48 10, blankRanges.containsCode n = false := by decide
  obtain ⟨hlow, hhigh⟩ : 48 ≤ c.toNat ∧ c.toNat ≤ 57 := by
    rw [Char.isDigit, Bool.and_eq_true, decide_eq_true_iff, decide_eq_true_iff] at hc
    exact hc
  exact hcodes c.toNat (List.mem_range'_1.mpr ⟨hlow, by omega⟩)

lemma overlong?_cons_of_ne {c : Char} (hc : c ≠ '&') (s : List Char) :
    overlong? (c :: s) = overlong? s := by
  simp [overlong?, hc]

/-- A number sign behind an ampersand begins a number, if there is one. -/
lemma overlong?_number (s : List Char) :
    overlong? ('&' :: '#' :: s) = (tooManyDigits? s).or (overlong? s) := by
  rw [overlong?, overlong?_cons_of_ne (c := '#') (by decide)]
  rfl

lemma overlong?_append_of_notMem {s : List Char} (hs : '&' ∉ s) (t : List Char) :
    overlong? (s ++ t) = overlong? t := by
  induction s with
  | nil => rfl
  | cons c s ih =>
    obtain ⟨hc, hs⟩ : '&' ≠ c ∧ '&' ∉ s := by simpa using hs
    rw [List.cons_append, overlong?_cons_of_ne hc.symm, ih hs]

lemma tooManyDigits?_eq_none_iff {s : List Char} :
    tooManyDigits? s = none ↔ (s.takeWhile Char.isDigit).length ≤ digitLimit := by
  rw [tooManyDigits?, ite_eq_right_iff]
  simp

/-- The digits that a text begins with come to no more when white space is left in. -/
lemma tooManyDigits?_of_visible {s : List Char} (h : tooManyDigits? (visible s) = none) :
    tooManyDigits? s = none := by
  rw [tooManyDigits?_eq_none_iff] at h ⊢
  refine le_trans ?_ h
  have hall : ∀ c ∈ s.takeWhile Char.isDigit, c.isDigit = true :=
    List.all_eq_true.mp List.all_takeWhile
  have hdigits : visible (s.takeWhile Char.isDigit) = s.takeWhile Char.isDigit :=
    visible_of_visible fun c hc => isBlank_of_isDigit (hall c hc)
  have hcut : visible s = s.takeWhile Char.isDigit ++ visible (s.dropWhile Char.isDigit) := by
    rw [← hdigits, ← visible_append, List.takeWhile_append_dropWhile]
  rw [hcut, List.takeWhile_append_of_pos hall, List.length_append]
  exact Nat.le_add_right _ _

/-- Dropping white space makes numbers longer, never shorter. -/
lemma overlong?_of_visible {s : List Char} (h : overlong? (visible s) = none) :
    overlong? s = none := by
  induction s with
  | nil => rfl
  | cons c s ih =>
    by_cases hamp : c = '&'
    · subst hamp
      have hcons : visible ('&' :: s) = '&' :: visible s := rfl
      rw [hcons, overlong?, Option.or_eq_none_iff] at h
      obtain ⟨hhere, hrest⟩ := h
      rw [overlong?, ih hrest, Option.or_none]
      by_cases hsign : s.head? = some '#'
      · obtain ⟨r, rfl⟩ := List.head?_eq_some_iff.mp hsign
        exact tooManyDigits?_of_visible hhere
      · simp [hsign]
    · rw [overlong?_cons_of_ne hamp]
      cases hblank : isBlank c with
      | true =>
        rw [visible_cons_blank hblank] at h
        exact ih h
      | false =>
        have hcons : visible (c :: s) = c :: visible s := by
          rw [visible, List.filter_cons, hblank]
          rfl
        rw [hcons, overlong?_cons_of_ne hamp] at h
        exact ih h

/-! ## Written texts -/

/-- Whether a text, without its white space, holds no number that is too long and begins none. -/
def Harmless (s : List Char) : Prop :=
  ∀ t, overlong? (visible s ++ t) = overlong? t

lemma Harmless.append {s t : List Char} (hs : Harmless s) (ht : Harmless t) :
    Harmless (s ++ t) := by
  intro u
  rw [visible_append, List.append_assoc, hs, ht]

lemma harmless_of_notMem {s : List Char} (hs : '&' ∉ s) : Harmless s :=
  overlong?_append_of_notMem fun hmem => hs (List.mem_filter.mp hmem).1

/-- The written references are short. -/
lemma overlong?_written {name : List Char} {c : Char} (h : (name, c) ∈ written) (t : List Char) :
    overlong? ('&' :: name ++ t) = overlong? t := by
  simp only [written, List.mem_cons, Prod.mk.injEq, List.not_mem_nil, or_false] at h
  rcases h with ⟨rfl, -⟩ | ⟨rfl, -⟩ | ⟨rfl, -⟩ | ⟨rfl, -⟩ | ⟨rfl, -⟩ | ⟨rfl, -⟩ | ⟨rfl, -⟩ <;> rfl

/-- A text that stands for characters is harmless. -/
lemma StandsFor.harmless {s t : List Char} (h : StandsFor s t) : Harmless s := by
  obtain ⟨t', hvisible, -⟩ := h.dropsBlanks (dropsBlanks_visible s)
  intro u
  generalize visible s = v at hvisible
  induction hvisible with
  | nil => rfl
  | character hc _ ih => rw [List.cons_append, overlong?_cons_of_ne hc, ih]
  | reference name hname _ ih => rw [List.append_assoc, overlong?_written hname, ih]

private lemma takeWhile_append_cons_of_neg {α : Type} {p : α → Bool} {a : α} (ha : p a = false)
    (l l' : List α) : (l ++ a :: l').takeWhile p = l.takeWhile p := by
  induction l with
  | nil => exact List.takeWhile_cons_of_neg (by simp [ha])
  | cons b l ih => rw [List.cons_append, List.takeWhile_cons, List.takeWhile_cons, ih]

/-- A number ends at a hyphen. -/
lemma overlong?_append_hyphen {s : List Char} (h : overlong? s = none) (t : List Char) :
    overlong? (s ++ '-' :: t) = overlong? t := by
  induction s with
  | nil => exact overlong?_cons_of_ne (by decide) t
  | cons c s ih =>
    rw [overlong?, Option.or_eq_none_iff] at h
    obtain ⟨hhere, hrest⟩ := h
    rw [List.cons_append, overlong?, ih hrest]
    cases s with
    | nil => simp
    | cons d s =>
      have hdigits : tooManyDigits? (s ++ '-' :: t) = tooManyDigits? s := by
        rw [tooManyDigits?, tooManyDigits?, takeWhile_append_cons_of_neg (by decide)]
      rw [List.cons_append, List.head?_cons, List.tail_cons, hdigits]
      rw [List.head?_cons, List.tail_cons] at hhere
      rw [hhere, Option.none_or]

end CharacterReference

end DocComment.Text

namespace DocComment.Markup

open Text CharacterReference

/-! ## Legible trees -/

/-- Whether no comment below an element holds a number with too many digits, white space apart. -/
def Element.commentsLegible (e : Element) : Bool :=
  (commentsOf e.content).all fun value => (overlong? (visible value.toList)).isNone

/-- Whether a node is written without numbers that are too long: ampersands stand in character data,
in attribute values and in comments only, and those in comments begin no such number. -/
inductive Node.Legible : Node → Prop
  | text (value : String) : Legible (.text value)
  | comment {value : String} (hvalue : overlong? (visible value.toList) = none) :
    Legible (.comment value)
  | element {tag : String} {attrs : Attributes} {place : Option Position} {content : List Node}
    (htag : '&' ∉ tag.toList) (hnames : ∀ a ∈ attrs, '&' ∉ a.1.toList)
    (hcontent : ∀ n ∈ content, n.Legible) : Legible (.element tag attrs place content)

mutual

/-- Changing character data and places leaves comments as they are. -/
theorem comments_changed (data : String → String) (place : Option Position → Option Position)
    (n : Node) : (n.changed data place).comments = n.comments := by
  match n with
  | .text _ => rfl
  | .comment _ => rfl
  | .element tag attrs p content =>
    rw [Node.changed, Node.comments, Node.comments]
    exact commentsOf_changedNodes data place content

/-- Neither data nor places show in the comments. -/
theorem commentsOf_changedNodes (data : String → String)
    (place : Option Position → Option Position) (content : List Node) :
    commentsOf (changedNodes data place content) = commentsOf content := by
  match content with
  | [] => rfl
  | n :: rest =>
    rw [changedNodes, commentsOf, commentsOf, comments_changed data place n,
      commentsOf_changedNodes data place rest]

end

mutual

/-- The comments in an element of a node are comments in the node. -/
theorem mem_comments_of_mem_elements {n : Node} {e : Element} (he : e ∈ n.elements)
    {value : String} (hvalue : value ∈ commentsOf e.content) : value ∈ n.comments := by
  match n with
  | .text _ => exact absurd he List.not_mem_nil
  | .comment _ => exact absurd he List.not_mem_nil
  | .element tag attrs place content =>
    rw [Node.elements, List.mem_cons] at he
    rw [Node.comments]
    rcases he with rfl | he
    · exact hvalue
    · exact mem_commentsOf_of_mem_elementsOf he hvalue

/-- The comments of an element are among those of what it stands in. -/
theorem mem_commentsOf_of_mem_elementsOf {content : List Node} {e : Element}
    (he : e ∈ elementsOf content) {value : String} (hvalue : value ∈ commentsOf e.content) :
    value ∈ commentsOf content := by
  match content with
  | [] => exact absurd he List.not_mem_nil
  | n :: rest =>
    rw [elementsOf, List.mem_append] at he
    rw [commentsOf, List.mem_append]
    rcases he with he | he
    · exact Or.inl (mem_comments_of_mem_elements he hvalue)
    · exact Or.inr (mem_commentsOf_of_mem_elementsOf he hvalue)

end

/-- A node that can be written is legible if its comments are. -/
lemma legible_of_wellFormed {n : Node} (h : n.WellFormed)
    (hcomments : ∀ value ∈ n.comments, overlong? (visible value.toList) = none) : n.Legible := by
  induction h with
  | text => exact .text _
  | comment => exact .comment (hcomments _ (List.mem_singleton_self _))
  | element htag hattrs hcontent hapart ih =>
    refine .element (notMem_of_isName (by decide) (by decide) htag)
      (fun a ha => notMem_of_isName (by decide) (by decide) (hattrs.names a ha)) fun n hn => ?_
    exact ih n hn fun value hvalue => hcomments value (mem_commentsOf hn hvalue)

/-- Values are escaped where attributes are written, so only a name could hold an ampersand. -/
lemma harmless_renderAttrs {attrs : Attributes} (hnames : ∀ a ∈ attrs, '&' ∉ a.1.toList) :
    Harmless (renderAttrs attrs) := by
  induction attrs with
  | nil => exact fun t => rfl
  | cons a attrs ih =>
    obtain ⟨hname, hnames⟩ := List.forall_mem_cons.mp hnames
    have hfirst : Harmless (' ' :: a.1.toList ++ ['=', '"'] ++ escapeAttr a.2.toList ++ ['"']) := by
      have hstart : '&' ∉ ' ' :: a.1.toList ++ ['=', '"'] := by simp [hname]
      exact ((harmless_of_notMem hstart).append (standsFor_escapeAttr a.2.toList).harmless).append
        (harmless_of_notMem (by decide))
    exact hfirst.append (ih hnames)

lemma harmless_renderNodes {content : List Node} (h : ∀ n ∈ content, Harmless n.render) :
    Harmless (renderNodes content) := by
  induction content with
  | nil => exact fun t => rfl
  | cons n rest ih =>
    obtain ⟨hn, hrest⟩ := List.forall_mem_cons.mp h
    exact hn.append (ih hrest)

/-- A legible node is written without numbers that are too long. -/
lemma harmless_render {n : Node} (h : n.Legible) : Harmless n.render := by
  induction h with
  | text value => exact (standsFor_escapeText value.toList).harmless
  | comment hvalue =>
    rename_i value
    intro t
    -- a number at the end of the comment is ended by its mark
    have hopen : Harmless "<!--".toList := harmless_of_notMem (by decide)
    have hclose : overlong? ('-' :: '>' :: t) = overlong? t :=
      overlong?_append_of_notMem (s := ['-', '>']) (by decide) t
    have hrender : visible (Node.comment value).render ++ t
        = visible "<!--".toList ++ (visible value.toList ++ '-' :: '-' :: '>' :: t) := by
      rw [Node.render, visible_append, visible_append, List.append_assoc, List.append_assoc]
      rfl
    rw [hrender, hopen, overlong?_append_hyphen hvalue, hclose]
  | element htag hnames hcontent ih =>
    rename_i tag attrs place content
    have hstart : Harmless ('<' :: tag.toList ++ renderAttrs attrs) := by
      have hname : '&' ∉ '<' :: tag.toList := by simp [htag]
      exact (harmless_of_notMem hname).append (harmless_renderAttrs hnames)
    cases content with
    | nil => exact hstart.append (harmless_of_notMem (by decide))
    | cons n rest =>
      have hnodes : Harmless (renderNodes (n :: rest)) := harmless_renderNodes ih
      have hbracket : Harmless ['>'] := harmless_of_notMem (by decide)
      have hend : Harmless ("</".toList ++ tag.toList ++ ['>']) := by
        refine harmless_of_notMem ?_
        simp [htag]
      have hall := hstart.append ((hbracket.append hnodes).append hend)
      have hrender : (Node.element tag attrs place (n :: rest)).render
          = '<' :: tag.toList ++ renderAttrs attrs
            ++ (['>'] ++ renderNodes (n :: rest) ++ ("</".toList ++ tag.toList ++ ['>'])) := by
        simp [Node.render, renderNodes]
      rw [hrender]
      exact hall

/-- Replacing a node keeps a tree legible. -/
lemma legible_replaceAt {n new : Node} (h : n.Legible) (hnew : new.Legible) (path : Path) :
    (replaceAt path new n).Legible := by
  induction path generalizing n with
  | nil => exact hnew
  | cons i path ih =>
    cases h with
    | text value => exact .text value
    | comment hvalue => exact .comment hvalue
    | element htag hnames hcontent =>
      refine .element htag hnames fun n hn => ?_
      rw [List.mem_iff_getElem?] at hn
      obtain ⟨j, hj⟩ := hn
      rw [List.getElem?_modify] at hj
      obtain ⟨m, hm, rfl⟩ := Option.map_eq_some_iff.mp hj
      have hmem := hcontent m (List.mem_of_getElem? hm)
      split
      · exact ih hmem
      · exact hmem

end DocComment.Markup

namespace DocComment

open Markup Text CharacterReference

lemma IsPlaceholder.legible {e : Element} (h : IsPlaceholder e) : e.toNode.Legible := by
  have hnames : ∀ name ∈ placeholderNames, '&' ∉ name.toList := by decide
  refine .element ?_ (fun a ha => hnames _ (h.names a ha)) ?_
  · rw [h.tag]
    decide
  · rw [h.content]
    simp

/-- Resolution keeps a tree legible. -/
lemma legible_resolved {root : Element} (h : root.toNode.Legible) (context : Context)
    (listener : Listener) : (resolved context listener root).root.toNode.Legible := by
  refine resolved_root (P := fun r => r.toNode.Legible) ?_ context listener h
  intro r path new _ hnew hr
  have hreplaced := legible_replaceAt hr hnew.legible path
  rw [replaceIn]
  cases hnode : replaceAt path new.toNode r.toNode with
  | text value => exact hr
  | comment value => exact hr
  | element tag attrs place content =>
    rw [hnode] at hreplaced
    exact hreplaced

/-- A tree that was read is legible if its comments are. -/
lemma legible_of_parse {text : String} {wrapFragments : Bool} {tree : Tree}
    (h : parse text wrapFragments = .ok tree) (hcomments : tree.root.commentsLegible = true) :
    tree.root.toNode.Legible := by
  refine legible_of_wellFormed (parse_wellFormed h) fun value hvalue => ?_
  exact Option.isNone_iff_eq_none.mp (List.all_eq_true.mp hcomments value hvalue)

/-- The text of a legible element can be read, wherever it stands. -/
theorem overlongIn?_of_legible {e : Element} (h : e.toNode.Legible) : overlongIn? e = none := by
  cases h with
  | element htag hnames hcontent =>
    have hwritten : Harmless e.renderContent :=
      harmless_renderNodes fun n hn => harmless_render (hcontent n hn)
    refine overlong?_of_visible ?_
    rw [visible_reindent, ← List.append_nil (visible e.renderContent), hwritten]
    rfl

/-! ## Values -/

/-- Whatever its column, the value of an element that was read can be read and has the visible
characters of its content as it was read, if no comment in it holds an ampersand. The value of
character data alone is the data itself with each line dedented. -/
theorem visible_elementValue {text : String} {wrapFragments : Bool} {tree : Tree}
    (h : parse text wrapFragments = .ok tree) {e : Element} (he : e ∈ tree.root.elements)
    (hcomments : ∀ value ∈ commentsOf e.content, '&' ∉ value.toList) (place : Option Position) :
    readValue { e with place } = .ok (elementValue { e with place }) ∧
      visible (elementValue { e with place }).toList = visible (plainNodes e.content) ∧
      ((∀ n ∈ e.content, n.isText = true) →
        (elementValue { e with place }).toList = unlines ((lines (plainNodes e.content)).map
          (Reindent.dedentLine (Tree.column { e with place })))) := by
  have hwf : e.toNode.WellFormed := (parse_wellFormed h).elements e he
  have hmoved : ({ e with place } : Element).toNode.WellFormed := by
    cases hwf with
    | element htag hattrs hcontent hapart => exact .element htag hattrs hcontent hapart
  have hlegible : ({ e with place } : Element).toNode.Legible := by
    refine legible_of_wellFormed hmoved fun value hvalue => ?_
    have hharmless := harmless_of_notMem (hcomments value hvalue) []
    rwa [List.append_nil] at hharmless
  refine ⟨?_, ?_, fun htext => ?_⟩
  · rw [readValue, overlongIn?_of_legible hlegible]
  · rw [elementValue, String.toList_ofList, Element.renderContent]
    cases hwf with
    | element htag hattrs hcontent hapart =>
      refine visible_unescape_reindent (standsFor_renderNodes ?_) _
      intro n hn
      refine standsFor_render (hcontent n hn) fun value hvalue => ?_
      exact hcomments value (mem_commentsOf hn hvalue)
  · rw [elementValue, String.toList_ofList, Element.renderContent, renderNodes_of_isText htext,
      unescape_reindent_escapeText]
    rfl

/-- A comment whose text and attribute hold what looks like references once it is read. -/
def referencesInText : String :=
  "<member>\n  <b k=\"&quot;&#10;&amp;lt;\"/>&amp;lt; &amp;copy<!--c--></member>"

/-- Characters from an entity, from references and from a character section are in the value once.
-/
theorem visible_elementValue_references :
    ∃ tree, parse referencesInText = .ok tree ∧ tree.root ∈ tree.root.elements ∧
      commentsOf tree.root.content = ["c"] ∧
      readValue tree.root = .ok "\n<b k=\"\"\n&lt;\" />&lt; &copy<!--c-->" ∧
      visible (elementValue tree.root).toList = visible (plainNodes tree.root.content) := by
  have hread : (parse referencesInText).toOption.map
      (fun tree => (commentsOf tree.root.content, elementValue tree.root))
      = some (["c"], "\n<b k=\"\"\n&lt;\" />&lt; &copy<!--c-->") := by
    decide +kernel
  obtain ⟨tree, hparse, hshown⟩ := exists_ok_of_map hread
  obtain ⟨hcomments, hvalue⟩ := Prod.mk.inj hshown
  have hroot : tree.root ∈ tree.root.elements := List.mem_cons_self
  have hampersand : ∀ value ∈ commentsOf tree.root.content, '&' ∉ value.toList := by
    rw [hcomments]
    decide
  obtain ⟨hreadable, hvisible, -⟩ := visible_elementValue hparse hroot hampersand tree.root.place
  exact ⟨tree, hparse, hroot, hcomments, hvalue ▸ hreadable, hvisible⟩

end DocComment
