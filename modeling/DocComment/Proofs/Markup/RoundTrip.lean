import DocComment.Proofs.Markup.Encoding
import DocComment.Proofs.Markup.ReadBack

/-!
# Reading undoes writing

Every element of a document that can be read is written as a document of its own that is read as the
same element. Only line breaks in character data change: a carriage return can come from a reference
alone, it is written as it is, and reading makes a line feed of it.

* `toLineFeeds_render`: making line feeds of the line breaks of a written tree is writing the tree
  with line feeds in its character data;
* `parse_renderString`: reading, writing and reading again.
-/

namespace DocComment.Markup

/-! ## Trees with line feeds -/

/-- A string in which every line break is a line feed. -/
def lineFeeds (s : String) : String :=
  String.ofList (Text.toLineFeeds s.toList)

/-- A node in whose character data every line break is a line feed. -/
def Node.withLineFeeds (n : Node) : Node :=
  n.changed lineFeeds id

/-- An element in whose character data, at every depth, every line break is a line feed. -/
def Element.withLineFeeds (e : Element) : Element :=
  ⟨e.tag, e.attrs, e.place, e.content.map Node.withLineFeeds⟩

lemma withLineFeeds_element (tag : String) (attrs : Attributes) (place : Option Position)
    (content : List Node) :
    (Node.element tag attrs place content).withLineFeeds
      = .element tag attrs place (content.map Node.withLineFeeds) := by
  show Node.element tag attrs place (changedNodes lineFeeds id content) = _
  rw [changedNodes_eq_map]
  rfl

lemma toNode_withLineFeeds (e : Element) : e.withLineFeeds.toNode = e.toNode.withLineFeeds :=
  (withLineFeeds_element e.tag e.attrs e.place e.content).symm

/-- A tree with line feeds can be written if the tree can. -/
lemma Node.WellFormed.withLineFeeds {n : Node} (h : n.WellFormed) :
    n.withLineFeeds.WellFormed := by
  induction h with
  | text hne hchars =>
    refine .text ?_ ?_
    · rw [lineFeeds, String.toList_ofList]
      exact fun hnil => hne (Text.toLineFeeds_eq_nil_iff.mp hnil)
    · rw [lineFeeds, String.toList_ofList]
      exact isChar_toLineFeeds hchars
  | comment hchars hreturn hsafe => exact .comment hchars hreturn hsafe
  | element htag hattrs hcontent hapart ih =>
    rw [withLineFeeds_element]
    refine .element htag hattrs ?_ ((isChain_changed lineFeeds id _).mpr hapart)
    intro n hn
    obtain ⟨m, hm, rfl⟩ := List.mem_map.mp hn
    exact ih m hm

/-! ## Writing with line feeds -/

lemma return_notMem_escapeTextChar {c : Char} (hc : c ≠ '\r') : '\r' ∉ escapeTextChar c := by
  rw [escapeTextChar.eq_def]
  split
  · decide
  · decide
  · decide
  · exact fun h => hc (List.mem_singleton.mp h).symm

/-- Written character data begins with a line feed only if it is one. -/
lemma head?_of_head?_escapeText {s : List Char} (h : (escapeText s).head? = some '\n') :
    s.head? = some '\n' := by
  cases s with
  | nil => cases h
  | cons c s =>
    have hcons : escapeText (c :: s) = escapeTextChar c ++ escapeText s := rfl
    rw [hcons, escapeTextChar.eq_def] at h
    split at h
    · exact absurd h (by simp)
    · exact absurd h (by simp)
    · exact absurd h (by simp)
    · exact h

/-- Escaping leaves line breaks alone. -/
lemma toLineFeeds_escapeText (s : List Char) :
    Text.toLineFeeds (escapeText s) = escapeText (Text.toLineFeeds s) := by
  have hcons : ∀ (c : Char) (s : List Char),
      escapeText (c :: s) = escapeTextChar c ++ escapeText s := fun _ _ => rfl
  fun_induction Text.toLineFeeds s with
  | case1 => rfl
  | case2 rest ih =>
    show '\n' :: Text.toLineFeeds (escapeText rest) = _
    rw [ih]
    rfl
  | case3 c rest hbreak ih =>
    rw [hcons, hcons, ← ih]
    by_cases hc : c = '\r'
    · subst hc
      -- an escaped character begins with no line feed
      refine Text.toLineFeeds_return fun hhead => ?_
      cases rest with
      | nil => cases hhead
      | cons d rest =>
        obtain rfl := Option.some.inj (head?_of_head?_escapeText hhead)
        exact hbreak rest rfl rfl
    · rw [if_neg hc, Text.toLineFeeds_append_of_notMem (return_notMem_escapeTextChar hc)]

lemma return_notMem_of_isName {name : List Char} (h : isName name = true) : '\r' ∉ name :=
  notMem_of_isName (by decide) (by decide) h

lemma notMem_of_all {l s : List Char} (h : l.all (!s.contains ·) = true) {c : Char}
    (hc : c ∈ l) : c ∉ s := by
  intro hmem
  have hout := List.all_eq_true.mp h c hc
  simp [hmem] at hout

/-- Brackets and layout are written as references in attribute values. -/
lemma notMem_escapeAttr {c : Char} (hc : c ∈ ['<', '>', '\r', '\n', '\t']) (value : List Char) :
    c ∉ escapeAttr value := by
  intro h
  obtain ⟨d, -, hd⟩ := List.mem_flatMap.mp h
  rw [escapeAttrChar.eq_def] at hd
  split at hd
  case h_8 =>
    obtain rfl := List.mem_singleton.mp hd
    simp_all
  all_goals exact notMem_of_all (by decide) hc hd

/-- No bracket and no layout but blanks is written inside a tag. -/
lemma notMem_renderAttrs {c : Char} (hc : c ∈ ['<', '>', '\r', '\n', '\t']) {attrs : Attributes}
    (h : attrs.WellFormed) : c ∉ renderAttrs attrs := by
  have hforeign : ['<', '>', '\r', '\n', '\t'].all (fun c => !isNameStart c && !isNameChar c)
      = true := by decide
  obtain ⟨hstart, hchar⟩ : isNameStart c = false ∧ isNameChar c = false := by
    simpa using List.all_eq_true.mp hforeign c hc
  have hsign : c ∉ [' ', '=', '"'] := notMem_of_all (by decide) hc
  intro hmem
  obtain ⟨a, ha, hmem⟩ := List.mem_flatMap.mp hmem
  have hname : c ∉ a.1.toList := notMem_of_isName hstart hchar (h.names a ha)
  have hvalue := notMem_escapeAttr hc a.2.toList
  simp_all

/-- What is written of anything but character data ends with a bracket. -/
lemma getLast?_render {n : Node} (hn : n.isText = false) : n.render.getLast? = some '>' := by
  cases n with
  | text value => cases hn
  | comment value => simp [Node.render, List.getLast?_cons]
  | element tag attrs place content => cases content <;> simp [Node.render, List.getLast?_cons]

/-- Making line feeds of the line breaks of written nodes works node by node. -/
lemma toLineFeeds_renderNodes {content : List Node}
    (h : ∀ n ∈ content, Text.toLineFeeds n.render = n.withLineFeeds.render)
    (hapart : content.IsChain Node.Apart) (rest : List Char) :
    Text.toLineFeeds (renderNodes content ++ '<' :: rest)
      = renderNodes (content.map Node.withLineFeeds) ++ Text.toLineFeeds ('<' :: rest) := by
  induction content with
  | nil => rfl
  | cons n others ih =>
    obtain ⟨hn, hothers⟩ := List.forall_mem_cons.mp h
    obtain ⟨hnext, hapart⟩ := List.isChain_cons.mp hapart
    -- a line break across the border of two nodes would need character data on both sides
    have hcut : n.render.getLast? = some '\r' →
        (renderNodes others ++ '<' :: rest).head? ≠ some '\n' := by
      intro hlast
      cases htext : n.isText with
      | false =>
        rw [getLast?_render htext] at hlast
        exact absurd hlast (by decide)
      | true =>
        have hfirst : ∀ m ∈ others.head?, m.isText = false := by
          intro m hm
          simpa [Node.Apart, htext] using hnext m hm
        rw [head?_renderNodes hfirst rest]
        decide
    rw [renderNodes, List.append_assoc, Text.toLineFeeds_append hcut, hn, ih hothers hapart,
      List.map_cons, renderNodes, List.append_assoc]

/-- Making line feeds of the line breaks of a written tree is writing the tree with line feeds. -/
theorem toLineFeeds_render {n : Node} (h : n.WellFormed) :
    Text.toLineFeeds n.render = n.withLineFeeds.render := by
  induction h with
  | text hne hchars =>
    rename_i value
    show Text.toLineFeeds (escapeText value.toList) = escapeText (lineFeeds value).toList
    rw [toLineFeeds_escapeText, lineFeeds, String.toList_ofList]
  | comment hchars hreturn hsafe =>
    rename_i value
    refine Text.toLineFeeds_of_notMem ?_
    simp [Node.render, hreturn]
  | element htag hattrs hcontent hapart ih =>
    rename_i tag attrs place content
    have htagReturn := return_notMem_of_isName htag
    have hattrsReturn := notMem_renderAttrs (c := '\r') (by decide) hattrs
    rw [withLineFeeds_element]
    cases content with
    | nil =>
      refine Text.toLineFeeds_of_notMem ?_
      simp [Node.render, htagReturn, hattrsReturn]
    | cons n others =>
      have hclose : '\r' ∉ '<' :: '/' :: (tag.toList ++ ['>']) := by simp [htagReturn]
      have hclosed := toLineFeeds_renderNodes ih hapart ('/' :: (tag.toList ++ ['>']))
      rw [Text.toLineFeeds_of_notMem hclose, List.map_cons] at hclosed
      rw [List.map_cons, ← List.append_nil (Node.render _), render_element_cons,
        ← List.append_nil (Node.render _), render_element_cons,
        Text.toLineFeeds_cons_of_ne (by decide), Text.toLineFeeds_append_of_notMem htagReturn,
        Text.toLineFeeds_append_of_notMem hattrsReturn,
        Text.toLineFeeds_append_of_notMem (by decide), hclosed]

/-- A written element opens with its tag, so it is in UTF-8. -/
lemma byteOrder?_render {e : Element} (h : e.toNode.WellFormed) : byteOrder? e.render = none := by
  obtain ⟨tag, attrs, place, content⟩ := e
  cases h with
  | element htag =>
    obtain ⟨t, hrender⟩ : ∃ t, (Node.element tag attrs place content).render
        = '<' :: (tag.toList ++ t) := by
      rw [← List.append_nil (Node.render _)]
      cases content with
      | nil => exact ⟨_, render_element_nil ..⟩
      | cons n others => exact ⟨_, render_element_cons ..⟩
    have hnul : '\x00' ∉ tag.toList := notMem_of_isName (by decide) (by decide) htag
    rw [Element.render, Element.toNode, hrender]
    cases hname : tag.toList with
    | nil =>
      rw [hname] at htag
      cases htag
    | cons c name =>
      rw [hname] at hnul
      exact byteOrder?_cons_cons (by decide) (List.ne_of_not_mem_cons hnul).symm _

/-! ## Reading, writing and reading again -/

/-- A written element is read as the element that was written, with line feeds for the line breaks in
its character data. -/
lemma parseDocument_render {e : Element} (hwf : e.toNode.WellFormed) :
    ∃ root : Element, parseDocument e.render 0 = .ok ⟨root, 0⟩ ∧
      root.unplaced = e.withLineFeeds.unplaced := by
  have hfeeds : e.withLineFeeds.toNode.WellFormed := by
    rw [toNode_withLineFeeds]
    exact hwf.withLineFeeds
  have hwritten : Text.toLineFeeds e.render = e.withLineFeeds.render := by
    rw [Element.render, Element.render, toLineFeeds_render hwf, toNode_withLineFeeds]
  obtain ⟨root, hread, hsame⟩ := readLines_render hfeeds
  refine ⟨root, ?_, hsame⟩
  rw [parseDocument_eq_ok (byteOrder?_render hwf), hwritten]
  exact ⟨hread, rfl⟩

end DocComment.Markup
