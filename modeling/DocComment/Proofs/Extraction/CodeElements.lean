import DocComment.Proofs.Extraction.Values
import DocComment.Proofs.Markup.MemberText
import DocComment.Proofs.Reindent.Idempotence

/-!
# Code elements and code regions

Re-indentation knows no elements: it looks for `<code` and `</code>` in the written text. The
regions that it finds are the outermost code elements with content as long as nothing else looks
like one of their tags. `codeApartIn` says so of the nodes of a content: inside a code element no
closing tag of code is written, and outside none is written behind anything that begins like an
opening one.

* `Node.renderTrimmed` is a node as written with the line feeds at both ends of the content of its
  outermost code elements dropped;
* `Node.WellFormed.closesOnly`: where in a written node a closing tag can stand;
* `Node.WellFormed.trimsTo`: trimming a written node, and going on behind it;
* `reindent_renderContent`: the content of an element that was read.
-/

namespace DocComment.Markup

open DocComment.Text DocComment.Reindent

/-! ## Code elements -/

/-- Whether an element is written as a code region of its own: it is named so and has content. -/
def isCode (tag : String) (content : List Node) : Bool :=
  tag = "code" && !content.isEmpty

mutual

/-- A node as written, with the line feeds at both ends of the content of its outermost code
elements dropped. -/
def Node.renderTrimmed : Node → List Char
  | .element tag attrs _ (n :: rest) =>
    '<' :: tag.toList ++ renderAttrs attrs ++ ['>'] ++
      (if tag = "code" then trimWhile (· = '\n') (renderNodes (n :: rest))
        else n.renderTrimmed ++ renderTrimmedNodes rest) ++
      "</".toList ++ tag.toList ++ ['>']
  | n => n.render

/-- A list of nodes as written, trimmed in the same way. -/
def renderTrimmedNodes : List Node → List Char
  | [] => []
  | n :: rest => n.renderTrimmed ++ renderTrimmedNodes rest

end

mutual

/-- Whether a node writes a closing tag of code, as such or in a comment. -/
def Node.writesClose : Node → Bool
  | .text _ => false
  | .comment value => codeClose <:+: value.toList
  | .element tag _ _ content => isCode tag content || writesCloseIn content

/-- Whether one of the nodes writes a closing tag of code. -/
def writesCloseIn : List Node → Bool
  | [] => false
  | n :: rest => n.writesClose || writesCloseIn rest

end

mutual

/-- Whether a node writes something, outside of code elements, that begins like an opening tag of
code. -/
def Node.writesOpen : Node → Bool
  | .text _ => false
  | .comment value => codeOpen <:+: value.toList
  | .element tag _ _ content =>
    !isCode tag content && ("code".toList <+: tag.toList || writesOpenIn content)

/-- Whether one of the nodes writes something that begins like an opening tag of code. -/
def writesOpenIn : List Node → Bool
  | [] => false
  | n :: rest => n.writesOpen || writesOpenIn rest

end

mutual

/-- Whether the code elements of a node are told apart by their tags. -/
def Node.codeApart : Node → Bool
  | .text _ => true
  | .comment value => !(codeOpen <:+: value.toList) || !(codeClose <:+: value.toList)
  | .element tag _ _ content =>
    if isCode tag content then !writesCloseIn content
    else codeApartIn content && (!("code".toList <+: tag.toList) || !writesCloseIn content)

/-- Whether the code elements of all nodes are told apart by their tags. -/
def codeApartIn : List Node → Bool
  | [] => true
  | n :: rest => n.codeApart && (!n.writesOpen || !writesCloseIn rest) && codeApartIn rest

end

/-! ## Written tags -/

lemma lt_notMem_of_isName {name : List Char} (h : isName name = true) : '<' ∉ name :=
  notMem_of_isName (by decide) (by decide) h

lemma gt_notMem_of_isName {name : List Char} (h : isName name = true) : '>' ∉ name :=
  notMem_of_isName (by decide) (by decide) h

lemma renderTrimmed_element_nil (tag : String) (attrs : Attributes) (place : Option Position) :
    (Node.element tag attrs place []).renderTrimmed = (Node.element tag attrs place []).render := by
  simp [Node.renderTrimmed]

/-- A code element loses the line feeds at the ends of its content, another element those in it. -/
lemma renderTrimmed_element_cons (tag : String) (attrs : Attributes) (place : Option Position)
    (n : Node) (others : List Node) (rest : List Char) :
    (Node.element tag attrs place (n :: others)).renderTrimmed ++ rest
      = '<' :: (tag.toList ++ (renderAttrs attrs ++ (tagEnd false ++
          ((if tag = "code" then trimWhile (· = '\n') (renderNodes (n :: others))
            else renderTrimmedNodes (n :: others)) ++
              '<' :: '/' :: (tag.toList ++ '>' :: rest))))) := by
  simp [Node.renderTrimmed, renderTrimmedNodes, tagEnd]

section

variable {tag : String} {attrs : Attributes} (htag : isName tag.toList = true)
  (hattrs : attrs.WellFormed)

include htag

/-- A start tag is no closing tag. -/
lemma not_codeClose_prefix_tag (rest : List Char) :
    ¬ codeClose <+: '<' :: (tag.toList ++ rest) := by
  rintro ⟨t, ht⟩
  have hstart := startsTag_of_isName htag rest
  rw [← (List.cons.inj ht).2] at hstart
  exact (ne_of_startsTag hstart).2.2 rfl

/-- Only the end tag of a code element is a closing tag of code. -/
lemma eq_code_of_prefix_endTag {rest : List Char}
    (h : codeClose <+: '<' :: '/' :: (tag.toList ++ '>' :: rest)) : tag = "code" := by
  obtain ⟨t, ht⟩ := h
  have heq : "code".toList ++ '>' :: t = tag.toList ++ '>' :: rest :=
    (List.cons.inj (List.cons.inj ht).2).2
  -- neither name holds the bracket that ends the other
  have hcode : "code".toList <+: tag.toList :=
    prefix_of_prefix_append_cons (by decide) (heq ▸ List.prefix_append _ _)
  have hname : tag.toList <+: "code".toList :=
    prefix_of_prefix_append_cons (gt_notMem_of_isName htag) (heq.symm ▸ List.prefix_append _ _)
  exact String.toList_inj.mp (hname.eq_of_length (hname.length_le.antisymm hcode.length_le))

include hattrs

lemma lt_notMem_tag (closed : Bool) :
    '<' ∉ tag.toList ++ (renderAttrs attrs ++ tagEnd closed) := by
  have hname := lt_notMem_of_isName htag
  have hwritten := notMem_renderAttrs (c := '<') (by decide) hattrs
  cases closed <;> simp [hname, hwritten, tagEnd]

end

/-- A tag begins like an opening tag of code only if its name does. -/
lemma isPrefix_of_codeOpen {tag : String} {attrs : Attributes} {closed : Bool}
    {rest : List Char}
    (h : codeOpen <+: '<' :: (tag.toList ++ (renderAttrs attrs ++ (tagEnd closed ++ rest)))) :
    "code".toList <+: tag.toList := by
  obtain ⟨c, t, heq, hc⟩ := exists_renderAttrs_eq attrs closed rest
  have hvisible : "code".toList.all (!isBlank ·) = true := by decide
  have hcode : c ∉ "code".toList := by
    intro hmem
    rcases hc with hc | rfl | rfl
    · have hletter := List.all_eq_true.mp hvisible c hmem
      rw [hc] at hletter
      cases hletter
    · exact absurd hmem (by decide)
    · exact absurd hmem (by decide)
  rw [heq] at h
  exact prefix_of_prefix_append_cons hcode (List.cons_prefix_cons.mp h).2

/-! ## Closing tags -/

lemma codeClose_infix_append {s : List Char} (hs : '<' ∉ s) {t : List Char}
    (h : codeClose <:+: s ++ t) : codeClose <:+: t := by
  induction s with
  | nil => exact h
  | cons c s ih =>
    obtain ⟨hc, hs⟩ := not_or.mp (mt List.mem_cons.mpr hs)
    rcases List.infix_cons_iff.mp h with hbegins | hwithin
    · exact absurd (List.cons_prefix_cons.mp hbegins).1 hc
    · exact ih hs hwithin

/-- In a written comment only its body can hold a closing tag. -/
lemma codeClose_infix_comment {value rest : List Char}
    (h : codeClose <:+: "<!--".toList ++ (value ++ ("-->".toList ++ rest))) :
    codeClose <:+: value ∨ codeClose <:+: rest := by
  have hhyphen : '-' ∉ codeClose := by decide
  have hne : codeClose ≠ [] := by decide
  have hbody := (infix_append_cons_iff (a := "<!-".toList) hhyphen hne).mp h
  rcases hbody with hfront | hbody
  · exact absurd hfront (by decide)
  · refine ((infix_append_cons_iff hhyphen hne).mp hbody).imp_right fun hback => ?_
    exact codeClose_infix_append (s := "->".toList) (by decide) hback

lemma codeClose_infix_endTag {tag : String} (htag : isName tag.toList = true) {rest : List Char}
    (h : codeClose <:+: '<' :: '/' :: (tag.toList ++ '>' :: rest)) :
    tag = "code" ∨ codeClose <:+: rest := by
  refine (List.infix_cons_iff.mp h).imp (eq_code_of_prefix_endTag htag) fun hwithin => ?_
  refine codeClose_infix_append (s := '/' :: (tag.toList ++ ['>'])) ?_ (by simpa using hwithin)
  simp [lt_notMem_of_isName htag]

/-- What a node has to write for a closing tag to stand in it. -/
def Node.ClosesOnly (n : Node) : Prop :=
  ∀ rest, codeClose <:+: n.render ++ rest → n.writesClose = true ∨ codeClose <:+: rest

/-- A closing tag in written nodes is written in one of them, or behind them. -/
lemma codeClose_infix_renderNodes {content : List Node} (h : ∀ n ∈ content, n.ClosesOnly)
    {rest : List Char} (hwithin : codeClose <:+: renderNodes content ++ rest) :
    writesCloseIn content = true ∨ codeClose <:+: rest := by
  induction content with
  | nil => exact Or.inr hwithin
  | cons n others ih =>
    obtain ⟨hn, hothers⟩ := List.forall_mem_cons.mp h
    rw [renderNodes, List.append_assoc] at hwithin
    rw [writesCloseIn, Bool.or_eq_true, or_assoc]
    exact (hn _ hwithin).imp_right (ih hothers)

/-- A closing tag stands in a written node only where the node is code with content or in the body
of a comment. -/
lemma Node.WellFormed.closesOnly {n : Node} (h : n.WellFormed) : n.ClosesOnly := by
  induction h with
  | text =>
    intro rest hwithin
    exact Or.inr (codeClose_infix_append (lt_notMem_escapeText _) hwithin)
  | @comment value =>
    intro rest hwithin
    rw [Node.render, List.append_assoc, List.append_assoc] at hwithin
    exact (codeClose_infix_comment hwithin).imp_left decide_eq_true
  | @element tag attrs place content htag hattrs _ _ ih =>
    intro rest hwithin
    rw [Node.writesClose, Bool.or_eq_true, or_assoc]
    cases content with
    | nil =>
      rw [render_element_nil] at hwithin
      have htail := (List.infix_cons_iff.mp hwithin).resolve_left (not_codeClose_prefix_tag htag _)
      refine Or.inr (Or.inr (codeClose_infix_append (lt_notMem_tag htag hattrs true) ?_))
      simpa only [List.append_assoc] using htail
    | cons n others =>
      rw [render_element_cons] at hwithin
      have htail := (List.infix_cons_iff.mp hwithin).resolve_left (not_codeClose_prefix_tag htag _)
      have hcontent := codeClose_infix_append (lt_notMem_tag htag hattrs false)
        (by simpa only [List.append_assoc] using htail)
      rcases codeClose_infix_renderNodes ih hcontent with hinside | hbehind
      · exact Or.inr (Or.inl hinside)
      · rcases codeClose_infix_endTag htag hbehind with rfl | hbehind
        · exact Or.inl rfl
        · exact Or.inr (Or.inr hbehind)

/-- Where no closing tag is written there is nothing to trim. -/
lemma renderTrimmedNodes_of_not_writesClose {content : List Node}
    (h : ∀ n ∈ content, n.writesClose = false → n.renderTrimmed = n.render)
    (hclose : writesCloseIn content = false) :
    renderTrimmedNodes content = renderNodes content := by
  induction content with
  | nil => rfl
  | cons n others ih =>
    obtain ⟨hn, hothers⟩ := List.forall_mem_cons.mp h
    rw [writesCloseIn, Bool.or_eq_false_iff] at hclose
    rw [renderTrimmedNodes, renderNodes, hn hclose.1, ih hothers hclose.2]

/-- A node in which no closing tag of code is written loses no line feed. -/
lemma Node.WellFormed.renderTrimmed_of_not_writesClose {n : Node} (h : n.WellFormed)
    (hclose : n.writesClose = false) : n.renderTrimmed = n.render := by
  induction h with
  | text => simp [Node.renderTrimmed]
  | comment => simp [Node.renderTrimmed]
  | @element tag attrs place content htag hattrs _ _ ih =>
    rw [Node.writesClose, Bool.or_eq_false_iff] at hclose
    obtain ⟨hcode, hcontent⟩ := hclose
    cases content with
    | nil => exact renderTrimmed_element_nil tag attrs place
    | cons n others =>
      have htag : tag ≠ "code" := by simpa [isCode] using hcode
      have htrimmed := renderTrimmed_element_cons tag attrs place n others []
      rwa [if_neg htag, renderTrimmedNodes_of_not_writesClose ih hcontent,
        ← render_element_cons tag attrs place n others [], List.append_nil, List.append_nil]
        at htrimmed

/-! ## Trimmed nodes -/

/-- Whether trimming a written node, before any text that does not end a region begun in the node,
drops the line feeds that it should. -/
def Node.TrimsTo (n : Node) : Prop :=
  n.codeApart = true → ∀ rest, (n.writesOpen = true → ¬ codeClose <:+: rest) →
    trimCode (n.render ++ rest) = n.renderTrimmed ++ trimCode rest

/-- Nodes are trimmed one after the other. -/
lemma trimCode_renderNodes {content : List Node} (hwf : ∀ n ∈ content, n.WellFormed)
    (h : ∀ n ∈ content, n.TrimsTo) (hapart : codeApartIn content = true) {rest : List Char}
    (hrest : writesOpenIn content = true → ¬ codeClose <:+: rest) :
    trimCode (renderNodes content ++ rest) = renderTrimmedNodes content ++ trimCode rest := by
  induction content with
  | nil => rfl
  | cons n others ih =>
    obtain ⟨hn, hothers⟩ := List.forall_mem_cons.mp h
    obtain ⟨-, hothersWf⟩ := List.forall_mem_cons.mp hwf
    simp only [codeApartIn, Bool.and_eq_true, Bool.or_eq_true, Bool.not_eq_true'] at hapart
    obtain ⟨⟨hnApart, hcross⟩, hothersApart⟩ := hapart
    rw [writesOpenIn, Bool.or_eq_true] at hrest
    rw [renderNodes, renderTrimmedNodes, List.append_assoc, List.append_assoc]
    rw [hn hnApart, ih hothersWf hothers hothersApart fun hopen => hrest (Or.inr hopen)]
    -- a region that is begun in the first node does not end in the others
    intro hopen hwithin
    have hclosesOnly : ∀ m ∈ others, m.ClosesOnly := fun m hm => (hothersWf m hm).closesOnly
    rcases codeClose_infix_renderNodes hclosesOnly hwithin with hclose | hclose
    · rcases hcross with hcross | hcross
      · rw [hopen] at hcross
        cases hcross
      · rw [hclose] at hcross
        cases hcross
    · exact hrest (Or.inl hopen) hclose

/-- If nothing that is begun in a node can end, in it or behind it, all stays as it is. -/
lemma Node.WellFormed.trimCode_of_not_closes {n : Node} (h : n.WellFormed)
    (hclose : n.writesClose = false) {rest : List Char} (hrest : ¬ codeClose <:+: rest) :
    trimCode (n.render ++ rest) = n.renderTrimmed ++ trimCode rest := by
  have hall : ¬ Closes (n.render ++ rest) := by
    intro hcloses
    rcases h.closesOnly rest hcloses.isInfix with hnode | hbehind
    · rw [hclose] at hnode
      cases hnode
    · exact hrest hbehind
  rw [Reindent.trimCode_of_not_closes hall,
    Reindent.trimCode_of_not_closes fun hcloses => hrest hcloses.isInfix,
    h.renderTrimmed_of_not_writesClose hclose]

/-- No region begins in a text before a hyphen if it holds no opening tag. -/
lemma trimCode_append_hyphen {s : List Char} (hs : ¬ codeOpen <:+: s) (t : List Char) :
    trimCode (s ++ '-' :: t) = s ++ trimCode ('-' :: t) := by
  induction s with
  | nil => rfl
  | cons c s ih =>
    obtain ⟨hbegins, hwithin⟩ := not_or.mp (mt List.infix_cons_iff.mpr hs)
    rw [List.cons_append, trimCode_cons_of_not_codeOpen, ih hwithin, List.cons_append]
    exact fun hopen => hbegins (prefix_of_prefix_append_cons (a := c :: s) (by decide) hopen)

/-- No region begins in a comment that holds no opening tag of code. -/
lemma trimCode_comment {value : List Char} (hvalue : ¬ codeOpen <:+: value) (rest : List Char) :
    trimCode ("<!--".toList ++ (value ++ ("-->".toList ++ rest)))
      = "<!--".toList ++ (value ++ ("-->".toList ++ trimCode rest)) := by
  have hfront : ¬ codeOpen <+: '<' :: ("!--".toList ++ (value ++ ("-->".toList ++ rest))) := by
    intro hopen
    exact absurd (List.cons_prefix_cons.mp (List.cons_prefix_cons.mp hopen).2).1 (by decide)
  have hback := trimCode_append_of_notMem (s := "-->".toList) (by decide) rest
  have hbody := trimCode_append_hyphen hvalue ("->".toList ++ rest)
  show trimCode ('<' :: ("!--".toList ++ (value ++ ("-->".toList ++ rest)))) = _
  rw [trimCode_cons_of_not_codeOpen hfront, trimCode_append_of_notMem (by decide)]
  show _ :: ("!--".toList ++ trimCode (value ++ '-' :: ("->".toList ++ rest))) = _
  rw [hbody]
  show _ :: ("!--".toList ++ (value ++ trimCode ("-->".toList ++ rest))) = _
  rw [hback]
  rfl

section

variable {tag : String} {attrs : Attributes} (htag : isName tag.toList = true)

include htag

/-- No region begins at an end tag. -/
lemma trimCode_endTag (rest : List Char) :
    trimCode ('<' :: '/' :: (tag.toList ++ '>' :: rest))
      = '<' :: '/' :: (tag.toList ++ '>' :: trimCode rest) := by
  have hopen : ¬ codeOpen <+: '<' :: '/' :: (tag.toList ++ '>' :: rest) := by
    intro hopen
    exact absurd (List.cons_prefix_cons.mp (List.cons_prefix_cons.mp hopen).2).1 (by decide)
  have hname : '<' ∉ '/' :: (tag.toList ++ ['>']) := by simp [lt_notMem_of_isName htag]
  have htail := trimCode_append_of_notMem hname rest
  simp only [List.cons_append, List.append_assoc, List.nil_append] at htail
  rw [trimCode_cons_of_not_codeOpen hopen, htail]

/-- No region begins at a start tag whose name does not begin with `code`. -/
lemma trimCode_startTag (hattrs : attrs.WellFormed) (hcode : ¬ "code".toList <+: tag.toList)
    (closed : Bool) (rest : List Char) :
    trimCode ('<' :: (tag.toList ++ (renderAttrs attrs ++ (tagEnd closed ++ rest))))
      = '<' :: (tag.toList ++ (renderAttrs attrs ++ (tagEnd closed ++ trimCode rest))) := by
  have htail := trimCode_append_of_notMem (lt_notMem_tag htag hattrs closed) rest
  simp only [List.append_assoc] at htail
  rw [trimCode_cons_of_not_codeOpen (mt isPrefix_of_codeOpen hcode), htail]

end

/-- A code element in which no closing tag is written is a region. -/
lemma trimCode_code {attrs : Attributes} (hattrs : attrs.WellFormed) {body : List Char}
    (hbody : ¬ codeClose <:+: body) (rest : List Char) :
    trimCode ('<' :: ("code".toList ++ (renderAttrs attrs ++ (tagEnd false ++
        (body ++ '<' :: '/' :: ("code".toList ++ '>' :: rest))))))
      = '<' :: ("code".toList ++ (renderAttrs attrs ++ (tagEnd false ++
          (trimWhile (· = '\n') body ++ '<' :: '/' :: ("code".toList ++ '>' :: trimCode rest))))) :=
  trimCode_region (notMem_renderAttrs (by decide) hattrs) hbody rest

section

variable {attrs : Attributes} {n : Node} {others : List Node} {rest : List Char}
  (hattrs : attrs.WellFormed) (hcontent : ∀ m ∈ n :: others, m.WellFormed)

include hattrs hcontent

/-- A code element with content, in which no closing tag is written, is trimmed at both ends. -/
lemma trimCode_render_code (hclose : writesCloseIn (n :: others) = false)
    (place : Option Position) :
    trimCode ((Node.element "code" attrs place (n :: others)).render ++ rest)
      = (Node.element "code" attrs place (n :: others)).renderTrimmed ++ trimCode rest := by
  have hbody : ¬ codeClose <:+: renderNodes (n :: others) := by
    intro hwithin
    have hclosesOnly : ∀ m ∈ n :: others, m.ClosesOnly := fun m hm => (hcontent m hm).closesOnly
    rw [← List.append_nil (renderNodes _)] at hwithin
    rcases codeClose_infix_renderNodes hclosesOnly hwithin with hinside | hnil
    · rw [hclose] at hinside
      cases hinside
    · exact absurd hnil (by decide)
  rw [render_element_cons, renderTrimmed_element_cons, if_pos rfl, trimCode_code hattrs hbody]

/-- An element that is not named like code is trimmed where its content is. -/
lemma trimCode_render_element {tag : String} (htag : isName tag.toList = true)
    (hcode : ¬ "code".toList <+: tag.toList) (htrims : ∀ m ∈ n :: others, m.TrimsTo)
    (hapart : codeApartIn (n :: others) = true)
    (hrest : writesOpenIn (n :: others) = true → ¬ codeClose <:+: rest)
    (place : Option Position) :
    trimCode ((Node.element tag attrs place (n :: others)).render ++ rest)
      = (Node.element tag attrs place (n :: others)).renderTrimmed ++ trimCode rest := by
  have hname : tag ≠ "code" := by
    rintro rfl
    exact hcode (List.prefix_refl _)
  -- the end tag of the element ends no region that is begun in its content
  have hbehind : writesOpenIn (n :: others) = true →
      ¬ codeClose <:+: '<' :: '/' :: (tag.toList ++ '>' :: rest) := by
    intro hopen hwithin
    rcases codeClose_infix_endTag htag hwithin with htag | hwithin
    · exact hname htag
    · exact hrest hopen hwithin
  rw [render_element_cons, renderTrimmed_element_cons, if_neg hname,
    trimCode_startTag htag hattrs hcode, trimCode_renderNodes hcontent htrims hapart hbehind,
    trimCode_endTag htag]

end

/-- Trimming a written node drops the line feeds at both ends of its outermost code elements. -/
theorem Node.WellFormed.trimsTo {n : Node} (h : n.WellFormed) : n.TrimsTo := by
  induction h with
  | text =>
    intro _ rest _
    simpa only [Node.renderTrimmed, Node.render]
      using trimCode_append_of_notMem (lt_notMem_escapeText _) rest
  | @comment value hchars hreturn hsafe =>
    intro hapart rest hrest
    by_cases hopen : codeOpen <:+: value.toList
    · have hclose : ¬ codeClose <:+: value.toList := by simpa [Node.codeApart, hopen] using hapart
      exact (Node.WellFormed.comment hchars hreturn hsafe).trimCode_of_not_closes
        (by simp [Node.writesClose, hclose]) (hrest (by simp [Node.writesOpen, hopen]))
    · have htrim := trimCode_comment hopen rest
      simpa only [Node.renderTrimmed, Node.render, List.append_assoc] using htrim
  | @element tag attrs place content htag hattrs hcontent hchain ih =>
    intro hapart rest hrest
    rw [Node.codeApart] at hapart
    cases hcode : isCode tag content with
    | true =>
      rw [hcode, if_pos rfl, Bool.not_eq_true'] at hapart
      obtain ⟨rfl, hne⟩ : tag = "code" ∧ content ≠ [] := by simpa [isCode] using hcode
      obtain ⟨n, others, rfl⟩ := List.exists_cons_of_ne_nil hne
      exact trimCode_render_code hattrs hcontent hapart place
    | false =>
      rw [hcode, if_neg Bool.false_ne_true, Bool.and_eq_true] at hapart
      rw [Node.writesOpen, hcode, Bool.not_false, Bool.true_and, Bool.or_eq_true,
        decide_eq_true_eq] at hrest
      by_cases hbegins : "code".toList <+: tag.toList
      · -- the tag begins like an opening tag of code, and no region ends behind it
        have hclose := hapart.2
        rw [decide_eq_true hbegins, Bool.not_true, Bool.false_or, Bool.not_eq_true'] at hclose
        exact (Node.WellFormed.element htag hattrs hcontent hchain).trimCode_of_not_closes
          (by simp [Node.writesClose, hcode, hclose]) (hrest (Or.inl hbegins))
      · cases content with
        | nil =>
          rw [renderTrimmed_element_nil, render_element_nil, render_element_nil,
            trimCode_startTag htag hattrs hbegins]
        | cons n others =>
          exact trimCode_render_element hattrs hcontent htag hbegins ih hapart.1
            (fun hopen => hrest (Or.inr hopen)) place

end DocComment.Markup

namespace DocComment

open Markup Text Reindent

/-! ## Elements that were read -/

/-- Whether a line begins with white space. -/
def beginsBlank (line : List Char) : Bool :=
  line.head?.any isBlank

/-- Lines that begin with no white space are settled. -/
lemma settled_of_not_beginsBlank {line : List Char} (h : beginsBlank line = false) :
    Settled line := by
  cases line with
  | nil => exact ⟨rfl, rfl⟩
  | cons c line =>
    have hblanks : ∀ c ∈ ([] : List Char), isBlank c = true := List.forall_mem_nil _
    have hhead : ∀ d ∈ (c :: line).head?, isBlank d = false := by
      intro d hd
      obtain rfl := Option.some.inj hd
      exact h
    exact (settled_indentation hblanks hhead (by simp)).mpr fun _ => rfl

/-- Where no line begins with white space, re-indentation from column zero only trims code. -/
lemma reindent_of_flush {s : List Char} (hreturn : '\r' ∉ s)
    (hlines : ∀ l ∈ lines s, beginsBlank l = false) : reindent s 0 = trimCode s := by
  have hsettled : ∀ l ∈ lines s, Settled l :=
    fun l hl => settled_of_not_beginsBlank (hlines l hl)
  have hcolumn : (0 : Int).toNat = 0 := rfl
  rw [reindent, hcolumn, dedent_of_settled hsettled, unlines_lines, toLineFeeds_of_notMem hreturn]

/-- **Re-indentation from column zero trims code elements.** If no line of the written content of an
element that was read begins with white space, nothing but line feeds is dropped from it; and where
its code elements are told apart by their tags, these are the line feeds at both ends of the content
of its outermost code elements. -/
theorem reindent_renderContent {text : String} {wrapFragments : Bool} {tree : Tree}
    (h : parse text wrapFragments = .ok tree) {e : Element} (he : e ∈ tree.root.elements)
    (hreturn : '\r' ∉ e.renderContent)
    (hlines : ∀ l ∈ lines e.renderContent, beginsBlank l = false) :
    ((reindent e.renderContent 0).Sublist e.renderContent ∧
      (reindent e.renderContent 0).filter (· ≠ '\n') = e.renderContent.filter (· ≠ '\n')) ∧
    (codeApartIn e.content = true → reindent e.renderContent 0 = renderTrimmedNodes e.content) := by
  rw [reindent_of_flush hreturn hlines]
  refine ⟨?_, fun hapart => ?_⟩
  · obtain ⟨last, hjoins⟩ := Joins.trimCode false e.renderContent
    exact ⟨hjoins.sublist, hjoins.filter⟩
  · have hwf : e.toNode.WellFormed := (parse_wellFormed h).elements e he
    cases hwf with
    | element htag hattrs hcontent hchain =>
      have htrims : ∀ n ∈ e.content, n.TrimsTo := fun n hn => (hcontent n hn).trimsTo
      have hend : writesOpenIn e.content = true → ¬ codeClose <:+: [] := fun _ => by decide
      have htrim := trimCode_renderNodes hcontent htrims hapart hend
      rwa [List.append_nil, trimCode_nil, List.append_nil] at htrim

/-- Code elements with attributes, with a childless one and a like-named element inside, in another
element, and a like-named element behind them. -/
def codeAmongOthers : String :=
  "<member>x<code a=\"1\">\n<code/><codec/>\n\n</code>\n<b><code>\n</code></b><codec/></member>"

/-- The childless code element and the one like it in name lose nothing; the line feeds at the ends
of the two regions go. -/
theorem reindent_renderContent_codeAmongOthers :
    ∃ tree, parse codeAmongOthers = .ok tree ∧ tree.root ∈ tree.root.elements ∧
      '\r' ∉ tree.root.renderContent ∧
      (∀ l ∈ lines tree.root.renderContent, beginsBlank l = false) ∧
      codeApartIn tree.root.content = true ∧
      reindent tree.root.renderContent 0 = renderTrimmedNodes tree.root.content ∧
      String.ofList (renderTrimmedNodes tree.root.content)
        = "x<code a=\"1\"><code /><codec /></code>\n<b><code></code></b><codec />" := by
  have hread : (parse codeAmongOthers).toOption.map
      (fun tree => (tree.root.renderContent, codeApartIn tree.root.content,
        String.ofList (renderTrimmedNodes tree.root.content)))
      = some
        ("x<code a=\"1\">\n<code /><codec />\n\n</code>\n<b><code>\n</code></b><codec />".toList,
          true, "x<code a=\"1\"><code /><codec /></code>\n<b><code></code></b><codec />") := by
    decide +kernel
  obtain ⟨tree, hparse, hshown⟩ := exists_ok_of_map hread
  obtain ⟨hcontent, hshown⟩ := Prod.mk.inj hshown
  obtain ⟨hapart, htrimmed⟩ := Prod.mk.inj hshown
  have hroot : tree.root ∈ tree.root.elements := List.mem_cons_self
  have hreturn : '\r' ∉ tree.root.renderContent := by
    rw [hcontent]
    decide
  have hlines : ∀ l ∈ lines tree.root.renderContent, beginsBlank l = false := by
    rw [hcontent]
    decide +kernel
  exact ⟨tree, hparse, hroot, hreturn, hlines, hapart,
    (reindent_renderContent hparse hroot hreturn hlines).2 hapart, htrimmed⟩

/-- An element whose name only begins with `code`, in front of a code element. -/
def codeblockBeforeCode : String :=
  "<member><codeblock>\na</codeblock><code>b</code></member>"

/-- The line feed that is dropped stands in the other element. -/
theorem reindent_renderContent_codeblockBeforeCode :
    ∃ tree, parse codeblockBeforeCode = .ok tree ∧ tree.root ∈ tree.root.elements ∧
      '\r' ∉ tree.root.renderContent ∧
      (∀ l ∈ lines tree.root.renderContent, beginsBlank l = false) ∧
      String.ofList (renderTrimmedNodes tree.root.content)
        = "<codeblock>\na</codeblock><code>b</code>" ∧
      String.ofList (reindent tree.root.renderContent 0)
        = "<codeblock>a</codeblock><code>b</code>" := by
  have hread : (parse codeblockBeforeCode).toOption.map
      (fun tree => (tree.root.renderContent, renderTrimmedNodes tree.root.content))
      = some ("<codeblock>\na</codeblock><code>b</code>".toList,
          "<codeblock>\na</codeblock><code>b</code>".toList) := by
    decide +kernel
  obtain ⟨tree, hparse, hshown⟩ := exists_ok_of_map hread
  obtain ⟨hcontent, htrimmed⟩ := Prod.mk.inj hshown
  refine ⟨tree, hparse, List.mem_cons_self, ?_⟩
  rw [hcontent, htrimmed]
  exact ⟨by decide, by decide +kernel, rfl, by decide +kernel⟩

-- a childless code element, code in code, and comments that hold one of the tags
example : ∀ content ∈ ["<code/>\n<b/><code>c</code>", "<code><code>a</code>\n</code>",
      "<!--<code-->\na<code>b</code>", "<code>a<!--</code>-->\n</code>"],
    (parse ("<member>" ++ content ++ "</member>")).toOption.map (fun tree =>
        decide (reindent tree.root.renderContent 0 = renderTrimmedNodes tree.root.content))
      = some false := by
  decide +kernel

end DocComment
