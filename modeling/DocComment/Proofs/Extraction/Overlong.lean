import DocComment.Proofs.Extraction.Fields
import DocComment.Proofs.Markup.MemberText
import Mathlib.Data.Bool.AllAny

/-!
# Texts that cannot be read

A reference to a character by its decimal number stays as it is in a comment inside a field. If the
number has too many digits, the text of the field cannot be read.

* `overlongIn?_onesReference`: no text with such a reference can be read;
* `parse_summaryMember`: a written member with a summary is read as one;
* `buildComment_overlongSummary`: building fails if the summary holds such a comment;
* `buildComment_overlongKeyword`: if it stands in a keyword, building fails unless keywords are
  replaced.
-/

namespace DocComment

open Markup Text CharacterReference

/-! ## References with many digits -/

/-- A reference to the character with a number of so many ones. -/
def onesReference (count : Nat) : String :=
  String.ofList ('&' :: '#' :: List.replicate count '1' ++ [';'])

lemma mem_onesReference {count : Nat} {c : Char} (h : c ∈ (onesReference count).toList) :
    c ∈ ['&', '#', '1', ';'] := by
  rw [onesReference, String.toList_ofList] at h
  simp only [List.mem_append, List.mem_cons, List.mem_replicate, List.not_mem_nil, or_false] at h
  rcases h with (rfl | rfl | ⟨-, rfl⟩) | rfl <;> decide

/-- The number of such a reference has too many digits if there are too many ones. -/
lemma overlong?_onesReference {count : Nat} (hcount : digitLimit < count) (t : List Char) :
    overlong? ((onesReference count).toList ++ t) = some ⟨count⟩ := by
  have hones : ∀ c ∈ List.replicate count '1', c.isDigit = true := by
    intro c hc
    obtain rfl := List.eq_of_mem_replicate hc
    rfl
  have hlength : ((List.replicate count '1' ++ ';' :: t).takeWhile Char.isDigit).length = count := by
    rw [List.takeWhile_append_of_pos hones, List.length_append, List.length_replicate,
      List.takeWhile_cons_of_neg (by decide)]
    rfl
  have hsplit : (onesReference count).toList ++ t
      = '&' :: '#' :: (List.replicate count '1' ++ ';' :: t) := by
    simp [onesReference]
  rw [hsplit, overlong?_number, tooManyDigits?, hlength, if_pos hcount, Option.some_or]

lemma notMem_onesReference {count : Nat} {c : Char} (hc : c ∉ ['&', '#', '1', ';']) :
    c ∉ (onesReference count).toList :=
  fun hmem => hc (mem_onesReference hmem)

/-- A text cannot be read if such a reference is the first ampersand that is written in it. -/
lemma overlongIn?_onesReference {count : Nat} (hcount : digitLimit < count) {e : Element}
    {before after : List Char}
    (hrender : e.renderContent = before ++ ((onesReference count).toList ++ after))
    (hbefore : '&' ∉ before) (hreturn : '\r' ∉ before ++ after) :
    overlongIn? e = some ⟨count⟩ := by
  have hfeeds : '\r' ∉ before ++ ((onesReference count).toList ++ after) := by
    have hreference : '\r' ∉ (onesReference count).toList := notMem_onesReference (by decide)
    simp_all
  have hdrop := Reindent.dropsBlanks_reindent e.renderContent (Tree.column e)
  rw [hrender, toLineFeeds_of_notMem hfeeds] at hdrop
  obtain ⟨u, u', hu, hkept, hrest⟩ := hdrop.exists_of_append
  have hvisible : ∀ c ∈ (onesReference count).toList, isBlank c = false := by
    have hcharacters : ∀ c ∈ ['&', '#', '1', ';'], isBlank c = false :=
      eq_false_of_any (by decide)
    exact fun c hc => hcharacters c (mem_onesReference hc)
  obtain ⟨v, rfl, -⟩ := hrest.of_visible_append hvisible
  have hamp : '&' ∉ u := fun hmem => hbefore (hkept.mem_of_mem hmem)
  rw [overlongIn?, hrender, hu, overlong?_append_of_notMem hamp, overlong?_onesReference hcount]

/-! ## Members with a summary -/

/-- A member with a summary alone. -/
def summaryMember (place inner : Option Position) (content : List Node) : Element :=
  ⟨rootTag, [], place, [.element "summary" [] inner content]⟩

lemma eq_of_unplaced_comment {n : Node} {value : String} (h : n.unplaced = .comment value) :
    n = .comment value := by
  cases n with
  | text value => cases h
  | comment value => exact h
  | element tag attrs place content => cases h

/-- What is an element when places are left out is an element with a place and the same content. -/
lemma exists_of_unplaced_element {n : Node} {tag : String} {attrs : Attributes}
    {content : List Node} (h : n.unplaced = .element tag attrs none content) :
    ∃ place content', n = .element tag attrs place content' ∧
      content'.map Node.unplaced = content := by
  cases n with
  | text value => cases h
  | comment value => cases h
  | element tag' attrs' place content' =>
    rw [unplaced_element] at h
    cases h
    exact ⟨place, content', rfl, rfl⟩

/-- A written member with a summary is read as one. -/
lemma parse_summaryMember (place inner : Option Position) {content : List Node}
    (hcontent : ∀ n ∈ content, n.WellFormed) (hapart : content.IsChain Node.Apart) :
    ∃ place' inner' content',
      (∀ wrapFragments, parse (summaryMember place inner content).renderString wrapFragments
        = .ok ⟨summaryMember place' inner' content', 0⟩) ∧
      content'.map Node.unplaced = (content.map Node.withLineFeeds).map Node.unplaced := by
  have hsummary : (Node.element "summary" [] inner content).WellFormed :=
    .element (by decide) Attributes.wellFormed_nil hcontent hapart
  have hwf : (summaryMember place inner content).toNode.WellFormed :=
    .element (show isName rootTag.toList = true by decide) Attributes.wellFormed_nil
      (List.forall_mem_singleton.mpr hsummary) (.singleton _)
  obtain ⟨⟨⟨tag, attrs, place', nodes⟩, offset⟩, hparse, hoffset, hsame⟩ := parse_render hwf rfl
  simp only [summaryMember, Element.unplaced, Element.withLineFeeds, List.map_cons, List.map_nil,
    withLineFeeds_element, unplaced_element, Element.mk.injEq, true_and] at hsame
  obtain ⟨rfl, rfl, hnodes⟩ := hsame
  obtain ⟨n, rfl, hn⟩ := List.map_eq_singleton_iff.mp hnodes
  obtain ⟨inner', content', rfl, hsame⟩ := exists_of_unplaced_element hn
  obtain rfl : offset = 0 := hoffset
  exact ⟨place', inner', content', hparse, hsame⟩

lemma hyphenSafe_of_notMem {s : List Char} (h : '-' ∉ s) : HyphenSafe s := by
  induction s with
  | nil => exact .singleton _
  | cons c s ih =>
    obtain ⟨hc, hs⟩ : '-' ≠ c ∧ '-' ∉ s := by simpa using h
    exact List.isChain_cons.mpr ⟨fun d _ hboth => hc hboth.1.symm, ih hs⟩

lemma wellFormed_onesComment (count : Nat) : (Node.comment (onesReference count)).WellFormed := by
  have hchars : ∀ c ∈ ['&', '#', '1', ';'], isChar c = true :=
    List.all_eq_true.mp (by decide)
  exact .comment (fun c hc => hchars c (mem_onesReference hc)) (notMem_onesReference (by decide))
    (hyphenSafe_of_notMem (notMem_onesReference (by decide)))

/-- What is read of a member with a summary is the summary. -/
lemma readElements_summaryMember (place inner : Option Position) (content : List Node)
    (offset : Nat) :
    readElements ⟨summaryMember place inner content, offset⟩ = [⟨"summary", [], inner, content⟩] := by
  rfl

/-- A text that starts with a `member` tag is neither white nor the compiler's marker. -/
lemma readsAs_of_startsMember {raw : String} {tree : Tree} (h : startsMember raw.toList = true)
    (hparse : parse raw = .ok tree) : ReadsAs raw tree := by
  obtain ⟨c, rest, heq, -⟩ := startsMember_iff.mp h
  refine ⟨?_, ?_, hparse⟩
  · rw [heq]
    rfl
  · rw [heq]
    rfl

lemma readsAs_summaryMember {place inner : Option Position} {content : List Node} {tree : Tree}
    (hparse : parse (summaryMember place inner content).renderString = .ok tree) :
    ReadsAs (summaryMember place inner content).renderString tree := by
  refine readsAs_of_startsMember ?_ hparse
  rw [Element.renderString, String.toList_ofList]
  exact startsMember_render rfl

/-- A pass over cross-references leaves a tree without any as it is. -/
lemma resolveCrefs_of_no_cref {p : Progress} (h : ∀ e ∈ p.root.elements, e.attr? "cref" = none)
    (selector : String) (listener : Listener) (dialect : Dialect) (source : Option Context) :
    resolveCrefs selector listener dialect source p = p := by
  have hcandidates : crefCandidates selector p.root = [] := by
    refine List.filterMap_eq_nil_iff.mpr fun (path, e) hfound => ?_
    have he : e ∈ p.root.elements := by
      have hmem := List.mem_map_of_mem (f := Prod.snd) hfound
      rw [elementPaths_snd] at hmem
      exact hmem
    simp [h e he]
  rw [resolveCrefs, hcandidates]
  rfl

/-- Resolution leaves a tree as it is that holds no cross-reference, and no keyword if these are
replaced. -/
lemma resolved_of_no_reference {root : Element}
    (hcref : ∀ e ∈ root.elements, e.attr? "cref" = none) (context : Context)
    (hword : context.rewriteLangwords = true → langwordCandidates root = [])
    (listener : Listener) : (resolved context listener root).root = root := by
  have hpass (selector : String) (dialect : Dialect) (notices : List Notice) :
      resolveCrefs selector listener dialect (some context) { root, notices }
        = { root, notices } := resolveCrefs_of_no_cref hcref selector listener dialect _
  rw [resolved]
  split
  · rfl
  · rw [resolveReferences]
    dsimp only
    rw [hpass, hpass]
    split
    · rename_i hrewrite
      rw [rewriteLangwords, hword hrewrite]
      rfl
    · rfl

/-- A keyword with a comment inside. -/
def keywordComment (place : Option Position) (value : String) : Node :=
  .element "see" [("langword", "null")] place [.comment value]

lemma render_keywordComment (place : Option Position) (value : String) :
    (keywordComment place value).render
      = "<see langword=\"null\"><!--".toList ++ (value.toList ++ "--></see>".toList) := by
  have hwritten : renderAttrs [("langword", "null")] = " langword=\"null\"".toList := by
    decide +kernel
  simp [keywordComment, Node.render, renderNodes, hwritten]

/-- The placeholder for the keyword. -/
def nullPlaceholder : Element :=
  ⟨"xref", [("uid", "langword_csharp_null"), ("name", "null"), ("href", "")], none, []⟩

/-- The language that is named so has a dialect, and there is nothing to notice. -/
lemma contextDialect_csharp {context : Context} (h : context.language = "csharp") :
    contextDialect context = (.csharp, []) := by
  have hlower : (Text.strip "csharp".toList).map Char.toLower = "csharp".toList := by
    decide +kernel
  have hdialect : Dialect.ofLanguage? "csharp" = some .csharp := by
    rw [Dialect.ofLanguage?, hlower]
    rfl
  rw [contextDialect, h, hdialect]

/-- A member whose summary is such a keyword is read as one. -/
lemma parse_summaryKeyword (place inner innermost : Option Position) (count : Nat) :
    ∃ place' inner' innermost', ∀ wrapFragments,
      parse (summaryMember place inner
        [keywordComment innermost (onesReference count)]).renderString wrapFragments
          = .ok ⟨summaryMember place' inner' [keywordComment innermost' (onesReference count)], 0⟩ := by
  have hattrs : Attributes.WellFormed [("langword", "null")] :=
    Attributes.wellFormed_nil.cons (by decide) (List.all_eq_true.mp (by decide)) (by simp)
  have hkeyword : (keywordComment innermost (onesReference count)).WellFormed :=
    .element (by decide) hattrs (List.forall_mem_singleton.mpr (wellFormed_onesComment count))
      (.singleton _)
  obtain ⟨place', inner', content', hparse, hsame⟩ := parse_summaryMember place inner
    (List.forall_mem_singleton.mpr hkeyword) (.singleton _)
  obtain ⟨n, rfl, hn⟩ := List.map_eq_singleton_iff.mp hsame
  obtain ⟨innermost', content', rfl, hcomment⟩ := exists_of_unplaced_element hn
  obtain ⟨m, rfl, hm⟩ := List.map_eq_singleton_iff.mp hcomment
  obtain rfl := eq_of_unplaced_comment hm
  exact ⟨place', inner', innermost', hparse⟩

/-- There is no cross-reference in a summary that is a keyword. -/
lemma attr?_cref_summaryKeyword (place inner innermost : Option Position) (value : String) :
    ∀ e ∈ (summaryMember place inner [keywordComment innermost value]).elements,
      e.attr? "cref" = none := by
  simp [summaryMember, keywordComment, Element.elements, elementsOf, Node.elements, Element.attr?,
    Attributes.get?]

/-- A keyword in a summary is replaced, comment and all, if keywords are. -/
lemma resolved_summaryKeyword_replaced {context : Context}
    (hresolve : context.preserveRawReferences = false) (hrewrite : context.rewriteLangwords = true)
    (hlanguage : context.language = "csharp") (listener : Listener)
    (place inner innermost : Option Position) (value : String) :
    (resolved context listener (summaryMember place inner [keywordComment innermost value])).root
      = summaryMember place inner [nullPlaceholder.toNode] := by
  have hcref := attr?_cref_summaryKeyword place inner innermost value
  have hwords : langwordCandidates (summaryMember place inner [keywordComment innermost value])
      = [([0, 0], "null")] := rfl
  have hword : Text.stripString "null" = "null" := by decide +kernel
  rw [resolved, hresolve, resolveReferences, contextDialect_csharp hlanguage, hrewrite]
  dsimp only
  rw [resolveCrefs_of_no_cref hcref, resolveCrefs_of_no_cref hcref, if_neg (by decide), if_pos rfl,
    rewriteLangwords, hwords, rewriteCandidates, hword]
  rfl

/-- If the comment inside the keyword holds a number with too many digits, building fails where
keywords stay and gives a comment where they are replaced. -/
theorem buildComment_overlongKeyword {count : Nat} (hcount : digitLimit < count)
    (place inner innermost : Option Position) (listener : Listener) :
    let raw := (summaryMember place inner
      [keywordComment innermost (onesReference count)]).renderString
    (∀ context : Context, context.rewriteLangwords = false →
      (buildComment (some raw) context listener).result = .error ⟨count⟩) ∧
    ∀ context : Context, context.preserveRawReferences = false →
      context.rewriteLangwords = true → context.language = "csharp" →
      ∃ c, (buildComment (some raw) context listener).result = .ok (some c) := by
  obtain ⟨place', inner', innermost', hparse⟩ := parse_summaryKeyword place inner innermost count
  refine ⟨fun context hkeep => ?_, fun context hresolve hrewrite hlanguage => ?_⟩
  · have hrender : Element.renderContent
        ⟨"summary", [], inner', [keywordComment innermost' (onesReference count)]⟩
          = "<see langword=\"null\"><!--".toList ++ ((onesReference count).toList
            ++ "--></see>".toList) := by
      simp [Element.renderContent, renderNodes, render_keywordComment]
    have hoverlong := overlongIn?_onesReference hcount hrender (by decide) (by decide)
    have hroot := resolved_of_no_reference
      (attr?_cref_summaryKeyword place' inner' innermost' (onesReference count)) context
      (fun hrewrite => absurd hrewrite (by simp [hkeep])) listener
    rw [(readsAs_summaryMember (hparse true)).buildComment_result, Tree.resolved, hroot, readElements_summaryMember,
      ifReadable, List.findSome?_cons, hoverlong]
  · have hroot := resolved_summaryKeyword_replaced hresolve hrewrite hlanguage listener place' inner'
      innermost' (onesReference count)
    have hplaceholder : IsPlaceholder nullPlaceholder :=
      keywordReference_isPlaceholder (show Dialect.csharp.keywordReference? "null" = _ from rfl)
    have hlegible : (summaryMember place' inner' [nullPlaceholder.toNode]).toNode.Legible := by
      have hsummary : (Node.element "summary" [] inner' [nullPlaceholder.toNode]).Legible :=
        .element (by decide) (by simp) (List.forall_mem_singleton.mpr hplaceholder.legible)
      show (Node.element rootTag [] place' _).Legible
      exact .element (by decide) (by simp) (List.forall_mem_singleton.mpr hsummary)
    refine ⟨heldComment ⟨summaryMember place' inner' [nullPlaceholder.toNode], 0⟩, ?_⟩
    rw [(readsAs_summaryMember (hparse true)).buildComment_result, Tree.resolved, hroot]
    exact ifReadable_of_legible hlegible _

/-- A member whose summary is a keyword with a comment inside that holds a number with one digit too
many. -/
def overlongKeyword : String :=
  (summaryMember none none [keywordComment none (onesReference (digitLimit + 1))]).renderString

/-- `overlongKeyword` is plain ASCII. -/
lemma mem_overlongKeyword {c : Char} (h : c ∈ overlongKeyword.toList) : c.toNat < 128 ∧ c ≠ '\r' := by
  have htext (value : String) :
      (summaryMember none none [keywordComment none value]).renderString.toList
        = "<member><summary><see langword=\"null\"><!--".toList ++ (value.toList
          ++ "--></see></summary></member>".toList) := by
    simp [summaryMember, Element.renderString, Element.render, Element.toNode, rootTag, Node.render,
      renderNodes, renderAttrs, render_keywordComment]
  have hclosed : ∀ c ∈ "<member><summary><see langword=\"null\"><!--".toList
      ++ "--></see></summary></member>".toList ++ ['&', '#', '1', ';'],
      c.toNat < 128 ∧ c ≠ '\r' :=
    List.all_iff_forall_prop.mp (by decide +kernel)
  refine hclosed c ?_
  rw [overlongKeyword, htext, List.mem_append, List.mem_append] at h
  rw [List.mem_append, List.mem_append]
  rcases h with h | h | h
  · exact Or.inl (Or.inl h)
  · exact Or.inr (mem_onesReference h)
  · exact Or.inl (Or.inr h)

end DocComment
