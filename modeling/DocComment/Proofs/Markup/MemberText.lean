import DocComment.Proofs.Markup.RootTag
import DocComment.Proofs.Markup.RoundTrip

/-!
# Written members

What a `member` element is written as begins with a `member` tag. So it is not wrapped, and it is
read as the element that was written.

* `startsMember_render`: it starts with a `member` tag;
* `isRooted_render`: it is not wrapped;
* `parse_render`: it is read as the element that was written.
-/

namespace DocComment.Markup

open DocComment.Text

/-- A blank or a bracket follows the name of a written tag. -/
lemma exists_renderAttrs_eq (attrs : Attributes) (closed : Bool) (rest : List Char) :
    ∃ c t, renderAttrs attrs ++ (tagEnd closed ++ rest) = c :: t ∧
      (isBlank c = true ∨ c = '/' ∨ c = '>') := by
  cases attrs with
  | nil =>
    cases closed with
    | true => exact ⟨' ', '/' :: '>' :: rest, rfl, Or.inl (by decide)⟩
    | false => exact ⟨'>', rest, rfl, Or.inr (Or.inr rfl)⟩
  | cons a attrs =>
    rw [renderAttrs_cons]
    exact ⟨' ', _, rfl, Or.inl (by decide)⟩

/-- A written `member` element starts with a `member` tag. -/
lemma startsMember_render {e : Element} (htag : e.tag = rootTag) :
    startsMember e.render = true := by
  obtain ⟨tag, attrs, place, content⟩ := e
  obtain rfl : tag = rootTag := htag
  have happend := List.append_nil (Node.element rootTag attrs place content).render
  rw [startsMember_iff, Element.render, Element.toNode, ← happend]
  cases content with
  | nil =>
    obtain ⟨c, t, heq, hc⟩ := exists_renderAttrs_eq attrs true []
    refine ⟨c, t, ?_, hc⟩
    rw [render_element_nil, heq]
    rfl
  | cons n others =>
    obtain ⟨c, t, heq, hc⟩ := exists_renderAttrs_eq attrs false
      (renderNodes (n :: others) ++ '<' :: '/' :: (rootTag.toList ++ ['>']))
    refine ⟨c, t, ?_, hc⟩
    rw [render_element_cons, heq]
    rfl

/-- A written `member` element is not wrapped. -/
lemma isRooted_render {e : Element} (htag : e.tag = rootTag) : isRooted e.render = true := by
  have hstarts := startsMember_render htag
  obtain ⟨c, rest, heq, -⟩ := startsMember_iff.mp hstarts
  have hheading : afterHeading e.render = e.render := by
    rw [heq]
    rfl
  rw [isRooted_eq, hheading, hstarts, Bool.true_or]

/-- A written `member` element is read as the element that was written, with line feeds for the line
breaks in its character data. -/
lemma parse_render {e : Element} (hwf : e.toNode.WellFormed) (htag : e.tag = rootTag) :
    ∃ tree : Tree, (∀ wrapFragments, parse e.renderString wrapFragments = .ok tree) ∧
      tree.lineOffset = 0 ∧ tree.root.unplaced = e.withLineFeeds.unplaced := by
  obtain ⟨root, hread, hsame⟩ := parseDocument_render hwf
  refine ⟨⟨root, 0⟩, fun wrapFragments => ?_, rfl, hsame⟩
  rw [parse, Element.renderString, String.toList_ofList, isRooted_render htag, Bool.not_true,
    Bool.and_false]
  exact hread

end DocComment.Markup
