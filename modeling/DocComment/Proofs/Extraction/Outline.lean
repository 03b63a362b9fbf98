import DocComment.Proofs.Extraction.Refusals

/-!
# The outline of a comment

The outline of a comment is what is left of it without its texts: which fields it has, under which
names and with which references. It is read off the direct children of the root, and resolution does
not touch these. So the outline is the same whatever the context asks for and whoever listens.

* `outline_heldComment`: trees that look the same from above hold comments with the same outline;
* `buildComment_outline`: two ways of building one comment agree on its outline, or one of them comes
  upon a text that cannot be read.
-/

namespace DocComment

open Markup

/-! ## Outlines -/

/-- A comment without its texts. -/
structure Outline where
  summary : Bool
  remarks : Bool
  returns : Bool
  parameters : List String
  typeParameters : List String
  exceptions : Option (List CommentId)
  sees : Option (List CommentId)
  seeAlsos : Option (List CommentId)
  examples : Nat
deriving DecidableEq

/-- The outline of a comment. -/
def Comment.outline (c : Comment) : Outline where
  summary := c.summary.isSome
  remarks := c.remarks.isSome
  returns := c.returns.isSome
  parameters := c.parameters.map Prod.fst
  typeParameters := c.typeParameters.map Prod.fst
  exceptions := c.exceptions.map (·.map ReferenceEntry.target)
  sees := c.sees.map (·.map ReferenceEntry.target)
  seeAlsos := c.seeAlsos.map (·.map ReferenceEntry.target)
  examples := c.examples.length

/-! ## Heads of elements -/

/-- The heads of the direct children with a tag are seen from above. -/
lemma map_head_children (tree : Tree) (tag : String) :
    (tree.children tag).map Element.head
      = if tree.root.topHeads.1 = rootTag then tree.root.topHeads.2.filter (·.1 == tag) else [] := by
  rw [Tree.children]
  show _ = if tree.root.tag = rootTag then _ else []
  split
  · rw [Element.childrenNamed, Element.topHeads, List.filter_map]
    rfl
  · rfl

section

variable {elements elements' : List Element}
  (h : elements.map Element.head = elements'.map Element.head)

include h

/-- Elements with the same heads count alike in a keyed field. -/
lemma map_givenName_firstNamed (taken : List String) :
    (firstNamed taken elements).map Element.givenName
      = (firstNamed taken elements').map Element.givenName := by
  induction elements generalizing elements' taken with
  | nil =>
    obtain rfl := List.map_eq_nil_iff.mp h.symm
    rfl
  | cons e elements ih =>
    obtain ⟨e', others, rfl, hhead, hrest⟩ := List.map_eq_cons_iff.mp h.symm
    have hname : e'.givenName = e.givenName := by
      have hattrs : e'.attrs = e.attrs := congrArg Prod.snd hhead
      rw [Element.givenName, Element.givenName, Element.attr?, Element.attr?, hattrs]
    rw [firstNamed, firstNamed, hname]
    split
    · exact ih hrest.symm taken
    · rw [List.map_cons, List.map_cons, hname, ih hrest.symm]

/-- Elements with the same heads refer to the same comment ids. -/
lemma map_snd_referring :
    (referring elements).map Prod.snd = (referring elements').map Prod.snd := by
  have htargets (l : List Element) : (referring l).map Prod.snd = (l.map Element.head).filterMap
      fun head => CommentId.ofString? ((head.2.get? "cref").getD "") := by
    rw [referring, List.map_filterMap, List.filterMap_map]
    congr 1
    funext e
    simp [Element.head, Element.attr?, Function.comp_def]
  rw [htargets, htargets, h]

end

/-! ## Trees that look the same from above -/

section

variable {tree tree' : Tree} (h : tree.root.topHeads = tree'.root.topHeads)

include h

lemma map_head_children_congr (tag : String) :
    (tree.children tag).map Element.head = (tree'.children tag).map Element.head := by
  rw [map_head_children, map_head_children, h]

lemma isSome_firstChild?_congr (tag : String) :
    (tree.firstChild? tag).isSome = (tree'.firstChild? tag).isSome := by
  have hfirst (t : Tree) : (t.firstChild? tag).isSome
      = ((t.children tag).map Element.head).head?.isSome := by
    rw [Tree.firstChild?, List.head?_map, Option.isSome_map]
  rw [hfirst, hfirst, map_head_children_congr h]

lemma map_fst_heldEntries_congr (tag : String) :
    (heldEntries tree tag).map Prod.fst = (heldEntries tree' tag).map Prod.fst := by
  have hnames (t : Tree) : (heldEntries t tag).map Prod.fst
      = (firstNamed [] (t.children tag)).map Element.givenName := by
    rw [heldEntries, List.map_map]
    rfl
  rw [hnames, hnames, map_givenName_firstNamed (map_head_children_congr h tag)]

/-- The targets of the references that a tree holds show in its head alone. -/
lemma map_target_heldReferences_congr (tag : String) :
    (heldReferences tree tag).map (·.map ReferenceEntry.target)
      = (heldReferences tree' tag).map (·.map ReferenceEntry.target) := by
  have htargets (t : Tree) : (heldReferences t tag).map (·.map ReferenceEntry.target)
      = if ((referring (t.children tag)).map Prod.snd).isEmpty then none
        else some ((referring (t.children tag)).map Prod.snd) := by
    rw [heldReferences]
    rw [List.isEmpty_map, List.isEmpty_map]
    split
    · rfl
    · rw [Option.map_some, List.map_map]
      rfl
  rw [htargets, htargets, map_snd_referring (map_head_children_congr h tag)]

/-- Trees that look the same from above hold comments with the same outline. -/
theorem outline_heldComment : (heldComment tree).outline = (heldComment tree').outline := by
  have hexamples : (tree.children "example").length = (tree'.children "example").length := by
    have hlength := congrArg List.length (map_head_children_congr h "example")
    rwa [List.length_map, List.length_map] at hlength
  simp only [Comment.outline, heldComment, Option.isSome_map, List.length_map, hexamples,
    isSome_firstChild?_congr h, map_fst_heldEntries_congr h, map_target_heldReferences_congr h]

end

/-! ## Building twice -/

/-- The trees that two contexts lead to hold comments with the same outline. -/
lemma outline_resolved (tree : Tree) (context context' : Context) (listener listener' : Listener) :
    (heldComment (tree.resolved context listener)).outline
      = (heldComment (tree.resolved context' listener')).outline := by
  refine outline_heldComment ?_
  exact (topHeads_resolved context listener tree.root).trans
    (topHeads_resolved context' listener' tree.root).symm

/-- **Resolution does not disturb the outline.** Whatever two contexts ask for and whoever listens,
there is no comment in either case or in none, and two comments have the same outline. If the
comments in the markup are legible, building does not fail, so that both give no comment or both give
comments with one outline. -/
theorem buildComment_outline (raw : Option String) (context context' : Context)
    (listener listener' : Listener) :
    let outcome := buildComment raw context listener
    let outcome' := buildComment raw context' listener'
    (outcome.result = .ok none ↔ outcome'.result = .ok none) ∧
      (∀ c c', outcome.result = .ok (some c) → outcome'.result = .ok (some c') →
        c.outline = c'.outline) ∧
      ((∀ text tree, raw = some text → ReadsAs text tree → tree.root.commentsLegible = true) →
        ∃ c c', outcome.result = .ok c ∧ outcome'.result = .ok c' ∧
          c.map Comment.outline = c'.map Comment.outline) := by
  intro outcome outcome'
  have hnone : outcome.result = .ok none ↔ outcome'.result = .ok none :=
    (result_eq_none_iff context listener raw).trans (result_eq_none_iff context' listener' raw).symm
  obtain hrefused | ⟨text, tree, rfl, hreads⟩ := refused_or_readsAs raw
  · refine ⟨hnone, fun c c' hc _ => ?_, fun _ => ?_⟩
    · cases (hrefused context listener).symm.trans hc
    · exact ⟨none, none, hrefused context listener, hrefused context' listener', rfl⟩
  · have houtcome := hreads.buildComment_result context listener
    have houtcome' := hreads.buildComment_result context' listener'
    have hsame := outline_resolved tree context context' listener listener'
    refine ⟨hnone, fun c c' hc hc' => ?_, fun hlegible => ?_⟩
    · obtain ⟨-, hheld⟩ := ifReadable_eq_ok_iff.mp (houtcome.symm.trans hc)
      obtain ⟨-, hheld'⟩ := ifReadable_eq_ok_iff.mp (houtcome'.symm.trans hc')
      rw [Option.some.inj hheld, Option.some.inj hheld', hsame]
    · have hcomments := hlegible text tree rfl hreads
      refine ⟨_, _, hreads.buildComment_of_legible hcomments context listener,
        hreads.buildComment_of_legible hcomments context' listener', ?_⟩
      rw [Option.map_some, Option.map_some, hsame]

theorem buildComment_outline_numberedKeyword :
    ∃ c c', (buildComment (some numberedKeyword) {} .recorder).result = .ok c ∧
      (buildComment (some numberedKeyword) { rewriteLangwords := true } .absent).result = .ok c' ∧
      c.map Comment.outline = c'.map Comment.outline :=
  (buildComment_outline (some numberedKeyword) {} { rewriteLangwords := true } .recorder
    .absent).2.2 commentsLegible_numberedKeyword

/-- The keyword in `overlongKeyword` is all that keeps its comment from being built. -/
theorem buildComment_outline_overlongKeyword :
    (buildComment (some overlongKeyword) {} .absent).result = .error ⟨Text.digitLimit + 1⟩ ∧
      ∃ c, (buildComment (some overlongKeyword) { rewriteLangwords := true } .absent).result
        = .ok (some c) := by
  obtain ⟨hkept, hreplaced⟩ :=
    buildComment_overlongKeyword (Nat.lt_succ_self Text.digitLimit) none none none .absent
  exact ⟨hkept {} rfl, hreplaced { rewriteLangwords := true } rfl rfl rfl⟩

end DocComment
