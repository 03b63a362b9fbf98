import DocComment.Comment
import DocComment.Proofs.Resolution.Passes
import Mathlib.Data.List.Perm.Basic

/-!
# Which references are discovered

The passes over `see` and over `seealso` run one after the other, the second on the tree that the
first has rewritten. Whatever stands inside a `see` that has become a placeholder is gone by then.

* `perm_filterMap_rewrite` splits what a choice picks in a tree into what it still picks after a
  rewriting and what the rewriting hid.
* `buildComment_reports_perm_iff`: every reference is reported exactly once, unless a `seealso`
  stands inside a `see` that gives way; then exactly the hidden ones are missing.
-/

namespace DocComment

open Markup

/-! ## What a rewriting hides -/

mutual

/-- The elements of a node that a rewriting from the top down drops without looking at them: those
inside an element that gives way to its substitute. -/
def Markup.Node.hidden (gives : Element → Bool) (depth : Nat) : Node → List Element
  | .text _ => []
  | .comment _ => []
  | .element tag attrs place content =>
    if 2 ≤ depth ∧ gives ⟨tag, attrs, place, content⟩ then elementsOf content
    else hiddenIn gives (depth + 1) content

/-- The elements of a content that a rewriting from the top down drops. -/
def hiddenIn (gives : Element → Bool) (depth : Nat) : List Node → List Element
  | [] => []
  | n :: rest => n.hidden gives depth ++ hiddenIn gives depth rest

end

/-- The elements of a tree that a rewriting from the top down drops. -/
def Markup.Element.hidden (gives : Element → Bool) (root : Element) : List Element :=
  hiddenIn gives 1 root.content

section

variable {α : Type} {gives : Element → Bool} {pick : Element → Option Element}
  {f : Element → Option α}

private lemma perm_filterMap_cons {g : Element → Option α} {e e' : Element}
    {l l' : List Element} {m : List α} (he : f e = g e')
    (h : (l.filterMap f).Perm (l'.filterMap g ++ m)) :
    ((e :: l).filterMap f).Perm ((e' :: l').filterMap g ++ m) := by
  cases hpicked : f e with
  | none =>
    rw [List.filterMap_cons_none hpicked, List.filterMap_cons_none (he ▸ hpicked)]
    exact h
  | some a =>
    rw [List.filterMap_cons_some hpicked, List.filterMap_cons_some (he ▸ hpicked)]
    exact h.cons a

mutual

/-- What a choice picks in a node is what it picks after a rewriting and in what was hidden, if it
looks at tags and attributes only and picks neither what gives way nor its substitute. -/
theorem perm_filterMap_rewrite_node
    (hgives : ∀ e, gives e = (pick e).isSome)
    (hcontent : ∀ tag attrs place content content',
      f ⟨tag, attrs, place, content⟩ = f ⟨tag, attrs, place, content'⟩)
    (hpick : ∀ e new, pick e = some new → f e = none ∧ f new = none ∧ new.content = [])
    (depth : Nat) (n : Node) :
    (n.elements.filterMap f).Perm
      ((n.rewrite pick depth).elements.filterMap f ++ (n.hidden gives depth).filterMap f) := by
  match n with
  | .text _ => exact List.Perm.refl _
  | .comment _ => exact List.Perm.refl _
  | .element tag attrs place content =>
    have ih := perm_filterMap_rewrite_content hgives hcontent hpick (depth + 1) content
    rw [Node.elements, Node.rewrite, Node.hidden, hgives]
    by_cases hdeep : 2 ≤ depth
    · cases hnew : pick ⟨tag, attrs, place, content⟩ with
      | some new =>
        -- the element gives way, and all that it holds is hidden
        obtain ⟨hold, hsub, hleaf⟩ := hpick _ _ hnew
        have hgone : new.toNode.elements.filterMap f = [] := by
          rw [Element.toNode, Node.elements, hleaf, List.filterMap_cons_none]
          · rfl
          · rw [← hsub, ← hleaf]
        simp [hdeep, hold, hgone]
      | none =>
        simp only [hdeep, if_true, Option.isSome_none, Bool.false_eq_true, and_false, if_false,
          Node.elements]
        exact perm_filterMap_cons (hcontent _ _ _ _ _) ih
    · simp only [hdeep, if_false, false_and, Node.elements]
      exact perm_filterMap_cons (hcontent _ _ _ _ _) ih

/-- In a content the same holds, node by node. -/
theorem perm_filterMap_rewrite_content
    (hgives : ∀ e, gives e = (pick e).isSome)
    (hcontent : ∀ tag attrs place content content',
      f ⟨tag, attrs, place, content⟩ = f ⟨tag, attrs, place, content'⟩)
    (hpick : ∀ e new, pick e = some new → f e = none ∧ f new = none ∧ new.content = [])
    (depth : Nat) (content : List Node) :
    ((elementsOf content).filterMap f).Perm
      ((elementsOf (rewriteContent pick depth content)).filterMap f
        ++ (hiddenIn gives depth content).filterMap f) := by
  match content with
  | [] => exact List.Perm.refl _
  | n :: rest =>
    have hn := perm_filterMap_rewrite_node hgives hcontent hpick depth n
    have hrest := perm_filterMap_rewrite_content hgives hcontent hpick depth rest
    rw [elementsOf, rewriteContent, elementsOf, hiddenIn, List.filterMap_append,
      List.filterMap_append, List.filterMap_append]
    exact (hn.append hrest).trans (by
      rw [List.append_assoc, List.append_assoc]
      refine List.Perm.append_left _ ?_
      rw [← List.append_assoc, ← List.append_assoc]
      exact List.Perm.append_right _ List.perm_append_comm)

end

/-- What a choice picks in a tree is what it picks after a rewriting and in what was hidden. -/
theorem perm_filterMap_rewrite
    (hgives : ∀ e, gives e = (pick e).isSome)
    (hcontent : ∀ tag attrs place content content',
      f ⟨tag, attrs, place, content⟩ = f ⟨tag, attrs, place, content'⟩)
    (hpick : ∀ e new, pick e = some new → f e = none ∧ f new = none ∧ new.content = [])
    (root : Element) :
    (root.elements.filterMap f).Perm
      ((root.rewrite pick).elements.filterMap f ++ (root.hidden gives).filterMap f) :=
  perm_filterMap_cons (hcontent _ _ _ _ _)
    (perm_filterMap_rewrite_content hgives hcontent hpick 1 root.content)

end

/-! ## Where the hidden elements stand -/

mutual

/-- What an element of a node holds, the node holds. -/
theorem mem_elements_trans {n : Node} {outer inner : Element} (houter : outer ∈ n.elements)
    (hinner : inner ∈ elementsOf outer.content) : inner ∈ n.elements := by
  match n with
  | .text _ => exact absurd houter (by simp [Node.elements])
  | .comment _ => exact absurd houter (by simp [Node.elements])
  | .element tag attrs place content =>
    rw [Node.elements, List.mem_cons] at houter ⊢
    right
    rcases houter with rfl | houter
    · exact hinner
    · exact mem_elementsOf_trans houter hinner

/-- An element of an element is an element of what that stands in. -/
theorem mem_elementsOf_trans {content : List Node} {outer inner : Element}
    (houter : outer ∈ elementsOf content) (hinner : inner ∈ elementsOf outer.content) :
    inner ∈ elementsOf content := by
  match content with
  | [] => exact absurd houter (by simp [elementsOf])
  | n :: rest =>
    rw [elementsOf, List.mem_append] at houter ⊢
    rcases houter with houter | houter
    · exact Or.inl (mem_elements_trans houter hinner)
    · exact Or.inr (mem_elementsOf_trans houter hinner)

end

/-- An element that stands deep enough to give way, does so, and holds the element `inner`. -/
def Hides (gives : Element → Bool) (depth : Nat) (found : List (Path × Element))
    (inner : Element) : Prop :=
  ∃ path outer, (path, outer) ∈ found ∧ 2 ≤ depth + path.length ∧ gives outer ∧
    inner ∈ elementsOf outer.content

mutual

/-- An element is hidden exactly if it stands inside one that gives way. -/
theorem mem_hidden_iff (gives : Element → Bool) (depth : Nat) (n : Node)
    (inner : Element) :
    inner ∈ n.hidden gives depth ↔ Hides gives depth (elementPaths n) inner := by
  match n with
  | .text _ => simp [Node.hidden, Hides, elementPaths]
  | .comment _ => simp [Node.hidden, Hides, elementPaths]
  | .element tag attrs place content =>
    have ih := mem_hiddenIn_iff gives depth 0 content inner
    rw [Node.hidden, elementPaths]
    by_cases hself : 2 ≤ depth ∧ gives ⟨tag, attrs, place, content⟩
    · rw [if_pos hself]
      constructor
      · intro hinner
        exact ⟨[], _, List.mem_cons_self, hself.1, hself.2, hinner⟩
      · rintro ⟨path, outer, hmem, -, -, hinner⟩
        rcases List.mem_cons.mp hmem with heq | hmem
        · obtain ⟨-, rfl⟩ := Prod.mk.inj heq
          exact hinner
        · -- an element inside that gives way holds nothing that this one does not hold
          have houter : outer ∈ elementsOf content := by
            rw [← contentPaths_snd 0 content]
            exact List.mem_map_of_mem hmem
          exact mem_elementsOf_trans houter hinner
    · rw [if_neg hself, ih]
      constructor
      · rintro ⟨path, outer, hmem, hrest⟩
        exact ⟨path, outer, List.mem_cons_of_mem _ hmem, hrest⟩
      · rintro ⟨path, outer, hmem, hdeep, hgives, hinner⟩
        rcases List.mem_cons.mp hmem with heq | hmem
        · obtain ⟨rfl, rfl⟩ := Prod.mk.inj heq
          exact absurd ⟨hdeep, hgives⟩ hself
        · exact ⟨path, outer, hmem, hdeep, hgives, hinner⟩

/-- Paths into a content are one step longer than the depth of its nodes says. -/
theorem mem_hiddenIn_iff (gives : Element → Bool) (depth i : Nat) (content : List Node)
    (inner : Element) :
    inner ∈ hiddenIn gives (depth + 1) content
      ↔ Hides gives depth (contentPaths i content) inner := by
  match content with
  | [] => simp [hiddenIn, Hides, contentPaths]
  | n :: rest =>
    have hn := mem_hidden_iff gives (depth + 1) n inner
    have hrest := mem_hiddenIn_iff gives depth (i + 1) rest inner
    rw [hiddenIn, List.mem_append, hn, hrest, contentPaths]
    constructor
    · rintro (⟨path, outer, hmem, hdeep, hmore⟩ | ⟨path, outer, hmem, hmore⟩)
      · refine ⟨i :: path, outer, List.mem_append_left _ ?_, ?_, hmore⟩
        · exact List.mem_map_of_mem (f := fun (p, e) => (i :: p, e)) hmem
        · rw [List.length_cons]
          omega
      · exact ⟨path, outer, List.mem_append_right _ hmem, hmore⟩
    · rintro ⟨path, outer, hmem, hdeep, hmore⟩
      rcases List.mem_append.mp hmem with hmem | hmem
      · obtain ⟨⟨path', outer'⟩, hmem', heq⟩ := List.mem_map.mp hmem
        obtain ⟨rfl, rfl⟩ := Prod.mk.inj heq
        rw [List.length_cons] at hdeep
        exact Or.inl ⟨path', outer', hmem', by omega, hmore⟩
      · exact Or.inr ⟨path, outer, hmem, hdeep, hmore⟩

end

/-! ## The references of a comment -/

/-- The identifier that a `see` or a `seealso` refers to. -/
def referenceIdentifier? (e : Element) : Option String :=
  if e.tag = "see" ∨ e.tag = "seealso" then
    ((e.attr? "cref").bind CommentId.ofString?).map CommentId.identifier
  else none

/-- Whether an element is a `see` that refers to a comment id. -/
def isSeeReference (e : Element) : Bool :=
  (crefId? "see" e).isSome

/-- Whether a `seealso` that refers to a comment id stands inside a `see` that does, which is not
the root or a child of the root. -/
def HidesReference (root : Element) : Prop :=
  ∃ inner, Hides isSeeReference 0 (elementPaths root.toNode) inner ∧
    (crefId? "seealso" inner).isSome

/-- The identifiers that the `seealso` elements inside such `see` elements refer to. -/
def hiddenIdentifiers (root : Element) : List String :=
  (root.hidden isSeeReference).filterMap (crefIdentifier? "seealso")

lemma selects_of_ne_star (selector : String) (hselector : selector ≠ "*") (e : Element) :
    selects selector e = (e.tag == selector) := by
  rw [selects, beq_false_of_ne hselector, Bool.false_or]

/-- References to comment ids are those of `see` elements and those of `seealso` elements. -/
lemma perm_referenceIdentifier (elements : List Element) :
    (elements.filterMap referenceIdentifier?).Perm
      (elements.filterMap (crefIdentifier? "see")
        ++ elements.filterMap (crefIdentifier? "seealso")) := by
  have hsee (e : Element) := selects_of_ne_star "see" (by decide) e
  have hseealso (e : Element) := selects_of_ne_star "seealso" (by decide) e
  induction elements with
  | nil => exact List.Perm.refl _
  | cons e rest ih =>
    by_cases htag : e.tag = "see"
    · have hfirst : crefIdentifier? "see" e = referenceIdentifier? e := by
        simp [crefIdentifier?, crefId?, referenceIdentifier?, hsee, htag]
      have hsecond : crefIdentifier? "seealso" e = none := by
        simp [crefIdentifier?, crefId?, hseealso, htag]
      rw [List.filterMap_cons_none hsecond]
      exact perm_filterMap_cons hfirst.symm ih
    · have hfirst : crefIdentifier? "see" e = none := by
        simp [crefIdentifier?, crefId?, hsee, htag]
      have hsecond : crefIdentifier? "seealso" e = referenceIdentifier? e := by
        by_cases hother : e.tag = "seealso" <;>
          simp [crefIdentifier?, crefId?, referenceIdentifier?, hseealso, htag, hother]
      rw [List.filterMap_cons_none hfirst]
      have hswapped := perm_filterMap_cons hsecond.symm (ih.trans List.perm_append_comm)
      exact hswapped.trans List.perm_append_comm

/-- The pass over `see` takes away exactly the hidden references to comment ids. -/
lemma perm_seealso_rewrite (dialect : Dialect) (root : Element) :
    (root.elements.filterMap (crefIdentifier? "seealso")).Perm
      ((root.rewrite (crefPlaceholder? "see" dialect)).elements.filterMap
          (crefIdentifier? "seealso") ++ hiddenIdentifiers root) := by
  have hsee (e : Element) := selects_of_ne_star "see" (by decide) e
  have hseealso (e : Element) := selects_of_ne_star "seealso" (by decide) e
  refine perm_filterMap_rewrite ?_ ?_ ?_ root
  · intro e
    rw [isSeeReference, crefPlaceholder?, crefIdentifier?, Option.isSome_map, Option.isSome_map]
  · intro tag attrs place content content'
    rfl
  · intro e new hnew
    -- neither a `see` nor the placeholder for it is a `seealso`
    obtain ⟨identifier, hidentifier, rfl⟩ := Option.map_eq_some_iff.mp hnew
    have htag : e.tag = "see" := by
      by_contra htag
      simp [crefIdentifier?, crefId?, hsee, htag] at hidentifier
    refine ⟨?_, ?_, rfl⟩
    · simp [crefIdentifier?, crefId?, hseealso, htag]
    · simp [crefIdentifier?, crefId?, hseealso, Dialect.reference]

/-- Something is hidden exactly if an identifier is. -/
lemma hiddenIdentifiers_eq_nil_iff (root : Element) :
    hiddenIdentifiers root = [] ↔ ¬ HidesReference root := by
  rw [hiddenIdentifiers, List.filterMap_eq_nil_iff, HidesReference, not_exists]
  refine forall_congr' fun inner => ?_
  have hroot : inner ∈ root.hidden isSeeReference
      ↔ Hides isSeeReference 0 (elementPaths root.toNode) inner :=
    mem_hidden_iff isSeeReference 0 root.toNode inner
  rw [hroot, not_and, crefIdentifier?, Option.map_eq_none_iff, Bool.not_eq_true,
    Option.isSome_eq_false_iff, Option.isNone_iff_eq_none]

/-! ## What building a comment reports -/

/-- Rewriting keywords reports nothing. -/
lemma rewriteLangwords_reports (dialect : Dialect) (p : Progress) :
    (rewriteLangwords dialect p).reports = p.reports := by
  rw [rewriteLangwords]
  generalize langwordCandidates p.root = candidates
  induction candidates generalizing p with
  | nil => rfl
  | cons candidate rest ih =>
    obtain ⟨path, word⟩ := candidate
    rw [rewriteCandidates]
    split
    · exact ih p
    · split
      · rw [ih, Progress.replace]
        split <;> rfl
      · rfl

/-- The reports of resolution: the `see` elements of the tree, then the `seealso` elements that the
pass over `see` has left. -/
lemma resolveReferences_reports {listener : Listener} (hlistener : listener.NeverRefuses)
    (context : Context) (root : Element) :
    (resolveReferences context listener root).reports
      = listener.hears (root.elements.filterMap (crefIdentifier? "see"))
        ++ listener.hears
          ((root.rewrite (crefPlaceholder? "see" (contextDialect context).1)).elements.filterMap
            (crefIdentifier? "seealso")) := by
  rw [resolveReferences]
  have hpasses (p : Progress) :
      (resolveCrefs "seealso" listener (contextDialect context).1 (some context)
        (resolveCrefs "see" listener (contextDialect context).1 (some context) p)).reports
      = p.reports ++ listener.hears (p.root.elements.filterMap (crefIdentifier? "see"))
        ++ listener.hears
          ((p.root.rewrite (crefPlaceholder? "see" (contextDialect context).1)).elements.filterMap
            (crefIdentifier? "seealso")) := by
    rw [resolveCrefs_reports hlistener, resolveCrefs_reports hlistener,
      resolveCrefs_root hlistener]
  dsimp only
  split
  · rw [rewriteLangwords_reports, hpasses]
    rfl
  · rw [hpasses]
    rfl

section

variable {raw : String} {context : Context} {listener : Listener}

/-- A comment is built only from a text that is neither white nor the compiler's marker and that can
be read. -/
lemma accepted_of_isSome (h : (buildComment (some raw) context listener).comment.isSome) :
    Text.allBlank raw.toList = false ∧ malformedMarker.toList.isPrefixOf raw.toList = false ∧
      ∃ tree, parse raw = .ok tree := by
  rw [buildComment] at h
  dsimp only at h
  split at h
  · cases h
  · rename_i hblank
    split at h
    · cases h
    · rename_i hmarker
      cases hparse : parse raw with
      | error e => rw [hparse] at h; cases h
      | ok tree => exact ⟨Bool.of_not_eq_true hblank, Bool.of_not_eq_true hmarker, tree, rfl⟩

/-- From any such text a comment is built, unless a number in it has too many digits. -/
lemma buildComment_of_parse {tree : Tree} (hblank : Text.allBlank raw.toList = false)
    (hmarker : malformedMarker.toList.isPrefixOf raw.toList = false)
    (hparse : parse raw = .ok tree) :
    buildComment (some raw) context listener =
      let p := resolved context listener tree.root
      let reading := Comment.ofTree { tree with root := p.root } context
      { result := reading.result.map some
        reports := p.reports
        notices := p.notices ++ reading.notices } := by
  rw [buildComment, hblank, hmarker, hparse]
  rfl

/-- A comment that is built comes from the tree of its text after resolution. -/
lemma buildComment_of_isSome (h : (buildComment (some raw) context listener).comment.isSome) :
    ∃ tree, parse raw = .ok tree ∧
      (buildComment (some raw) context listener).reports
        = (resolved context listener tree.root).reports := by
  obtain ⟨hblank, hmarker, tree, hparse⟩ := accepted_of_isSome h
  exact ⟨tree, hparse, by rw [buildComment_of_parse hblank hmarker hparse]⟩

end

/-- **Which references are reported.** Building a comment with a listener that never refuses reports
each reference of the tree at most once, and the hidden ones are exactly those that it does not
report. So every reference is reported once if and only if no `seealso` is hidden in a `see`. -/
theorem buildComment_reports_perm_iff (raw : String) (context : Context) (refuses : Nat → Bool)
    (hresolve : context.preserveRawReferences = false) (hnever : ∀ count, refuses count = false)
    (hbuilt : (buildComment (some raw) context (.recording refuses)).comment.isSome) :
    ∃ tree, parse raw = .ok tree ∧
      (tree.root.elements.filterMap referenceIdentifier?).Perm
        ((buildComment (some raw) context (.recording refuses)).reports
          ++ hiddenIdentifiers tree.root) ∧
      ((buildComment (some raw) context (.recording refuses)).reports.Perm
          (tree.root.elements.filterMap referenceIdentifier?)
        ↔ ¬ HidesReference tree.root) := by
  have hlistener : (Listener.recording refuses).NeverRefuses := hnever
  obtain ⟨tree, hparse, hreports⟩ := buildComment_of_isSome hbuilt
  have hresolved : (buildComment (some raw) context (.recording refuses)).reports
      = tree.root.elements.filterMap (crefIdentifier? "see")
        ++ (tree.root.rewrite
              (crefPlaceholder? "see" (contextDialect context).1)).elements.filterMap
            (crefIdentifier? "seealso") := by
    rw [hreports, resolved, hresolve, if_neg Bool.false_ne_true,
      resolveReferences_reports hlistener]
    rfl
  have hall : (tree.root.elements.filterMap referenceIdentifier?).Perm
      ((buildComment (some raw) context (.recording refuses)).reports
        ++ hiddenIdentifiers tree.root) := by
    rw [hresolved, List.append_assoc]
    exact (perm_referenceIdentifier _).trans
      ((perm_seealso_rewrite (contextDialect context).1 tree.root).append_left _)
  refine ⟨tree, hparse, hall, ?_⟩
  rw [← hiddenIdentifiers_eq_nil_iff]
  constructor
  · intro hperm
    have hlength := (hperm.trans hall).length_eq
    rw [List.length_append] at hlength
    exact List.eq_nil_of_length_eq_zero (by omega)
  · intro hnil
    rw [hnil, List.append_nil] at hall
    exact hall.symm

/-- A `seealso` inside a `see` inside a summary. -/
def seealsoInSee : String :=
  "<summary><see cref=\"T:Outer\"><seealso cref=\"T:Inner\"/></see></summary>"

/-- The inner reference is hidden by the outer one, so it is not reported. -/
theorem buildComment_reports_perm_iff_seealsoInSee :
    (buildComment (some seealsoInSee) {} .recorder).comment.isSome ∧
      ∃ tree, parse seealsoInSee = .ok tree ∧
        (tree.root.elements.filterMap referenceIdentifier?).Perm
          ((buildComment (some seealsoInSee) {} .recorder).reports
            ++ hiddenIdentifiers tree.root) ∧
        ((buildComment (some seealsoInSee) {} .recorder).reports.Perm
            (tree.root.elements.filterMap referenceIdentifier?)
          ↔ ¬ HidesReference tree.root) := by
  have hbuilt : (buildComment (some seealsoInSee) {} .recorder).comment.isSome := by
    decide +kernel
  exact ⟨hbuilt, buildComment_reports_perm_iff seealsoInSee {} (fun _ => false) rfl
    (fun _ => rfl) hbuilt⟩

/-- The inner reference of `seealsoInSee` is never reported. -/
theorem buildComment_reports_seealsoInSee :
    (buildComment (some seealsoInSee) {} .recorder).comment.isSome ∧
      ∃ tree, parse seealsoInSee = .ok tree ∧
        tree.root.elements.filterMap referenceIdentifier? = ["Outer", "Inner"] ∧
        (buildComment (some seealsoInSee) {} .recorder).reports = ["Outer"] ∧
        ¬ (buildComment (some seealsoInSee) {} .recorder).reports.Perm
            (tree.root.elements.filterMap referenceIdentifier?) := by
  have hbuilt : (buildComment (some seealsoInSee) {} .recorder).comment.isSome := by
    decide +kernel
  have hreports : (buildComment (some seealsoInSee) {} .recorder).reports = ["Outer"] := by
    decide +kernel
  have hread : (parse seealsoInSee).toOption.map
      (·.root.elements.filterMap referenceIdentifier?) = some ["Outer", "Inner"] := by
    decide +kernel
  obtain ⟨tree, hparse, -⟩ := buildComment_of_isSome hbuilt
  rw [hparse] at hread
  have hreferences : tree.root.elements.filterMap referenceIdentifier? = ["Outer", "Inner"] :=
    Option.some.inj hread
  refine ⟨hbuilt, tree, hparse, hreferences, hreports, ?_⟩
  rw [hreferences, hreports]
  decide

end DocComment
