import DocComment.Comment
import DocComment.Proofs.Markup.MovedTree

/-!
# Resolution of moved trees

Resolution looks at tags and attributes only, and a placeholder stands on one line without a place.
So a tree with moved lines is resolved to the same tree with moved lines, with the same reports and
notices (`resolved_moved`): each candidate takes both trees one step further alike, and so does a
whole pass.
-/

namespace DocComment

open Markup Text

variable {d : Nat}

/-! ## Candidates -/

/-- A path with an element, and the same path with the element of the moved tree. -/
def MovedAt (d : Nat) (found found' : Path × Element) : Prop :=
  found'.1 = found.1 ∧ found.2.toNode.Moved d found'.2.toNode

/-- The head of a moved element is the same, its place moves, and so does its content. -/
lemma moved_of_toNode {e e' : Element} (h : e.toNode.Moved d e'.toNode) :
    e'.tag = e.tag ∧ e'.attrs = e.attrs ∧ e'.place = e.place.map (·.moved d) ∧
      List.Forall₂ (Node.Moved d) e.content e'.content := by
  obtain ⟨tag, attrs, place, content⟩ := e
  obtain ⟨tag', attrs', place', content'⟩ := e'
  cases h with
  | element _ _ hlength hcontent => exact ⟨rfl, rfl, rfl, forall₂_moved hlength hcontent⟩

lemma attr?_moved {e e' : Element} (h : e.toNode.Moved d e'.toNode) (name : String) :
    e'.attr? name = e.attr? name := by
  rw [Element.attr?, Element.attr?, (moved_of_toNode h).2.1]

/-- The elements of nodes that correspond, each with its path, correspond. -/
lemma contentPaths_moved {content content' : List Node}
    (h : List.Forall₂ (fun n n' => List.Forall₂ (MovedAt d) (elementPaths n) (elementPaths n'))
      content content') (i : Nat) :
    List.Forall₂ (MovedAt d) (contentPaths i content) (contentPaths i content') := by
  induction h generalizing i with
  | nil => exact .nil
  | cons hn _ ih =>
    rw [contentPaths, contentPaths]
    refine List.rel_append ?_ (ih (i + 1))
    refine List.forall₂_map_left_iff.mpr (List.forall₂_map_right_iff.mpr (hn.imp ?_))
    rintro ⟨path, e⟩ ⟨path', e'⟩ ⟨hpath, he⟩
    exact ⟨congrArg (i :: ·) hpath, he⟩

/-- The elements of a moved tree stand at the same paths. -/
lemma elementPaths_moved {n n' : Node} (h : n.Moved d n') :
    List.Forall₂ (MovedAt d) (elementPaths n) (elementPaths n') := by
  induction h with
  | text => exact .nil
  | comment => exact .nil
  | element htag hattrs hlength hcontent ih =>
    rw [elementPaths, elementPaths]
    refine .cons ⟨rfl, .element htag hattrs hlength hcontent⟩ ?_
    exact contentPaths_moved (List.forall₂_iff_zip.mpr ⟨hlength, fun hpair => ih _ hpair⟩) 0

/-- What is picked by path, tag and attributes is picked alike. -/
lemma filterMap_elementPaths_moved {α : Type} {root root' : Element}
    (h : root.toNode.Moved d root'.toNode) {pick : Path × Element → Option α}
    (hpick : ∀ found found', MovedAt d found found' → pick found' = pick found) :
    (elementPaths root'.toNode).filterMap pick = (elementPaths root.toNode).filterMap pick := by
  have hpaths := elementPaths_moved h
  generalize elementPaths root.toNode = found at hpaths ⊢
  generalize elementPaths root'.toNode = found' at hpaths ⊢
  induction hpaths with
  | nil => rfl
  | cons hfirst _ ih => rw [List.filterMap_cons, List.filterMap_cons, hpick _ _ hfirst, ih]

/-- The candidates stand at the same paths in trees that moved. -/
lemma crefCandidates_moved (selector : String) {root root' : Element}
    (h : root.toNode.Moved d root'.toNode) :
    crefCandidates selector root' = crefCandidates selector root := by
  refine filterMap_elementPaths_moved h ?_
  intro found found' ⟨hpath, he⟩
  obtain ⟨htag, -⟩ := moved_of_toNode he
  have hselects : selects selector found'.2 = selects selector found.2 := by
    rw [selects, selects, htag]
  simp only [hselects, attr?_moved he, hpath]

lemma langwordCandidates_moved {root root' : Element} (h : root.toNode.Moved d root'.toNode) :
    langwordCandidates root' = langwordCandidates root := by
  refine filterMap_elementPaths_moved h ?_
  intro found found' ⟨hpath, he⟩
  obtain ⟨htag, -⟩ := moved_of_toNode he
  simp only [htag, attr?_moved he, hpath]

/-! ## Replacing -/

lemma forall₂_modify {α β : Type} {R : α → β → Prop} {f : α → α} {g : β → β} {l : List α}
    {l' : List β} (h : List.Forall₂ R l l') (hfg : ∀ a b, R a b → R (f a) (g b)) (i : Nat) :
    List.Forall₂ R (l.modify i f) (l'.modify i g) := by
  induction h generalizing i with
  | nil => simp
  | cons hab hrest ih =>
    cases i with
    | zero => exact .cons (hfg _ _ hab) hrest
    | succ i => exact .cons hab (ih i)

/-- Replacing a node of a moved tree replaces the same node. -/
lemma replaceAt_moved {n n' new new' : Node} (h : n.Moved d n') (hnew : new.Moved d new')
    (path : Path) : (replaceAt path new n).Moved d (replaceAt path new' n') := by
  induction path generalizing n n' with
  | nil => exact hnew
  | cons i path ih =>
    cases h with
    | text h => exact .text h
    | comment hvalue => exact .comment hvalue
    | element htag hattrs hlength hcontent =>
      refine .of_forall₂ htag hattrs ?_
      exact forall₂_modify (forall₂_moved hlength hcontent) (fun _ _ hn => ih hn) i

/-- Replacing the same node in trees that moved leaves trees that moved. -/
lemma replaceIn_moved {root root' : Element} (h : root.toNode.Moved d root'.toNode)
    {new : Node} (hnew : new.Moved d new) (path : Path) :
    (replaceIn root path new).toNode.Moved d (replaceIn root' path new).toNode := by
  have hreplaced := replaceAt_moved h hnew path
  rw [replaceIn, replaceIn]
  generalize replaceAt path new root.toNode = n at hreplaced
  generalize replaceAt path new root'.toNode = n' at hreplaced
  cases hreplaced with
  | text => exact h
  | comment => exact h
  | element htag hattrs hlength hcontent => exact .element htag hattrs hlength hcontent

/-- A placeholder stands on one line, wherever that is. -/
lemma placeholder_moved {tag : String} {attrs : Attributes} (htag : tag.toList.any isBreak = false)
    (hnames : ∀ a ∈ attrs, a.1.toList.any isBreak = false) :
    (Element.mk tag attrs none []).toNode.Moved d (Element.mk tag attrs none []).toNode := by
  have hattrs := unbroken_renderAttrs fun a ha => eq_false_of_any (hnames a ha)
  exact .of_forall₂ (eq_false_of_any htag) hattrs .nil

lemma reference_moved (dialect : Dialect) (identifier : String) :
    (dialect.reference identifier).toNode.Moved d (dialect.reference identifier).toNode := by
  refine placeholder_moved (by decide) ?_
  simp only [List.forall_mem_cons]
  decide

lemma keywordReference_moved {dialect : Dialect} {word : String} {placeholder : Element}
    (h : dialect.keywordReference? word = some placeholder) :
    placeholder.toNode.Moved d placeholder.toNode := by
  obtain ⟨text, -, rfl⟩ := Option.map_eq_some_iff.mp h
  refine placeholder_moved (by decide) ?_
  simp only [List.forall_mem_cons]
  decide

/-! ## Passes -/

/-- Two passes that have come equally far, the second over the tree with moved lines. -/
structure Progress.Moved (d : Nat) (p p' : Progress) : Prop where
  root : p.root.toNode.Moved d p'.root.toNode
  reports : p'.reports = p.reports
  notices : p'.notices = p.notices

namespace Progress.Moved

variable {p p' : Progress}

lemma notice (h : Progress.Moved d p p') (n : Notice) :
    Progress.Moved d (p.notice n) (p'.notice n) :=
  ⟨h.root, h.reports, congrArg (· ++ [n]) h.notices⟩

lemma report (h : Progress.Moved d p p') (identifier : String) :
    Progress.Moved d (p.report identifier) (p'.report identifier) :=
  ⟨h.root, congrArg (· ++ [identifier]) h.reports, h.notices⟩

lemma replace (h : Progress.Moved d p p') (path : Path) {new : Element}
    (hnew : new.toNode.Moved d new.toNode) :
    Progress.Moved d (p.replace path new) (p'.replace path new) := by
  rw [Progress.replace, Progress.replace]
  split
  · exact h
  · exact ⟨replaceIn_moved h.root hnew path, h.reports, h.notices⟩

end Progress.Moved

/-- One candidate after the other, both passes go on alike. -/
lemma resolveCandidates_moved {selector : String} {listener : Listener} {dialect : Dialect}
    {detail : String} (candidates : List (Path × String)) {p p' : Progress}
    (h : Progress.Moved d p p') :
    Progress.Moved d (resolveCandidates selector listener dialect detail candidates p)
      (resolveCandidates selector listener dialect detail candidates p') := by
  induction candidates generalizing p p' with
  | nil => exact h
  | cons candidate rest ih =>
    obtain ⟨path, value⟩ := candidate
    rw [resolveCandidates, resolveCandidates]
    split
    · exact ih (h.notice _)
    · rename_i id _
      have hreplaced := h.replace path (reference_moved dialect id.identifier)
      split
      · exact ih hreplaced
      · have hreported := hreplaced.report id.identifier
        dsimp only
        rw [hreported.reports]
        split
        · exact hreported.notice _
        · exact ih hreported

/-- Keywords give way alike in trees that moved. -/
lemma rewriteCandidates_moved {dialect : Dialect} (candidates : List (Path × String))
    {p p' : Progress} (h : Progress.Moved d p p') :
    Progress.Moved d (rewriteCandidates dialect candidates p)
      (rewriteCandidates dialect candidates p') := by
  induction candidates generalizing p p' with
  | nil => exact h
  | cons candidate rest ih =>
    obtain ⟨path, word⟩ := candidate
    rw [rewriteCandidates, rewriteCandidates]
    split
    · exact ih h
    · split
      · rename_i placeholder hplaceholder
        exact ih (h.replace path (keywordReference_moved hplaceholder))
      · exact h.notice _

lemma resolveCrefs_moved (selector : String) (listener : Listener) (dialect : Dialect)
    (source : Option Context) {p p' : Progress} (h : Progress.Moved d p p') :
    Progress.Moved d (resolveCrefs selector listener dialect source p)
      (resolveCrefs selector listener dialect source p') := by
  rw [resolveCrefs, resolveCrefs, crefCandidates_moved selector h.root]
  exact resolveCandidates_moved _ h

/-- A tree with moved lines is resolved to the same tree with moved lines, whoever listens. -/
theorem resolved_moved (context : Context) (listener : Listener) {root root' : Element}
    (h : root.toNode.Moved d root'.toNode) :
    Progress.Moved d (resolved context listener root) (resolved context listener root') := by
  rw [resolved, resolved]
  split
  · exact ⟨h, rfl, rfl⟩
  · have hstart : Progress.Moved d { root, notices := (contextDialect context).2 }
        { root := root', notices := (contextDialect context).2 } := ⟨h, rfl, rfl⟩
    have hsees := resolveCrefs_moved "see" listener (contextDialect context).1 (some context) hstart
    have hpasses :=
      resolveCrefs_moved "seealso" listener (contextDialect context).1 (some context) hsees
    rw [resolveReferences, resolveReferences]
    dsimp only
    split
    · rw [rewriteLangwords, rewriteLangwords, langwordCandidates_moved hpasses.root]
      exact rewriteCandidates_moved _ hpasses
    · exact hpasses

end DocComment
