import DocComment.Proofs.Resolution.TopDown

/-!
# What a pass over cross-references does

A pass works through the candidates that it collected at its start. For a listener that never
refuses, its three effects come apart:

* on the tree, it is a rewriting from the top down (`toNode_resolveCandidates`);
* on the listener, it is one report for each candidate that is a comment id;
* on the notices, it is one notice for each candidate that is none.

The candidates come in document order, so reports and notices do (`elementPaths_snd`).
-/

namespace DocComment

open Markup

/-! ## What a pass is about -/

/-- The comment id that an element refers to, if a pass selects the element. -/
def crefId? (selector : String) (e : Element) : Option CommentId :=
  if selects selector e then (e.attr? "cref").bind CommentId.ofString? else none

/-- The identifier that an element refers to, if a pass selects the element. -/
def crefIdentifier? (selector : String) (e : Element) : Option String :=
  (crefId? selector e).map CommentId.identifier

/-- The placeholder for a selected element that refers to a comment id. -/
def crefPlaceholder? (selector : String) (dialect : Dialect) (e : Element) : Option Element :=
  (crefIdentifier? selector e).map dialect.reference

/-- The value of a selected element that is given as a reference and is no comment id. -/
def invalidCref? (selector : String) (e : Element) : Option String :=
  if selects selector e then
    (e.attr? "cref").filter fun value => (CommentId.ofString? value).isNone
  else none

namespace Listener

/-- A listener that never refuses: nobody, or one that takes note and goes on. -/
def NeverRefuses : Listener → Prop
  | absent => True
  | recording refuses => ∀ count, refuses count = false

/-- What a listener takes note of when it is told identifiers. -/
def hears : Listener → List String → List String
  | absent, _ => []
  | recording _, identifiers => identifiers

lemma hears_nil (listener : Listener) : listener.hears [] = [] := by
  cases listener <;> rfl

lemma hears_append (listener : Listener) (told more : List String) :
    listener.hears (told ++ more) = listener.hears told ++ listener.hears more := by
  cases listener <;> rfl

end Listener

/-! ## One candidate -/

variable {selector detail : String} {listener : Listener} {dialect : Dialect}

/-- An invalid candidate is noticed, and the pass goes on. -/
lemma resolveCandidates_cons_invalid {value : String} (hvalue : CommentId.ofString? value = none)
    (path : Path) (rest : List (Path × String)) (p : Progress) :
    resolveCandidates selector listener dialect detail ((path, value) :: rest) p
      = resolveCandidates selector listener dialect detail rest
          (p.notice (.invalidCref value detail)) := by
  rw [resolveCandidates, hvalue]

lemma reports_replace (p : Progress) (path : Path) (new : Element) :
    (p.replace path new).reports = p.reports := by
  rw [Progress.replace]
  split <;> rfl

lemma notices_replace (p : Progress) (path : Path) (new : Element) :
    (p.replace path new).notices = p.notices := by
  rw [Progress.replace]
  split <;> rfl

/-- A valid candidate is replaced and reported, and the pass goes on. -/
lemma resolveCandidates_cons_valid (hlistener : listener.NeverRefuses) {value : String}
    {id : CommentId} (hvalue : CommentId.ofString? value = some id) (path : Path)
    (rest : List (Path × String)) (p : Progress) :
    resolveCandidates selector listener dialect detail ((path, value) :: rest) p
      = resolveCandidates selector listener dialect detail rest
          { p.replace path (dialect.reference id.identifier) with
            reports := p.reports ++ listener.hears [id.identifier] } := by
  rw [resolveCandidates, hvalue]
  cases listener with
  | absent =>
    simp only [Listener.hears, List.append_nil]
    rw [← reports_replace p path (dialect.reference id.identifier)]
  | recording refuses =>
    have hrefuses : ∀ count, refuses count = false := hlistener
    simp only [hrefuses, Bool.false_eq_true, if_false, Progress.report, reports_replace,
      Listener.hears]

lemma toNode_injective {e e' : Element} (h : e.toNode = e'.toNode) : e = e' := by
  obtain ⟨tag, attrs, place, content⟩ := e
  obtain ⟨tag', attrs', place', content'⟩ := e'
  obtain ⟨rfl, rfl, rfl, rfl⟩ := Node.element.inj h
  rfl

/-- On the tree as a node, replacing below the top level is replacing at the path. -/
lemma toNode_replace (p : Progress) (path : Path) (new : Element) :
    (p.replace path new).root.toNode
      = if isTopLevel path then p.root.toNode else replaceAt path new.toNode p.root.toNode := by
  rw [Progress.replace]
  by_cases htop : isTopLevel path
  · rw [if_pos htop, if_pos htop]
  · rw [if_neg htop, if_neg htop]
    cases path with
    | nil => exact absurd rfl htop
    | cons i path => rfl

/-! ## A run over candidates -/

/-- The replacements that candidates ask for: valid ones below the top level. -/
def candidateEdits (dialect : Dialect) (candidates : List (Path × String)) :
    List (Path × Element) :=
  candidates.filterMap fun (path, value) =>
    if isTopLevel path then none
    else (CommentId.ofString? value).map fun id => (path, dialect.reference id.identifier)

/-- The identifiers that candidates refer to. -/
def candidateIdentifiers (candidates : List (Path × String)) : List String :=
  candidates.filterMap fun (_, value) => (CommentId.ofString? value).map CommentId.identifier

/-- The values of the candidates that are no comment ids. -/
def invalidCandidates (candidates : List (Path × String)) : List String :=
  (candidates.map Prod.snd).filter fun value => (CommentId.ofString? value).isNone

/-- Working through candidates makes their replacements one after another. -/
lemma toNode_resolveCandidates (hlistener : listener.NeverRefuses)
    (candidates : List (Path × String)) (p : Progress) :
    (resolveCandidates selector listener dialect detail candidates p).root.toNode
      = replaceAll (candidateEdits dialect candidates) p.root.toNode := by
  induction candidates generalizing p with
  | nil => rfl
  | cons candidate rest ih =>
    obtain ⟨path, value⟩ := candidate
    cases hvalue : CommentId.ofString? value with
    | none =>
      rw [resolveCandidates_cons_invalid hvalue, ih]
      simp [candidateEdits, hvalue, Progress.notice]
    | some id =>
      rw [resolveCandidates_cons_valid hlistener hvalue, ih]
      show replaceAll _ (p.replace path (dialect.reference id.identifier)).root.toNode = _
      rw [toNode_replace]
      -- a valid candidate at the top level is reported but not replaced
      by_cases htop : isTopLevel path
      · simp [candidateEdits, htop]
      · simp [candidateEdits, hvalue, htop]

/-- Working through candidates reports the valid ones in order. -/
lemma reports_resolveCandidates (hlistener : listener.NeverRefuses)
    (candidates : List (Path × String)) (p : Progress) :
    (resolveCandidates selector listener dialect detail candidates p).reports
      = p.reports ++ listener.hears (candidateIdentifiers candidates) := by
  induction candidates generalizing p with
  | nil => rw [candidateIdentifiers, List.filterMap_nil, Listener.hears_nil, List.append_nil]; rfl
  | cons candidate rest ih =>
    obtain ⟨path, value⟩ := candidate
    cases hvalue : CommentId.ofString? value with
    | none =>
      rw [resolveCandidates_cons_invalid hvalue, ih]
      simp [candidateIdentifiers, hvalue, Progress.notice]
    | some id =>
      have hcons : candidateIdentifiers ((path, value) :: rest)
          = [id.identifier] ++ candidateIdentifiers rest := by
        simp [candidateIdentifiers, hvalue]
      rw [resolveCandidates_cons_valid hlistener hvalue, ih, hcons, Listener.hears_append,
        List.append_assoc]

/-- Working through candidates notices the invalid ones in order. -/
lemma notices_resolveCandidates (hlistener : listener.NeverRefuses)
    (candidates : List (Path × String)) (p : Progress) :
    (resolveCandidates selector listener dialect detail candidates p).notices
      = p.notices ++ (invalidCandidates candidates).map (Notice.invalidCref · detail) := by
  induction candidates generalizing p with
  | nil => exact (List.append_nil _).symm
  | cons candidate rest ih =>
    obtain ⟨path, value⟩ := candidate
    cases hvalue : CommentId.ofString? value with
    | none =>
      rw [resolveCandidates_cons_invalid hvalue, ih]
      simp [invalidCandidates, hvalue, Progress.notice]
    | some id =>
      rw [resolveCandidates_cons_valid hlistener hvalue, ih]
      simp [invalidCandidates, hvalue, notices_replace]

/-! ## The candidates of a tree -/

mutual

/-- The elements with their paths are the elements in document order. -/
theorem elementPaths_snd (n : Node) : (elementPaths n).map Prod.snd = n.elements := by
  match n with
  | .text _ => rfl
  | .comment _ => rfl
  | .element tag attrs place content =>
    rw [elementPaths, Node.elements, List.map_cons, contentPaths_snd 0 content]

/-- All elements of a content have a path, in document order. -/
theorem contentPaths_snd (i : Nat) (content : List Node) :
    (contentPaths i content).map Prod.snd = elementsOf content := by
  match content with
  | [] => rfl
  | n :: rest =>
    rw [contentPaths, elementsOf, List.map_append, List.map_map, contentPaths_snd (i + 1) rest,
      ← elementPaths_snd n]
    rfl

end

/-- What a choice picks among the elements with their paths, it picks among the elements. -/
lemma filterMap_elementPaths {α : Type} (root : Element) (pick : Element → Option α) :
    ((elementPaths root.toNode).filterMap fun (_, e) => pick e) = root.elements.filterMap pick := by
  have helements : root.elements = (elementPaths root.toNode).map Prod.snd :=
    (elementPaths_snd root.toNode).symm
  rw [helements, List.filterMap_map]
  rfl

/-- The candidates among elements with their paths. -/
def candidatesIn (selector : String) (found : List (Path × Element)) : List (Path × String) :=
  found.filterMap fun (path, e) =>
    if selects selector e then (e.attr? "cref").map (path, ·) else none

/-- Candidates refer to what the selected elements refer to, in the same order. -/
lemma candidateIdentifiers_candidatesIn (selector : String) (found : List (Path × Element)) :
    candidateIdentifiers (candidatesIn selector found)
      = found.filterMap fun (_, e) => crefIdentifier? selector e := by
  rw [candidateIdentifiers, candidatesIn, List.filterMap_filterMap]
  congr 1
  funext ⟨path, e⟩
  by_cases hselects : selects selector e
  · cases hcref : e.attr? "cref" <;> simp [crefIdentifier?, crefId?, hselects, hcref]
  · simp [crefIdentifier?, crefId?, hselects]

/-- The invalid candidates are the invalid values of the selected elements, in the same order. -/
lemma invalidCandidates_candidatesIn (selector : String) (found : List (Path × Element)) :
    invalidCandidates (candidatesIn selector found)
      = found.filterMap fun (_, e) => invalidCref? selector e := by
  rw [invalidCandidates, candidatesIn, List.map_filterMap, List.filter_filterMap]
  congr 1
  funext ⟨path, e⟩
  by_cases hselects : selects selector e
  · cases hcref : e.attr? "cref" <;> simp [invalidCref?, hselects, hcref]
  · simp [invalidCref?, hselects]

/-- Candidates ask for placeholders from depth two on. -/
lemma candidateEdits_candidatesIn (selector : String) (dialect : Dialect)
    (found : List (Path × Element)) :
    candidateEdits dialect (candidatesIn selector found)
      = editsIn (fromDepthTwo (crefPlaceholder? selector dialect) 0) found := by
  rw [candidateEdits, candidatesIn, List.filterMap_filterMap, editsIn]
  congr 1
  funext found
  obtain ⟨path, e⟩ := found
  -- the top level is what a path of at most one step leads to
  have htop : isTopLevel path = decide (¬ 2 ≤ path.length) := by
    rw [isTopLevel]
    simp
  by_cases hselects : selects selector e
  · cases hcref : e.attr? "cref" with
    | none => simp [fromDepthTwo, crefPlaceholder?, crefIdentifier?, crefId?, hselects, hcref]
    | some value =>
      by_cases hdeep : 2 ≤ path.length
      · simp [fromDepthTwo, crefPlaceholder?, crefIdentifier?, crefId?, hselects, hcref, htop,
          hdeep]
        rfl
      · simp [fromDepthTwo, hselects, htop, hdeep]
  · simp [fromDepthTwo, crefPlaceholder?, crefIdentifier?, crefId?, hselects]

/-- The candidates of a tree are those among its elements. -/
lemma crefCandidates_eq (selector : String) (root : Element) :
    crefCandidates selector root = candidatesIn selector (elementPaths root.toNode) := rfl

/-- Placeholders have no content, so a path into a replaced element leads nowhere. -/
lemma content_of_crefPlaceholder? {e new : Element}
    (h : crefPlaceholder? selector dialect e = some new) : new.content = [] := by
  obtain ⟨identifier, -, rfl⟩ := Option.map_eq_some_iff.mp h
  rfl

/-! ## A whole pass -/

/-- A pass rewrites the tree from the top down. -/
theorem resolveCrefs_root (hlistener : listener.NeverRefuses) (source : Option Context)
    (p : Progress) :
    (resolveCrefs selector listener dialect source p).root
      = p.root.rewrite (crefPlaceholder? selector dialect) := by
  apply toNode_injective
  rw [resolveCrefs, toNode_resolveCandidates hlistener, crefCandidates_eq,
    candidateEdits_candidatesIn]
  exact replaceAll_fromDepthTwo (fun _ _ => content_of_crefPlaceholder?) p.root

/-- A pass reports the identifiers of all selected elements that refer to a comment id. -/
theorem resolveCrefs_reports (hlistener : listener.NeverRefuses) (source : Option Context)
    (p : Progress) :
    (resolveCrefs selector listener dialect source p).reports
      = p.reports ++ listener.hears (p.root.elements.filterMap (crefIdentifier? selector)) := by
  rw [resolveCrefs, reports_resolveCandidates hlistener, crefCandidates_eq,
    candidateIdentifiers_candidatesIn, filterMap_elementPaths]

/-- A pass notices the selected elements that give a reference which is no comment id. -/
theorem resolveCrefs_notices (hlistener : listener.NeverRefuses) (source : Option Context)
    (p : Progress) :
    (resolveCrefs selector listener dialect source p).notices
      = p.notices ++ (p.root.elements.filterMap (invalidCref? selector)).map
          (Notice.invalidCref · ((source.map Context.describe).getD "")) := by
  rw [resolveCrefs, notices_resolveCandidates hlistener, crefCandidates_eq,
    invalidCandidates_candidatesIn, filterMap_elementPaths]

/-- **A pass is a top-down rewriting.** Working through stale candidates in a changing tree, a pass
whose listener never refuses leaves the tree that the recursion from the top down gives; it reports
every selected element that refers to a comment id, at any depth and inside replaced elements too,
and notices every selected element whose reference is none, both in the document order of the tree
that it was given. -/
theorem resolveCrefs_eq_topDown (selector : String) (listener : Listener) (dialect : Dialect)
    (source : Option Context) (p : Progress) (hlistener : listener.NeverRefuses) :
    resolveCrefs selector listener dialect source p
      = { root := p.root.rewrite (crefPlaceholder? selector dialect)
          reports :=
            p.reports ++ listener.hears (p.root.elements.filterMap (crefIdentifier? selector))
          notices := p.notices ++ (p.root.elements.filterMap (invalidCref? selector)).map
            (Notice.invalidCref · ((source.map Context.describe).getD "")) } := by
  rw [← resolveCrefs_root hlistener source p, ← resolveCrefs_reports hlistener source p,
    ← resolveCrefs_notices hlistener source p]

/-- A reference in a reference in something that is no reference, two levels below the root. -/
def nestedReferences : Element :=
  ⟨"member", [], none,
    [.element "summary" [] none
      [.element "see" [("cref", "!:bad")] none
        [.element "see" [("cref", "T:Outer")] none
          [.text "in", .element "see" [("cref", "T:Inner")] none []],
         .text "behind"]]]⟩

/-- The inner reference is reported although the outer one has given way, and the invalid id is
noticed. -/
theorem resolveCrefs_eq_topDown_nested :
    Listener.recorder.NeverRefuses ∧
      resolveCrefs "see" .recorder .csharp none { root := nestedReferences }
        = { root := ⟨"member", [], none,
              [.element "summary" [] none
                [.element "see" [("cref", "!:bad")] none
                  [(Dialect.csharp.reference "Outer").toNode, .text "behind"]]]⟩
            reports := ["Outer", "Inner"]
            notices := [.invalidCref "!:bad" ""] } := by
  have hrecorder : Listener.recorder.NeverRefuses := fun _ => rfl
  refine ⟨hrecorder, ?_⟩
  rw [resolveCrefs_eq_topDown "see" .recorder .csharp none { root := nestedReferences } hrecorder]
  rfl

end DocComment
