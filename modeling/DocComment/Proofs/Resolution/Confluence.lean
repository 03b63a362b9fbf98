import DocComment.Proofs.Resolution.Discovery
import DocComment.Proofs.Resolution.Invariants

/-!
# The order of the passes

Resolution runs three passes: over `see`, over `seealso` and over keywords. What one of them replaces
may stand inside what another replaces, so each order does different work. The tree that is left is
the same, because

* each pass is a rewriting from the top down (`resolveCrefs_root`, `rewriteLangwords_root`);
* two rewritings in a row are one rewriting with the substitutes of both (`rewrite_rewrite`), as
  long as the second looks at nothing that the first changes: not at the content of elements, and
  not at placeholders;
* no element has substitutes of two passes (`Target.placeholder?_disjoint`).
-/

namespace DocComment

open Markup

/-! ## Two rewritings in a row -/

/-- Whether substitutes are chosen by the tag and the attributes of elements alone. -/
def IgnoresContent (pick : Element → Option Element) : Prop :=
  ∀ tag attrs place content content',
    pick ⟨tag, attrs, place, content⟩ = pick ⟨tag, attrs, place, content'⟩

/-- Whether substitutes are placeholders without content that have no substitutes of the second
kind. -/
def LeavesNothingFor (pick pick' : Element → Option Element) : Prop :=
  ∀ e new, pick e = some new → new.content = [] ∧ pick' new = none

/-- From depth two on, an element gives way to its substitute. -/
lemma rewrite_of_some {pick : Element → Option Element} {depth : Nat} (hdeep : 2 ≤ depth)
    {e new : Element} (hnew : pick e = some new) : e.toNode.rewrite pick depth = new.toNode := by
  rw [Element.toNode, Node.rewrite, if_pos hdeep, hnew]

/-- An element without a substitute stays and is rewritten inside. -/
lemma rewrite_of_none {pick : Element → Option Element} {depth : Nat} {e : Element}
    (hnone : 2 ≤ depth → pick e = none) :
    e.toNode.rewrite pick depth
      = .element e.tag e.attrs e.place (rewriteContent pick (depth + 1) e.content) := by
  have hkept : (if 2 ≤ depth then pick e else none) = none := by
    split
    · exact hnone ‹_›
    · rfl
  rw [Element.toNode, Node.rewrite, hkept]

mutual

/-- Rewriting a node twice is rewriting it once with the substitutes of both. -/
theorem rewrite_rewrite_node {pick pick' : Element → Option Element}
    (hignores : IgnoresContent pick') (hleaves : LeavesNothingFor pick pick') (depth : Nat)
    (n : Node) :
    (n.rewrite pick depth).rewrite pick' depth
      = n.rewrite (fun e => (pick e).or (pick' e)) depth := by
  match n with
  | .text _ => rfl
  | .comment _ => rfl
  | .element tag attrs place content =>
    have ih := rewrite_rewrite_content hignores hleaves (depth + 1) content
    let e : Element := ⟨tag, attrs, place, content⟩
    let inside : Element := ⟨tag, attrs, place, rewriteContent pick (depth + 1) content⟩
    have hsame : pick' inside = pick' e := hignores tag attrs place _ _
    show (e.toNode.rewrite pick depth).rewrite pick' depth = e.toNode.rewrite _ depth
    by_cases hfirst : 2 ≤ depth ∧ (pick e).isSome
    · -- the placeholder stays as it is in the second rewriting
      obtain ⟨hdeep, hsome⟩ := hfirst
      obtain ⟨new, hnew⟩ := Option.isSome_iff_exists.mp hsome
      obtain ⟨hcontent, hkept⟩ := hleaves e new hnew
      have hboth : e.toNode.rewrite (fun e => (pick e).or (pick' e)) depth = new.toNode :=
        rewrite_of_some hdeep (by rw [hnew]; rfl)
      rw [rewrite_of_some hdeep hnew, hboth, rewrite_of_none fun _ => hkept, hcontent,
        rewriteContent, ← hcontent]
      rfl
    · have hnone : 2 ≤ depth → pick e = none := fun hdeep =>
        Option.not_isSome_iff_eq_none.mp fun hsome => hfirst ⟨hdeep, hsome⟩
      rw [rewrite_of_none hnone]
      show inside.toNode.rewrite pick' depth = _
      by_cases hsecond : 2 ≤ depth ∧ (pick' e).isSome
      · -- what the first rewriting has done inside is thrown away
        obtain ⟨hdeep, hsome⟩ := hsecond
        obtain ⟨new, hnew⟩ := Option.isSome_iff_exists.mp hsome
        have hboth : e.toNode.rewrite (fun e => (pick e).or (pick' e)) depth = new.toNode :=
          rewrite_of_some hdeep (by rw [hnone hdeep, hnew]; rfl)
        rw [rewrite_of_some hdeep (hsame.trans hnew), hboth]
      · have hnone' : 2 ≤ depth → pick' e = none := fun hdeep =>
          Option.not_isSome_iff_eq_none.mp fun hsome => hsecond ⟨hdeep, hsome⟩
        have hboth : 2 ≤ depth → (pick e).or (pick' e) = none := fun hdeep => by
          rw [hnone hdeep, hnone' hdeep]
          rfl
        rw [rewrite_of_none fun hdeep => hsame.trans (hnone' hdeep), rewrite_of_none hboth, ih]

/-- In a content two rewritings in turn are one, node by node. -/
theorem rewrite_rewrite_content {pick pick' : Element → Option Element}
    (hignores : IgnoresContent pick') (hleaves : LeavesNothingFor pick pick') (depth : Nat)
    (content : List Node) :
    rewriteContent pick' depth (rewriteContent pick depth content)
      = rewriteContent (fun e => (pick e).or (pick' e)) depth content := by
  match content with
  | [] => rfl
  | n :: rest =>
    rw [rewriteContent, rewriteContent, rewriteContent,
      rewrite_rewrite_node hignores hleaves depth n,
      rewrite_rewrite_content hignores hleaves depth rest]

end

/-- **Two rewritings are one.** -/
theorem rewrite_rewrite {pick pick' : Element → Option Element}
    (hignores : IgnoresContent pick') (hleaves : LeavesNothingFor pick pick') (root : Element) :
    (root.rewrite pick).rewrite pick' = root.rewrite fun e => (pick e).or (pick' e) := by
  rw [Element.rewrite, Element.rewrite, Element.rewrite]
  exact congrArg (Element.mk _ _ _) (rewrite_rewrite_content hignores hleaves 1 root.content)

mutual

/-- Without substitutes nothing is rewritten. -/
theorem rewrite_none_node (depth : Nat) (n : Node) : n.rewrite (fun _ => none) depth = n := by
  match n with
  | .text _ => rfl
  | .comment _ => rfl
  | .element tag attrs place content =>
    show (Element.mk tag attrs place content).toNode.rewrite (fun _ => none) depth = _
    rw [rewrite_of_none fun _ => rfl, rewrite_none_content (depth + 1) content]

theorem rewrite_none_content (depth : Nat) (content : List Node) :
    rewriteContent (fun _ => none) depth content = content := by
  match content with
  | [] => rfl
  | n :: rest => rw [rewriteContent, rewrite_none_node depth n, rewrite_none_content depth rest]

end

lemma rewrite_none (root : Element) : root.rewrite (fun _ => none) = root := by
  rw [Element.rewrite, rewrite_none_content]

/-! ## The pass over keywords -/

/-- The keyword that an element names: a `see` that refers to nothing may name one. -/
def keyword? (e : Element) : Option String :=
  if e.tag = "see" ∧ e.attr? "cref" = none then
    (e.attr? "langword").filter fun word => !word.isEmpty
  else none

/-- The placeholder for an element that names a keyword, without the white space around it. -/
def keywordPlaceholder? (dialect : Dialect) (e : Element) : Option Element :=
  (keyword? e).bind fun word => dialect.keywordReference? (Text.stripString word)

lemma keywordPlaceholder?_isPlaceholder {dialect : Dialect} {e new : Element}
    (h : keywordPlaceholder? dialect e = some new) : IsPlaceholder new := by
  obtain ⟨word, -, hnew⟩ := Option.bind_eq_some_iff.mp h
  exact keywordReference_isPlaceholder hnew

/-- The replacements that keywords ask for: those below the top level. -/
def keywordEdits (dialect : Dialect) (candidates : List (Path × String)) : List (Path × Element) :=
  candidates.filterMap fun (path, word) =>
    if isTopLevel path then none
    else (dialect.keywordReference? (Text.stripString word)).map (path, ·)

variable {dialect : Dialect}

/-- With a keyword table, working through keywords makes their replacements one after another. -/
lemma toNode_rewriteCandidates (hkeywords : dialect.keywords.isSome)
    (candidates : List (Path × String)) (p : Progress) :
    (rewriteCandidates dialect candidates p).root.toNode
      = replaceAll (keywordEdits dialect candidates) p.root.toNode := by
  obtain ⟨table, htable⟩ := Option.isSome_iff_exists.mp hkeywords
  induction candidates generalizing p with
  | nil => rfl
  | cons candidate rest ih =>
    obtain ⟨path, word⟩ := candidate
    rw [rewriteCandidates]
    by_cases htop : isTopLevel path
    · rw [if_pos htop, ih]
      simp [keywordEdits, htop]
    · obtain ⟨placeholder, hplaceholder⟩ :
          ∃ new, dialect.keywordReference? (Text.stripString word) = some new := by
        simp [Dialect.keywordReference?, Dialect.keywordText?, htable]
      rw [if_neg htop, hplaceholder]
      dsimp only
      rw [ih, toNode_replace, if_neg htop]
      simp [keywordEdits, htop, hplaceholder]

/-- The candidates of a tree are the elements that name keywords. -/
lemma langwordCandidates_eq (root : Element) :
    langwordCandidates root
      = (elementPaths root.toNode).filterMap fun (path, e) => (keyword? e).map (path, ·) := by
  rw [langwordCandidates]
  congr 1
  funext ⟨path, e⟩
  cases hword : e.attr? "langword" with
  | none => simp [keyword?, hword]
  | some word =>
    by_cases hempty : word = ""
    · simp [keyword?, hword, hempty, Option.filter_some]
    · by_cases hnamed : e.tag = "see" ∧ e.attr? "cref" = none
      · simp [keyword?, hword, hempty, hnamed, Option.filter_some]
      · simp only [keyword?, hnamed, if_false, Option.map_none, hword]
        rw [if_neg]
        simpa [hempty] using hnamed

/-- The keywords of a tree ask for placeholders from depth two on. -/
lemma keywordEdits_langwordCandidates (dialect : Dialect) (root : Element) :
    keywordEdits dialect (langwordCandidates root)
      = editsIn (fromDepthTwo (keywordPlaceholder? dialect) 0) (elementPaths root.toNode) := by
  rw [keywordEdits, langwordCandidates_eq, List.filterMap_filterMap, editsIn]
  congr 1
  funext place
  obtain ⟨path, e⟩ := place
  have htop : isTopLevel path = decide (¬ 2 ≤ path.length) := by
    rw [isTopLevel]
    simp
  cases hword : keyword? e with
  | none => simp [fromDepthTwo, keywordPlaceholder?, hword]
  | some word =>
    by_cases hdeep : 2 ≤ path.length <;>
      simp [fromDepthTwo, keywordPlaceholder?, hword, htop, hdeep]

/-- With a keyword table, the pass over keywords rewrites the tree from the top down. -/
theorem rewriteLangwords_root (hkeywords : dialect.keywords.isSome) (p : Progress) :
    (rewriteLangwords dialect p).root = p.root.rewrite (keywordPlaceholder? dialect) := by
  apply toNode_injective
  rw [rewriteLangwords, toNode_rewriteCandidates hkeywords, keywordEdits_langwordCandidates]
  exact replaceAll_fromDepthTwo
    (fun _ _ h => (keywordPlaceholder?_isPlaceholder h).content) p.root

/-! ## The three passes -/

/-- What a pass looks for: `see` elements that refer to something, `seealso` elements that do, or
keywords. -/
inductive Target where
  | see
  | seealso
  | keyword
deriving DecidableEq

/-- The placeholder for an element that is looked for. -/
def Target.placeholder? (dialect : Dialect) : Target → Element → Option Element
  | see => crefPlaceholder? "see" dialect
  | seealso => crefPlaceholder? "seealso" dialect
  | keyword => keywordPlaceholder? dialect

/-- A pass, with the listener that is told of references and the context of the comment. -/
inductive Pass where
  | see (listener : Listener) (source : Option Context)
  | seealso (listener : Listener) (source : Option Context)
  | keyword

namespace Pass

/-- What a pass looks for. -/
def target : Pass → Target
  | see _ _ => .see
  | seealso _ _ => .seealso
  | keyword => .keyword

/-- Whether nobody refuses to go on with a pass. -/
def Patient : Pass → Prop
  | see listener _ => listener.NeverRefuses
  | seealso listener _ => listener.NeverRefuses
  | keyword => True

/-- Runs a pass. -/
def run (dialect : Dialect) : Pass → Progress → Progress
  | see listener source => resolveCrefs "see" listener dialect source
  | seealso listener source => resolveCrefs "seealso" listener dialect source
  | keyword => rewriteLangwords dialect

/-- Runs passes one after the other. -/
def runAll (dialect : Dialect) (passes : List Pass) (p : Progress) : Progress :=
  passes.foldl (fun p pass => pass.run dialect p) p

/-- Each pass rewrites the tree from the top down. -/
lemma root_run (hkeywords : dialect.keywords.isSome) {pass : Pass} (hpatient : pass.Patient)
    (p : Progress) :
    (pass.run dialect p).root = p.root.rewrite (pass.target.placeholder? dialect) := by
  cases pass with
  | see listener source => exact resolveCrefs_root hpatient source p
  | seealso listener source => exact resolveCrefs_root hpatient source p
  | keyword => exact rewriteLangwords_root hkeywords p

end Pass

namespace Target

/-- The elements that are looked for: references and keywords do not meet in one `see`. -/
lemma placeholder?_cases {t : Target} {e new : Element}
    (h : t.placeholder? dialect e = some new) :
    (t = .see ∧ e.tag = "see" ∧ (e.attr? "cref").isSome = true) ∨
      (t = .seealso ∧ e.tag = "seealso") ∨
      (t = .keyword ∧ e.tag = "see" ∧ (e.attr? "cref").isSome = false) := by
  have hselected {selector : String} (hselector : selector ≠ "*")
      (hcref : crefPlaceholder? selector dialect e = some new) :
      e.tag = selector ∧ (e.attr? "cref").isSome = true := by
    obtain ⟨identifier, hidentifier, -⟩ := Option.map_eq_some_iff.mp hcref
    obtain ⟨id, hid, -⟩ := Option.map_eq_some_iff.mp hidentifier
    rw [crefId?, selects_of_ne_star selector hselector] at hid
    split at hid
    · rename_i htag
      obtain ⟨value, hvalue, -⟩ := Option.bind_eq_some_iff.mp hid
      exact ⟨eq_of_beq htag, by rw [hvalue]; rfl⟩
    · cases hid
  cases t with
  | see => exact Or.inl ⟨rfl, hselected (by decide) h⟩
  | seealso => exact Or.inr (Or.inl ⟨rfl, (hselected (by decide) h).1⟩)
  | keyword =>
    obtain ⟨word, hword, -⟩ := Option.bind_eq_some_iff.mp h
    rw [keyword?] at hword
    split at hword
    · rename_i hnamed
      exact Or.inr (Or.inr ⟨rfl, hnamed.1, by rw [hnamed.2]; rfl⟩)
    · cases hword

/-- No element is looked for by two passes. -/
lemma placeholder?_disjoint {t t' : Target} {e new new' : Element}
    (h : t.placeholder? dialect e = some new) (h' : t'.placeholder? dialect e = some new') :
    t = t' := by
  obtain ⟨rfl, htag, hcref⟩ | ⟨rfl, htag⟩ | ⟨rfl, htag, hcref⟩ := placeholder?_cases h <;>
    obtain ⟨rfl, htag', hcref'⟩ | ⟨rfl, htag'⟩ | ⟨rfl, htag', hcref'⟩ := placeholder?_cases h' <;>
    simp_all

/-- What a target is substituted by is a placeholder. -/
lemma placeholder?_isPlaceholder {t : Target} {e new : Element}
    (h : t.placeholder? dialect e = some new) : IsPlaceholder new := by
  have hreference {selector : String} (hcref : crefPlaceholder? selector dialect e = some new) :
      IsPlaceholder new := by
    obtain ⟨identifier, -, rfl⟩ := Option.map_eq_some_iff.mp hcref
    exact reference_isPlaceholder dialect identifier
  cases t with
  | see => exact hreference h
  | seealso => exact hreference h
  | keyword => exact keywordPlaceholder?_isPlaceholder h

/-- No pass looks for placeholders. -/
lemma placeholder?_of_isPlaceholder {e : Element} (he : IsPlaceholder e) (t : Target) :
    t.placeholder? dialect e = none := by
  by_contra hne
  obtain ⟨new, hnew⟩ := Option.ne_none_iff_exists'.mp hne
  have htag := he.tag
  obtain ⟨-, hsee, -⟩ | ⟨-, hseealso⟩ | ⟨-, hsee, -⟩ := placeholder?_cases hnew <;> simp_all

lemma placeholder?_ignoresContent (t : Target) : IgnoresContent (t.placeholder? dialect) := by
  intro tag attrs place content content'
  cases t <;> rfl

end Target

/-! ## Passes in a row -/

namespace Pass

/-- The placeholder of the first pass that looks for an element. -/
def firstPlaceholder? (dialect : Dialect) (passes : List Pass) (e : Element) : Option Element :=
  passes.findSome? fun pass => pass.target.placeholder? dialect e

/-- Passes in a row rewrite the tree once, with the substitutes of all. -/
lemma root_runAll (hkeywords : dialect.keywords.isSome) {passes : List Pass}
    (hpatient : ∀ pass ∈ passes, pass.Patient) (p : Progress) :
    (runAll dialect passes p).root = p.root.rewrite (firstPlaceholder? dialect passes) := by
  induction passes generalizing p with
  | nil => exact (rewrite_none p.root).symm
  | cons pass rest ih =>
    obtain ⟨hpass, hrest⟩ := List.forall_mem_cons.mp hpatient
    have hignores : IgnoresContent (firstPlaceholder? dialect rest) := by
      intro tag attrs place content content'
      rw [firstPlaceholder?, firstPlaceholder?]
      congr 1
      funext other
      exact Target.placeholder?_ignoresContent other.target tag attrs place content content'
    have hleaves : LeavesNothingFor (pass.target.placeholder? dialect)
        (firstPlaceholder? dialect rest) := by
      intro e new hnew
      have hplaceholder := Target.placeholder?_isPlaceholder hnew
      refine ⟨hplaceholder.content, List.findSome?_eq_none_iff.mpr fun other _ => ?_⟩
      exact Target.placeholder?_of_isPlaceholder hplaceholder other.target
    have hboth : firstPlaceholder? dialect (pass :: rest)
        = fun e => (pass.target.placeholder? dialect e).or (firstPlaceholder? dialect rest e) := by
      funext e
      rw [firstPlaceholder?, List.findSome?_cons]
      cases pass.target.placeholder? dialect e <;> rfl
    show (runAll dialect rest (pass.run dialect p)).root = _
    rw [ih hrest, root_run hkeywords hpass, rewrite_rewrite hignores hleaves, hboth]

/-- Since no element is looked for by two passes, the order of the passes does not matter for its
placeholder. -/
lemma firstPlaceholder?_eq_some_iff {passes : List Pass} {e new : Element} :
    firstPlaceholder? dialect passes e = some new
      ↔ ∃ t ∈ passes.map Pass.target, t.placeholder? dialect e = some new := by
  constructor
  · intro h
    obtain ⟨pass, hpass, hnew⟩ := List.exists_of_findSome?_eq_some h
    exact ⟨pass.target, List.mem_map_of_mem hpass, hnew⟩
  · rintro ⟨t, ht, hnew⟩
    obtain ⟨pass, hpass, rfl⟩ := List.mem_map.mp ht
    cases hfirst : firstPlaceholder? dialect passes e with
    | none => exact absurd (List.findSome?_eq_none_iff.mp hfirst pass hpass) (by rw [hnew]; simp)
    | some new' =>
      obtain ⟨pass', -, hnew'⟩ := List.exists_of_findSome?_eq_some hfirst
      rw [Target.placeholder?_disjoint hnew' hnew, hnew] at hnew'
      exact hnew'.symm

end Pass

/-- The placeholder for a `see` or a `seealso` that refers to a comment id, or for a `see` that
names a keyword and refers to nothing. -/
def placeholder? (dialect : Dialect) (e : Element) : Option Element :=
  ((referenceIdentifier? e).map dialect.reference).or (keywordPlaceholder? dialect e)

/-- Each element that refers to a comment id is looked for in one of two passes. -/
lemma referenceIdentifier?_eq_or (e : Element) :
    referenceIdentifier? e = (crefIdentifier? "see" e).or (crefIdentifier? "seealso" e) := by
  have hsee := selects_of_ne_star "see" (by decide) e
  have hseealso := selects_of_ne_star "seealso" (by decide) e
  by_cases htag : e.tag = "see"
  · simp [referenceIdentifier?, crefIdentifier?, crefId?, hsee, hseealso, htag]
  · by_cases hother : e.tag = "seealso" <;>
      simp [referenceIdentifier?, crefIdentifier?, crefId?, hsee, hseealso, htag, hother]

lemma placeholder?_eq_some_iff {e new : Element} :
    placeholder? dialect e = some new ↔ ∃ t, Target.placeholder? dialect t e = some new := by
  have hfirst : placeholder? dialect e = Pass.firstPlaceholder? dialect
      [.see .absent none, .seealso .absent none, .keyword] e := by
    rw [placeholder?, referenceIdentifier?_eq_or]
    simp only [Pass.firstPlaceholder?, List.findSome?_cons, List.findSome?_nil, Pass.target,
      Target.placeholder?, crefPlaceholder?]
    cases crefIdentifier? "see" e <;> cases crefIdentifier? "seealso" e <;>
      cases keywordPlaceholder? dialect e <;> rfl
  rw [hfirst, Pass.firstPlaceholder?_eq_some_iff]
  refine exists_congr fun t => and_iff_right ?_
  cases t <;> simp [Pass.target]

/-- **The passes commute.** Whatever passes are run, and however often, the tree that they leave
depends only on what is looked for by one of them. If all three have been run, it is the tree of one
rewriting from the top down. -/
theorem root_runAll_eq_rewrite (dialect : Dialect) (hkeywords : dialect.keywords.isSome)
    (passes passes' : List Pass) (hpatient : ∀ pass ∈ passes, pass.Patient)
    (hpatient' : ∀ pass ∈ passes', pass.Patient)
    (hsame : ∀ t, t ∈ passes.map Pass.target ↔ t ∈ passes'.map Pass.target) (p : Progress) :
    (Pass.runAll dialect passes p).root = (Pass.runAll dialect passes' p).root ∧
      ((∀ t, t ∈ passes.map Pass.target) →
        (Pass.runAll dialect passes p).root = p.root.rewrite (placeholder? dialect)) := by
  rw [Pass.root_runAll hkeywords hpatient, Pass.root_runAll hkeywords hpatient']
  constructor
  · congr 1
    funext e
    apply Option.ext
    intro new
    simp only [Pass.firstPlaceholder?_eq_some_iff, hsame]
  · intro hall
    congr 1
    funext e
    apply Option.ext
    intro new
    rw [Pass.firstPlaceholder?_eq_some_iff, placeholder?_eq_some_iff]
    simp only [hall, true_and]

/-- References and keywords in each other: a keyword in a reference, a reference in a keyword, both
in a reference that is none, and at the top level. -/
def mixedReferences : Element :=
  ⟨"member", [], none,
    [.element "see" [("langword", "base")] none [],
     .element "summary" [] none
      [.element "seealso" [("cref", "T:Outer")] none
        [.element "see" [("langword", "null")] none []],
       .text "a",
       .element "see" [("langword", " null ")] none
        [.element "see" [("cref", "T:Inner")] none []],
       .text "b",
       .element "see" [("cref", "!:bad"), ("langword", "true")] none
        [.element "see" [("langword", "true")] none [],
         .element "see" [("cref", "T:Deep")] none []]]]⟩

/-- Passes repeated in another order lead to the same tree; what gives way takes along what it
holds. -/
theorem root_runAll_eq_rewrite_mixed :
    (Pass.runAll .visualBasic
        [.keyword, .seealso .recorder none, .see .absent none, .keyword]
        { root := mixedReferences }).root
      = (Pass.runAll .visualBasic
        [.see .recorder none, .seealso .recorder none, .keyword] { root := mixedReferences }).root ∧
    (Pass.runAll .visualBasic
        [.keyword, .seealso .recorder none, .see .absent none, .keyword]
        { root := mixedReferences }).root
      = ⟨"member", [], none,
          [.element "see" [("langword", "base")] none [],
           .element "summary" [] none
            [(Dialect.visualBasic.reference "Outer").toNode,
             .text "a",
             .element "xref" [("uid", "langword_vb_null"), ("name", "Nothing"), ("href", "")] none [],
             .text "b",
             .element "see" [("cref", "!:bad"), ("langword", "true")] none
              [.element "xref" [("uid", "langword_vb_true"), ("name", "True"), ("href", "")] none [],
               (Dialect.visualBasic.reference "Deep").toNode]]]⟩ := by
  have hrecorder : Listener.recorder.NeverRefuses := fun _ => rfl
  have habsent : Listener.absent.NeverRefuses := trivial
  have hpasses := root_runAll_eq_rewrite .visualBasic rfl
    [.keyword, .seealso .recorder none, .see .absent none, .keyword]
    [.see .recorder none, .seealso .recorder none, .keyword]
    (by simp [Pass.Patient, hrecorder, habsent])
    (by simp [Pass.Patient, hrecorder])
    (by intro t; cases t <;> simp [Pass.target]) { root := mixedReferences }
  refine ⟨hpasses.1, ?_⟩
  rw [hpasses.2 (by intro t; cases t <;> simp [Pass.target])]
  rfl

end DocComment
