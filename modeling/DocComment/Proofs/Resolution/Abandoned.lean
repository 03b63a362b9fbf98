import DocComment.Proofs.Resolution.Passes
import Mathlib.Data.List.Nodup

/-!
# Passes that a listener ends

A listener that refuses ends a pass behind the element it was told of. What the pass has done until
then is what a pass with a patient listener does when the candidates end there
(`resolveCandidates_refusingAt`): the refused element is already replaced and reported, and nothing
behind it has been looked at.

The place where a pass ends is a place in document order, so it is described by the elements up to
it (`upTo`), and the tree that is left by the recursion from the top down for substitutes that only
these elements have (`Element.edit`).
-/

namespace DocComment

open Markup

/-! ## Up to the place where a pass ends -/

/-- A list up to its `n`-th item that passes a test, with that item; the whole list if there are
fewer. -/
def upTo {α : Type} (test : α → Bool) : Nat → List α → List α
  | 0, _ => []
  | _ + 1, [] => []
  | n + 1, a :: rest => a :: upTo test (if test a then n else n + 1) rest

section

variable {α β : Type} {test : α → Bool}

@[simp] lemma upTo_zero (test : α → Bool) (l : List α) : upTo test 0 l = [] := by
  cases l <;> rfl

@[simp] lemma upTo_nil (test : α → Bool) (n : Nat) : upTo test n [] = [] := by
  cases n <;> rfl

lemma upTo_succ_cons (test : α → Bool) (n : Nat) (a : α) (rest : List α) :
    upTo test (n + 1) (a :: rest) = a :: upTo test (if test a then n else n + 1) rest := rfl

lemma upTo_prefix (test : α → Bool) (n : Nat) (l : List α) : upTo test n l <+: l := by
  induction l generalizing n with
  | nil => exact (upTo_nil test n).symm ▸ List.nil_prefix
  | cons a rest ih =>
    cases n with
    | zero => exact List.nil_prefix
    | succ n => exact (List.prefix_cons_inj a).mpr (ih _)

lemma upTo_true (n : Nat) (l : List α) : upTo (fun _ => true) n l = l.take n := by
  induction l generalizing n with
  | nil => rw [upTo_nil, List.take_nil]
  | cons a rest ih =>
    cases n with
    | zero => rfl
    | succ n => exact congrArg (a :: ·) (ih n)

/-- With fewer such items than asked for the whole list is reached. -/
lemma upTo_eq_self {pick : α → Option β} (hpick : ∀ a, test a = (pick a).isSome) {n : Nat}
    {l : List α} (h : (l.filterMap pick).length < n) : upTo test n l = l := by
  induction l generalizing n with
  | nil => rw [upTo_nil]
  | cons a rest ih =>
    obtain ⟨m, rfl⟩ : ∃ m, n = m + 1 := ⟨n - 1, by omega⟩
    rw [upTo_succ_cons, hpick]
    cases ha : pick a with
    | none =>
      rw [List.filterMap_cons_none ha] at h
      exact congrArg (a :: ·) (ih h)
    | some b =>
      rw [List.filterMap_cons_some ha, List.length_cons] at h
      exact congrArg (a :: ·) (ih (Nat.lt_of_succ_lt_succ h))

/-- What is picked up to a place is what stands there of all that is picked, if the items that count
are picked as such. -/
lemma filterMap_upTo {test' : β → Bool} {pick : α → Option β}
    (hpick : ∀ a, test a = (pick a).any test') (n : Nat) (l : List α) :
    (upTo test n l).filterMap pick = upTo test' n (l.filterMap pick) := by
  induction l generalizing n with
  | nil => rw [upTo_nil, List.filterMap_nil, upTo_nil]
  | cons a rest ih =>
    cases n with
    | zero => rw [upTo_zero, List.filterMap_nil, upTo_zero]
    | succ n =>
      rw [upTo_succ_cons, hpick]
      cases ha : pick a with
      | none =>
        rw [List.filterMap_cons_none ha, List.filterMap_cons_none ha]
        exact ih (n + 1)
      | some b =>
        rw [List.filterMap_cons_some ha, List.filterMap_cons_some ha, upTo_succ_cons, ih]
        rfl

end

/-! ## A pass up to a refusal -/

/-- Whether a candidate is a comment id. -/
def isValidCandidate (candidate : Path × String) : Bool :=
  (CommentId.ofString? candidate.2).isSome

variable {selector detail : String} {dialect : Dialect}

/-- A valid candidate is replaced and reported, and then the pass ends if the listener waits for one
identifier only. -/
lemma resolveCandidates_cons_refusingAt {value : String} {id : CommentId}
    (hvalue : CommentId.ofString? value = some id) (path : Path) (rest : List (Path × String))
    (p : Progress) (n : Nat) :
    resolveCandidates selector (.refusingAt (p.reports.length + n)) dialect detail
        ((path, value) :: rest) p
      = let q := (p.replace path (dialect.reference id.identifier)).report id.identifier
        if n = 1 then q.notice (.crefsAbandoned selector)
        else resolveCandidates selector (.refusingAt (p.reports.length + n)) dialect detail rest
          q := by
  have hlength : ((p.replace path (dialect.reference id.identifier)).report
      id.identifier).reports.length = p.reports.length + 1 := by
    rw [Progress.report, reports_replace, List.length_append, List.length_singleton]
  have hrefuses : (((p.reports.length + 1 : Nat) : Int) == p.reports.length + n) = true
      ↔ n = 1 := by
    rw [beq_iff_eq]
    omega
  rw [resolveCandidates, hvalue, Listener.refusingAt]
  dsimp only
  rw [hlength]
  exact if_congr hrefuses rfl rfl

/-- A pass with a listener that refuses at its `n`-th identifier does what a pass with a patient one
does on the candidates up to the `n`-th valid one, and then says that it was abandoned. -/
lemma resolveCandidates_refusingAt (candidates : List (Path × String)) (p : Progress) {n : Nat}
    (hn : 1 ≤ n) :
    resolveCandidates selector (.refusingAt (p.reports.length + n)) dialect detail candidates p
      = let q := resolveCandidates selector .recorder dialect detail
          (upTo isValidCandidate n candidates) p
        if n ≤ (candidateIdentifiers candidates).length then q.notice (.crefsAbandoned selector)
        else q := by
  obtain ⟨m, rfl⟩ : ∃ m, n = m + 1 := ⟨n - 1, by omega⟩
  induction candidates generalizing m p with
  | nil => rfl
  | cons candidate rest ih =>
    obtain ⟨path, value⟩ := candidate
    rw [upTo_succ_cons]
    cases hvalue : CommentId.ofString? value with
    | none =>
      -- an invalid candidate does not count
      have hinvalid : isValidCandidate (path, value) = false := by
        simp [isValidCandidate, hvalue]
      have hidentifiers : candidateIdentifiers ((path, value) :: rest)
          = candidateIdentifiers rest := by
        simp [candidateIdentifiers, hvalue]
      rw [hinvalid, hidentifiers, resolveCandidates_cons_invalid hvalue,
        resolveCandidates_cons_invalid hvalue]
      exact ih (p.notice (.invalidCref value detail)) m (by omega)
    | some id =>
      have hvalid : isValidCandidate (path, value) = true := by
        simp [isValidCandidate, hvalue]
      have hidentifiers : (candidateIdentifiers ((path, value) :: rest)).length
          = (candidateIdentifiers rest).length + 1 := by
        simp [candidateIdentifiers, hvalue]
      have hrecorder : Listener.recorder.NeverRefuses := fun _ => rfl
      rw [hvalid, hidentifiers, resolveCandidates_cons_refusingAt hvalue,
        resolveCandidates_cons_valid hrecorder hvalue, Listener.recorder, Listener.hears,
        ← reports_replace p path (dialect.reference id.identifier)]
      generalize p.replace path (dialect.reference id.identifier) = q
      cases m with
      | zero =>
        rw [if_pos rfl, if_pos rfl, upTo_zero, if_pos (by omega)]
        rfl
      | succ m =>
        have hlength : (q.reports.length : Int) + ((m + 1 + 1 : Nat) : Int)
            = (q.report id.identifier).reports.length + ((m + 1 : Nat) : Int) := by
          simp [Progress.report]
          omega
        rw [if_neg (by omega), if_pos rfl, hlength, ih (q.report id.identifier) m (by omega)]
        exact if_congr (by omega) rfl rfl

/-! ## The elements that a pass reaches -/

/-- A path into a content begins with the index of one of its nodes. -/
lemma le_of_mem_contentPaths {i : Nat} {content : List Node} {path : Path} {e : Element}
    (h : (path, e) ∈ contentPaths i content) : ∃ j rest, path = j :: rest ∧ i ≤ j := by
  induction content generalizing i with
  | nil => cases h
  | cons n rest ih =>
    rcases List.mem_append.mp h with hfirst | hrest
    · obtain ⟨⟨tail, e'⟩, -, heq⟩ := List.mem_map.mp hfirst
      obtain ⟨rfl, rfl⟩ := Prod.mk.inj heq
      exact ⟨i, tail, rfl, Nat.le_refl i⟩
    · obtain ⟨j, tail, hpath, hle⟩ := ih hrest
      exact ⟨j, tail, hpath, by omega⟩

mutual

/-- No two elements have the same path. -/
theorem nodup_elementPaths (n : Node) : ((elementPaths n).map Prod.fst).Nodup := by
  match n with
  | .text _ => exact List.nodup_nil
  | .comment _ => exact List.nodup_nil
  | .element tag attrs place content =>
    rw [elementPaths, List.map_cons, List.nodup_cons]
    refine ⟨fun hmem => ?_, nodup_contentPaths 0 content⟩
    obtain ⟨⟨path, e⟩, hfound, rfl⟩ := List.mem_map.mp hmem
    obtain ⟨j, rest, hpath, -⟩ := le_of_mem_contentPaths hfound
    cases hpath

/-- Paths into a content begin with the index of a node, so those into different nodes differ. -/
theorem nodup_contentPaths (i : Nat) (content : List Node) :
    ((contentPaths i content).map Prod.fst).Nodup := by
  match content with
  | [] => exact List.nodup_nil
  | n :: rest =>
    have hfirst : (((elementPaths n).map fun (path, e) => (i :: path, e)).map Prod.fst)
        = ((elementPaths n).map Prod.fst).map (i :: ·) := by
      rw [List.map_map, List.map_map]
      rfl
    rw [contentPaths, List.map_append, hfirst, List.nodup_append]
    refine ⟨(nodup_elementPaths n).map List.cons_injective,
      nodup_contentPaths (i + 1) rest, ?_⟩
    -- the paths into the first node begin with its index, and those into the others do not
    intro path hpath other hother heq
    obtain ⟨tail, -, rfl⟩ := List.mem_map.mp hpath
    obtain ⟨⟨path', e⟩, hfound, rfl⟩ := List.mem_map.mp hother
    obtain ⟨j, tail', hpath', hle⟩ := le_of_mem_contentPaths hfound
    have hhead : i = j := (List.cons.inj (heq.trans hpath')).1
    omega

end

/-- Substitutes for the elements at some paths only. -/
def among (paths : List Path) (pick : Path → Element → Option Element) (path : Path)
    (e : Element) : Option Element :=
  if path ∈ paths then pick path e else none

/-- The replacements that the first elements ask for are those that all elements ask for when only
the first ones have substitutes. -/
lemma editsIn_among (pick : Path → Element → Option Element) {reached found : List (Path × Element)}
    (hreached : reached <+: found) (hnodup : (found.map Prod.fst).Nodup) :
    editsIn (among (reached.map Prod.fst) pick) found = editsIn pick reached := by
  obtain ⟨behind, rfl⟩ := hreached
  rw [List.map_append, List.nodup_append] at hnodup
  have hfirst : editsIn (among (reached.map Prod.fst) pick) reached = editsIn pick reached := by
    apply List.filterMap_congr
    rintro ⟨path, e⟩ hfound
    have hpath : path ∈ reached.map Prod.fst := List.mem_map_of_mem hfound
    show (among _ pick path e).map _ = (pick path e).map _
    rw [among, if_pos hpath]
  have hbehind : editsIn (among (reached.map Prod.fst) pick) behind = [] := by
    apply List.filterMap_eq_nil_iff.mpr
    rintro ⟨path, e⟩ hfound
    have hpath : path ∉ reached.map Prod.fst := fun hmem =>
      hnodup.2.2 path hmem path (List.mem_map_of_mem hfound) rfl
    show (among _ pick path e).map _ = none
    rw [among, if_neg hpath]
    rfl
  rw [editsIn_append, hfirst, hbehind, List.append_nil]

/-- A tree edited from the top down; its root stays. -/
def Markup.Element.edit (pick : Path → Element → Option Element) (root : Element) : Element :=
  { root with content := editContent pick 0 root.content }

lemma toNode_edit {pick : Path → Element → Option Element} {root : Element}
    (hroot : pick [] root = none) : (root.edit pick).toNode = root.toNode.edit pick := by
  show _ = Node.edit pick (.element root.tag root.attrs root.place root.content)
  rw [Node.edit, hroot]
  rfl

/-- Whether a pass selects an element that refers to a comment id. -/
def refersTo (selector : String) (found : Path × Element) : Bool :=
  (crefId? selector found.2).isSome

/-- The elements of a tree with their paths, up to the `n`-th that refers to a comment id. -/
def reachedIn (selector : String) (n : Nat) (root : Element) : List (Path × Element) :=
  upTo (refersTo selector) n (elementPaths root.toNode)

/-- The candidates up to the `n`-th valid one are those among the elements that are reached. -/
lemma upTo_crefCandidates (selector : String) (n : Nat) (root : Element) :
    upTo isValidCandidate n (crefCandidates selector root)
      = candidatesIn selector (reachedIn selector n root) := by
  rw [crefCandidates_eq, candidatesIn, candidatesIn, reachedIn]
  refine (filterMap_upTo ?_ n _).symm
  rintro ⟨path, e⟩
  by_cases hselects : selects selector e
  · cases hcref : e.attr? "cref" <;>
      simp [refersTo, crefId?, isValidCandidate, hselects, hcref]
  · simp [refersTo, crefId?, hselects]

/-- A pass over the elements that are reached rewrites just these. -/
lemma root_of_reached (selector detail : String) (dialect : Dialect) (n : Nat) (p : Progress) :
    (resolveCandidates selector .recorder dialect detail
        (candidatesIn selector (reachedIn selector n p.root)) p).root
      = p.root.edit (among ((reachedIn selector n p.root).map Prod.fst)
          (fromDepthTwo (crefPlaceholder? selector dialect) 0)) := by
  have hrecorder : Listener.recorder.NeverRefuses := fun _ => rfl
  have hroot (paths : List Path) :
      among paths (fromDepthTwo (crefPlaceholder? selector dialect) 0) [] p.root = none := by
    rw [among]
    split <;> rfl
  have hleaf (paths : List Path) (path : Path) (e new : Element)
      (hnew : among paths (fromDepthTwo (crefPlaceholder? selector dialect) 0) path e = some new) :
      new.content = [] := by
    rw [among] at hnew
    split at hnew
    · exact content_of_fromDepthTwo (fun _ _ => content_of_crefPlaceholder?) hnew
    · cases hnew
  have hreached : reachedIn selector n p.root <+: elementPaths p.root.toNode := upTo_prefix _ n _
  apply toNode_injective
  rw [toNode_edit (hroot _), toNode_resolveCandidates hrecorder, candidateEdits_candidatesIn,
    ← editsIn_among _ hreached (nodup_elementPaths p.root.toNode)]
  exact replaceAll_edits _ (hleaf _) p.root.toNode

/-- **A refusal ends a pass exactly where it comes.** A listener that refuses at the `n`-th
identifier it is told has been told the first `n` that the selected elements refer to, or all if
there are fewer. In the tree just the elements up to there have given way to placeholders, the
outermost ones and from depth two on; what stands behind is as it was. The values up to there that
are no comment ids are noticed, and then, only if there was a refusal, that the pass was abandoned.
Without a refusal all elements are reached. -/
theorem resolveCrefs_refusingAt (selector : String) (dialect : Dialect) (source : Option Context)
    (p : Progress) (n : Nat) (hn : 1 ≤ n) :
    let identifiers := p.root.elements.filterMap (crefIdentifier? selector)
    let reached := reachedIn selector n p.root
    resolveCrefs selector (.refusingAt (p.reports.length + n)) dialect source p
      = { root := p.root.edit (among (reached.map Prod.fst)
            (fromDepthTwo (crefPlaceholder? selector dialect) 0))
          reports := p.reports ++ identifiers.take n
          notices := p.notices
            ++ (reached.filterMap fun (_, e) => invalidCref? selector e).map
              (Notice.invalidCref · ((source.map Context.describe).getD ""))
            ++ if n ≤ identifiers.length then [.crefsAbandoned selector] else [] }
      ∧ (identifiers.length < n → reached = elementPaths p.root.toNode) := by
  intro identifiers reached
  have hrecorder : Listener.recorder.NeverRefuses := fun _ => rfl
  have hidentifiers : candidateIdentifiers (crefCandidates selector p.root) = identifiers := by
    rw [crefCandidates_eq, candidateIdentifiers_candidatesIn, filterMap_elementPaths]
  have htaken : candidateIdentifiers (candidatesIn selector reached) = identifiers.take n := by
    rw [candidateIdentifiers_candidatesIn, ← hidentifiers, crefCandidates_eq,
      candidateIdentifiers_candidatesIn, ← upTo_true]
    refine filterMap_upTo (fun found => ?_) n _
    simp [refersTo, crefIdentifier?]
  refine ⟨?_, fun hfewer => ?_⟩
  swap
  · rw [← hidentifiers, crefCandidates_eq, candidateIdentifiers_candidatesIn] at hfewer
    refine upTo_eq_self (fun found => ?_) hfewer
    simp [refersTo, crefIdentifier?]
  -- Up to the refusal the pass is that of a listener that never refuses over the elements reached.
  rw [resolveCrefs, resolveCandidates_refusingAt _ _ hn, upTo_crefCandidates, hidentifiers,
    ← root_of_reached selector ((source.map Context.describe).getD "") dialect n p]
  generalize hq : resolveCandidates selector .recorder dialect _
    (candidatesIn selector (reachedIn selector n p.root)) p = q
  have hreports : q.reports = p.reports ++ identifiers.take n := by
    rw [← hq, reports_resolveCandidates hrecorder, htaken]
    rfl
  have hnotices : q.notices = p.notices
      ++ (reached.filterMap fun (_, e) => invalidCref? selector e).map
        (Notice.invalidCref · ((source.map Context.describe).getD "")) := by
    rw [← hq, notices_resolveCandidates hrecorder, invalidCandidates_candidatesIn]
  rw [← hreports, ← hnotices]
  dsimp only
  split
  · rfl
  · rw [List.append_nil]

/-- Three references, the second inside the first, and two that are none. -/
def refusedReferences : Element :=
  ⟨"member", [], none,
    [.element "summary" [] none
      [.element "see" [("cref", "!:early")] none [],
       .element "see" [("cref", "T:Outer")] none [.element "see" [("cref", "T:Inner")] none []],
       .element "see" [("cref", "!:late")] none [],
       .element "see" [("cref", "T:Last")] none []]]⟩

/-- The second report is refused, so the id behind it is not looked at any more, be it valid or not.
-/
theorem resolveCrefs_refusingAt_nested :
    1 ≤ 2 ∧ resolveCrefs "see" (.refusingAt 2) .csharp none { root := refusedReferences }
      = { root := ⟨"member", [], none,
            [.element "summary" [] none
              [.element "see" [("cref", "!:early")] none [],
               (Dialect.csharp.reference "Outer").toNode,
               .element "see" [("cref", "!:late")] none [],
               .element "see" [("cref", "T:Last")] none []]]⟩
          reports := ["Outer", "Inner"]
          notices := [.invalidCref "!:early" "", .crefsAbandoned "see"] } := by
  refine ⟨by decide, ?_⟩
  exact (resolveCrefs_refusingAt "see" .csharp none { root := refusedReferences } 2
    (by decide)).1

end DocComment
