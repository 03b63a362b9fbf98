import DocComment.Comment
import Mathlib.Tactic.Common

/-!
# What resolution keeps of a tree

All that resolution does to a tree is to replace elements below the top level by placeholders, one
after the other and until a listener refuses or a dialect has no keyword table. So whatever one such
replacement keeps is kept by every pass, complete or abandoned, and by resolution as a whole
(`resolved_root`). What is seen of the tree down to the direct children of its root is such a thing
(`topHeads_resolved`).
-/

namespace DocComment

open Markup

/-! ## Placeholders -/

/-- The names that the attributes of placeholders have. -/
def placeholderNames : List String :=
  ["href", "data-throw-if-not-resolved", "uid", "name"]

/-- Whether an element is a placeholder. -/
structure IsPlaceholder (e : Element) : Prop where
  tag : e.tag = "xref"
  names : ∀ a ∈ e.attrs, a.1 ∈ placeholderNames
  content : e.content = []

lemma reference_isPlaceholder (dialect : Dialect) (identifier : String) :
    IsPlaceholder (dialect.reference identifier) := by
  refine ⟨rfl, ?_, rfl⟩
  simp [Dialect.reference, placeholderNames]

lemma keywordReference_isPlaceholder {dialect : Dialect} {word : String} {e : Element}
    (h : dialect.keywordReference? word = some e) : IsPlaceholder e := by
  obtain ⟨text, -, rfl⟩ := Option.map_eq_some_iff.mp h
  refine ⟨rfl, ?_, rfl⟩
  simp [placeholderNames]

/-! ## Passes -/

section

variable {P : Element → Prop}
  (hstep : ∀ root path new, isTopLevel path = false → IsPlaceholder new → P root →
    P (replaceIn root path new.toNode))

include hstep

lemma replace_root {p : Progress} (hp : P p.root) (path : Path) {new : Element}
    (hnew : IsPlaceholder new) : P (p.replace path new).root := by
  rw [Progress.replace]
  split
  · exact hp
  · rename_i htop
    exact hstep p.root path new (Bool.of_not_eq_true htop) hnew hp

/-- Working through cross-references keeps what a replacement keeps, whoever listens. -/
lemma resolveCandidates_root {selector detail : String} {listener : Listener} {dialect : Dialect}
    (candidates : List (Path × String)) {p : Progress} (hp : P p.root) :
    P (resolveCandidates selector listener dialect detail candidates p).root := by
  induction candidates generalizing p with
  | nil => exact hp
  | cons candidate rest ih =>
    obtain ⟨path, value⟩ := candidate
    rw [resolveCandidates]
    split
    · exact ih hp
    · rename_i id _
      have hreplaced := replace_root hstep hp path (reference_isPlaceholder dialect id.identifier)
      split
      · exact ih hreplaced
      · -- a refusal ends the pass behind the replacement
        dsimp only
        split
        · exact hreplaced
        · exact ih hreplaced

/-- Working through keywords keeps what a replacement keeps. -/
lemma rewriteCandidates_root {dialect : Dialect} (candidates : List (Path × String)) {p : Progress}
    (hp : P p.root) : P (rewriteCandidates dialect candidates p).root := by
  induction candidates generalizing p with
  | nil => exact hp
  | cons candidate rest ih =>
    obtain ⟨path, word⟩ := candidate
    rw [rewriteCandidates]
    split
    · exact ih hp
    · split
      · rename_i placeholder hplaceholder
        exact ih (replace_root hstep hp path (keywordReference_isPlaceholder hplaceholder))
      · exact hp

/-- Resolution keeps what a replacement below the top level keeps. -/
theorem resolved_root (context : Context) (listener : Listener) {root : Element} (hroot : P root) :
    P (resolved context listener root).root := by
  rw [resolved]
  split
  · exact hroot
  · have hcrefs (selector : String) {p : Progress} (hp : P p.root) :
        P (resolveCrefs selector listener (contextDialect context).1 (some context) p).root :=
      resolveCandidates_root hstep _ hp
    have hpasses {notices : List Notice} :=
      hcrefs "seealso" (hcrefs "see" (p := { root, notices }) hroot)
    rw [resolveReferences]
    dsimp only
    split
    · exact rewriteCandidates_root hstep _ hpasses
    · exact hpasses

end

/-! ## The top of a tree -/

/-- The tag and the attributes of an element. -/
def Markup.Element.head (e : Element) : String × Attributes :=
  (e.tag, e.attrs)

/-- What is seen of a tree from above: the tag of its root and the heads of the direct children. -/
def Markup.Element.topHeads (root : Element) : String × List (String × Attributes) :=
  (root.tag, (root.content.filterMap Node.toElement?).map Element.head)

/-- What is picked of a list that is modified in one place, if the change is not seen. -/
lemma filterMap_modify {α β : Type} {f : α → α} {g : α → Option β} (hfg : ∀ a, g (f a) = g a)
    (l : List α) (i : Nat) : (l.modify i f).filterMap g = l.filterMap g := by
  induction l generalizing i with
  | nil => rw [List.modify_nil]
  | cons a l ih =>
    cases i with
    | zero => rw [List.modify_zero_cons, List.filterMap_cons, List.filterMap_cons, hfg]
    | succ i => rw [List.modify_succ_cons, List.filterMap_cons, List.filterMap_cons, ih]

/-- Replacing inside a node does not change its head. -/
lemma head_replaceAt_cons (i : Nat) (path : Path) (new n : Node) :
    (replaceAt (i :: path) new n).toElement?.map Element.head
      = n.toElement?.map Element.head := by
  cases n with
  | text value => rfl
  | comment value => rfl
  | element tag attrs place content => rfl

/-- Replacing below the top level does not change what is seen from above. -/
lemma topHeads_replaceIn {path : Path} (htop : isTopLevel path = false) (root : Element)
    (new : Node) : (replaceIn root path new).topHeads = root.topHeads := by
  match path with
  | [] => exact absurd htop (by decide)
  | [_] => exact absurd htop (by simp [isTopLevel])
  | i :: j :: path =>
    show (root.tag, ((root.content.modify i (replaceAt (j :: path) new)).filterMap
      Node.toElement?).map Element.head) = root.topHeads
    rw [Element.topHeads, List.map_filterMap, List.map_filterMap,
      filterMap_modify (head_replaceAt_cons j path new)]

/-- Resolution does not change what is seen of a tree from above, whatever the context asks for and
whoever listens. -/
theorem topHeads_resolved (context : Context) (listener : Listener) (root : Element) :
    (resolved context listener root).root.topHeads = root.topHeads := by
  refine resolved_root (P := fun r => r.topHeads = root.topHeads) ?_ context listener rfl
  intro r path new htop _ hr
  rw [topHeads_replaceIn htop, hr]

end DocComment
