import DocComment.Resolution
import Mathlib.Tactic.Common

/-!
# Rewriting a tree from the top down

A pass collects the elements it concerns with their paths and then replaces them one after another
in a tree that changes under its hands. This file relates that to a plain recursion:

* `Node.edit`, the recursion for substitutes that are chosen by path and element;
* `Node.rewrite`, the recursion for substitutes that are chosen by element alone and take effect
  from depth two on;
* `replaceAll_edits`: replacing at the collected paths, one at a time, is the recursion, as long as
  substitutes have no content. A path into an element that has been replaced then leads nowhere.
-/

namespace DocComment

open Markup

/-! ## The two recursions -/

mutual

/-- A node in which each outermost element that has a substitute gives way to it; paths lead from
the node. -/
def Markup.Node.edit (pick : Path → Element → Option Element) : Node → Node
  | .text value => .text value
  | .comment value => .comment value
  | .element tag attrs place content =>
    match pick [] ⟨tag, attrs, place, content⟩ with
    | some new => new.toNode
    | none => .element tag attrs place (editContent pick 0 content)

/-- A content with its nodes edited, given how many nodes stand before it. -/
def editContent (pick : Path → Element → Option Element) : Nat → List Node → List Node
  | _, [] => []
  | i, n :: rest => n.edit (fun path => pick (i :: path)) :: editContent pick (i + 1) rest

end

mutual

/-- A node at a depth, rewritten from the top down: from depth two on, each element that has a
substitute gives way to it with all it holds; every other node stays and is rewritten inside. -/
def Markup.Node.rewrite (pick : Element → Option Element) (depth : Nat) : Node → Node
  | .text value => .text value
  | .comment value => .comment value
  | .element tag attrs place content =>
    match if 2 ≤ depth then pick ⟨tag, attrs, place, content⟩ else none with
    | some new => new.toNode
    | none => .element tag attrs place (rewriteContent pick (depth + 1) content)

/-- A content at a depth, rewritten from the top down. -/
def rewriteContent (pick : Element → Option Element) (depth : Nat) : List Node → List Node
  | [] => []
  | n :: rest => n.rewrite pick depth :: rewriteContent pick depth rest

end

/-- A tree rewritten from the top down; its root stands at depth zero. -/
def Markup.Element.rewrite (pick : Element → Option Element) (root : Element) : Element :=
  { root with content := rewriteContent pick 1 root.content }

/-! ## Replacing one element at a time -/

/-- Replacements made one after another. -/
def replaceAll (edits : List (Path × Element)) (n : Node) : Node :=
  edits.foldl (fun n (path, new) => replaceAt path new.toNode n) n

/-- The replacements that substitutes ask for in a list of elements with their paths. -/
def editsIn (pick : Path → Element → Option Element) (found : List (Path × Element)) :
    List (Path × Element) :=
  found.filterMap fun (path, e) => (pick path e).map (path, ·)

/-- Paths that lead through the node at an index. -/
def under (i : Nat) (edits : List (Path × Element)) : List (Path × Element) :=
  edits.map fun (path, new) => (i :: path, new)

@[simp] lemma replaceAll_nil (n : Node) : replaceAll [] n = n := rfl

@[simp] lemma replaceAll_cons (path : Path) (new : Element) (edits : List (Path × Element))
    (n : Node) :
    replaceAll ((path, new) :: edits) n = replaceAll edits (replaceAt path new.toNode n) := rfl

lemma replaceAll_append (edits others : List (Path × Element)) (n : Node) :
    replaceAll (edits ++ others) n = replaceAll others (replaceAll edits n) := by
  rw [replaceAll, List.foldl_append]
  rfl

lemma editsIn_append (pick : Path → Element → Option Element) (found others) :
    editsIn pick (found ++ others) = editsIn pick found ++ editsIn pick others :=
  List.filterMap_append

lemma editsIn_cons_some {pick : Path → Element → Option Element} {path : Path} {e new : Element}
    (h : pick path e = some new) (found : List (Path × Element)) :
    editsIn pick ((path, e) :: found) = (path, new) :: editsIn pick found := by
  have hpick : (pick path e).map (path, ·) = some (path, new) := by rw [h]; rfl
  exact List.filterMap_cons_some hpick

lemma editsIn_cons_none {pick : Path → Element → Option Element} {path : Path} {e : Element}
    (h : pick path e = none) (found : List (Path × Element)) :
    editsIn pick ((path, e) :: found) = editsIn pick found := by
  have hpick : (pick path e).map (path, ·) = none := by rw [h]; rfl
  exact List.filterMap_cons_none hpick

/-- Collecting below an index is collecting with the index put before each path. -/
lemma editsIn_map_cons (pick : Path → Element → Option Element) (i : Nat)
    (found : List (Path × Element)) :
    editsIn pick (found.map fun (path, e) => (i :: path, e))
      = under i (editsIn (fun path => pick (i :: path)) found) := by
  rw [editsIn, List.filterMap_map, under, editsIn, List.map_filterMap]
  congr 1
  funext ⟨path, e⟩
  simp only [Function.comp_apply, Option.map_map]
  rfl

private lemma modify_length_append {α : Type} (f : α → α) (before : List α) (a : α)
    (after : List α) :
    (before ++ a :: after).modify before.length f = before ++ f a :: after := by
  induction before with
  | nil => rfl
  | cons b before ih => rw [List.cons_append, List.length_cons, List.modify_succ_cons, ih]; rfl

/-- Replacements below the node at an index change that node only. -/
lemma replaceAll_under (tag : String) (attrs : Attributes) (place : Option Position)
    (before : List Node) (n : Node) (after : List Node) (edits : List (Path × Element)) :
    replaceAll (under before.length edits) (.element tag attrs place (before ++ n :: after))
      = .element tag attrs place (before ++ replaceAll edits n :: after) := by
  induction edits generalizing n with
  | nil => rfl
  | cons edit edits ih =>
    obtain ⟨path, new⟩ := edit
    rw [under, List.map_cons, replaceAll_cons, replaceAt, modify_length_append, ← under, ih,
      replaceAll_cons]

/-- Below an element without content there is nothing to replace. -/
lemma replaceAll_under_of_childless (new : Element) (hnew : new.content = []) (i : Nat)
    (edits : List (Path × Element)) :
    replaceAll (under i edits) new.toNode = new.toNode := by
  have hnode : new.toNode = .element new.tag new.attrs new.place [] := by
    rw [← hnew]
    rfl
  induction edits with
  | nil => rfl
  | cons edit edits ih =>
    obtain ⟨path, other⟩ := edit
    have hstep : replaceAt (i :: path) other.toNode new.toNode = new.toNode := by
      rw [hnode, replaceAt, List.modify_nil]
    rw [under, List.map_cons, replaceAll_cons, hstep, ← under, ih]

/-- The replacements in a content: those in its first node, then those in the rest. -/
lemma editsIn_contentPaths_cons (pick : Path → Element → Option Element) (i : Nat) (n : Node)
    (rest : List Node) :
    editsIn pick (contentPaths i (n :: rest))
      = under i (editsIn (fun path => pick (i :: path)) (elementPaths n))
        ++ editsIn pick (contentPaths (i + 1) rest) := by
  rw [contentPaths, editsIn_append, editsIn_map_cons]

/-- An element that has been replaced is not changed by what was collected inside the old one. -/
lemma replaceAll_contentPaths_of_childless (pick : Path → Element → Option Element)
    (new : Element) (hnew : new.content = []) (i : Nat) (content : List Node) :
    replaceAll (editsIn pick (contentPaths i content)) new.toNode = new.toNode := by
  induction content generalizing i with
  | nil => rfl
  | cons n rest ih =>
    rw [editsIn_contentPaths_cons, replaceAll_append, replaceAll_under_of_childless new hnew, ih]

mutual

/-- Replacing at the collected paths, one at a time, is editing from the top down. -/
theorem replaceAll_edits (pick : Path → Element → Option Element)
    (hleaf : ∀ path e new, pick path e = some new → new.content = []) (n : Node) :
    replaceAll (editsIn pick (elementPaths n)) n = n.edit pick := by
  match n with
  | .text _ => rfl
  | .comment _ => rfl
  | .element tag attrs place content =>
    rw [elementPaths, Node.edit]
    cases hnew : pick [] ⟨tag, attrs, place, content⟩ with
    | some new =>
      -- the old content is gone, and so is everything collected in it
      rw [editsIn_cons_some hnew, replaceAll_cons, replaceAt]
      exact replaceAll_contentPaths_of_childless pick new (hleaf _ _ _ hnew) 0 content
    | none =>
      rw [editsIn_cons_none hnew]
      exact replaceAll_editsContent pick hleaf tag attrs place [] content

/-- What is collected in the nodes behind `before` edits them and leaves `before` alone. -/
theorem replaceAll_editsContent (pick : Path → Element → Option Element)
    (hleaf : ∀ path e new, pick path e = some new → new.content = []) (tag : String)
    (attrs : Attributes) (place : Option Position) (before content : List Node) :
    replaceAll (editsIn pick (contentPaths before.length content))
        (.element tag attrs place (before ++ content))
      = .element tag attrs place (before ++ editContent pick before.length content) := by
  match content with
  | [] => rfl
  | n :: rest =>
    have hn := replaceAll_edits (fun path => pick (before.length :: path))
      (fun path => hleaf (before.length :: path)) n
    have hrest := replaceAll_editsContent pick hleaf tag attrs place
      (before ++ [n.edit fun path => pick (before.length :: path)]) rest
    rw [List.length_append, List.length_singleton, List.append_assoc, List.append_assoc] at hrest
    rw [editsIn_contentPaths_cons, replaceAll_append, replaceAll_under, hn, editContent]
    exact hrest

end

/-! ## Substitutes that do not look at the path -/

/-- Substitutes that take effect from depth two on, for a node that stands at a depth. -/
def fromDepthTwo (pick : Element → Option Element) (depth : Nat) (path : Path) (e : Element) :
    Option Element :=
  if 2 ≤ depth + path.length then pick e else none

lemma fromDepthTwo_cons (pick : Element → Option Element) (depth i : Nat) :
    (fun path => fromDepthTwo pick depth (i :: path)) = fromDepthTwo pick (depth + 1) := by
  funext path e
  rw [fromDepthTwo, fromDepthTwo, List.length_cons, show depth + (path.length + 1)
    = depth + 1 + path.length by omega]

mutual

/-- Editing from depth two on is rewriting. -/
theorem edit_fromDepthTwo (pick : Element → Option Element) (depth : Nat) (n : Node) :
    n.edit (fromDepthTwo pick depth) = n.rewrite pick depth := by
  match n with
  | .text _ => rfl
  | .comment _ => rfl
  | .element tag attrs place content =>
    rw [Node.edit, Node.rewrite, editContent_fromDepthTwo pick depth 0 content]
    rfl

/-- Editing a content from depth two on is rewriting it. -/
theorem editContent_fromDepthTwo (pick : Element → Option Element) (depth i : Nat)
    (content : List Node) :
    editContent (fromDepthTwo pick depth) i content
      = rewriteContent pick (depth + 1) content := by
  match content with
  | [] => rfl
  | n :: rest =>
    rw [editContent, rewriteContent, fromDepthTwo_cons, edit_fromDepthTwo pick (depth + 1) n,
      editContent_fromDepthTwo pick depth (i + 1) rest]

end

lemma content_of_fromDepthTwo {pick : Element → Option Element}
    (hleaf : ∀ e new, pick e = some new → new.content = []) {depth : Nat} {path : Path}
    {e new : Element} (h : fromDepthTwo pick depth path e = some new) : new.content = [] := by
  rw [fromDepthTwo] at h
  split at h
  · exact hleaf e new h
  · cases h

/-- Replacing from depth two on, one element at a time, is rewriting the tree. -/
theorem replaceAll_fromDepthTwo {pick : Element → Option Element}
    (hleaf : ∀ e new, pick e = some new → new.content = []) (root : Element) :
    replaceAll (editsIn (fromDepthTwo pick 0) (elementPaths root.toNode)) root.toNode
      = (root.rewrite pick).toNode := by
  rw [replaceAll_edits _ fun _ _ _ => content_of_fromDepthTwo hleaf, edit_fromDepthTwo]
  rfl

end DocComment
