import DocComment.CommentId
import DocComment.Context
import DocComment.Dialect
import DocComment.Notice

/-!
# Resolved references

Cross-references that stand below the direct children of a comment are replaced by placeholders of
the dialect. A pass over a tree first collects the elements it concerns with their paths and then
works through them in document order. A placeholder has no content, so a path that leads through one
leads nowhere, and replacing there changes nothing.
-/

namespace DocComment

open Markup

/-! ## Paths -/

/-- The way from an element down to a node: at each step, how many nodes are passed over. -/
abbrev Path := List Nat

mutual

/-- The elements of a node with their paths, in document order. -/
def elementPaths : Node → List (Path × Element)
  | .text _ => []
  | .comment _ => []
  | .element tag attrs place content =>
    ([], ⟨tag, attrs, place, content⟩) :: contentPaths 0 content

/-- The elements of a content with their paths, given how many nodes stand before it. -/
def contentPaths : Nat → List Node → List (Path × Element)
  | _, [] => []
  | i, n :: rest => (elementPaths n).map (fun (p, e) => (i :: p, e)) ++ contentPaths (i + 1) rest

end

/-- A node with the node at the end of a path replaced; a path that leads nowhere changes nothing.
-/
def replaceAt : Path → Node → Node → Node
  | [], new, _ => new
  | i :: path, new, .element tag attrs place content =>
    .element tag attrs place (content.modify i (replaceAt path new))
  | _ :: _, _, n => n

/-- Whether a path leads to the root or one of its direct children. -/
def isTopLevel (path : Path) : Bool :=
  path.length < 2

/-- An element with a node inside it replaced. -/
def replaceIn (root : Element) (path : Path) (new : Node) : Element :=
  ((replaceAt path new root.toNode).toElement?).getD root

/-! ## Listeners -/

/-- Who is told of references: nobody, or a listener that takes note of every identifier and may
refuse to go on; whether it does depends on how many identifiers it has been told. -/
inductive Listener where
  | absent
  | recording (refuses : Nat → Bool)

namespace Listener

/-- A listener that never refuses. -/
def recorder : Listener :=
  recording fun _ => false

/-- A listener that refuses at its `n`-th identifier. -/
def refusingAt (n : Int) : Listener :=
  recording fun count => (count : Int) == n

end Listener

/-! ## Passes -/

/-- A tree with what a pass over it has reported and noticed so far. -/
structure Progress where
  root : Element
  reports : List String := []
  notices : List Notice := []

namespace Progress

/-- Adds a notice. -/
def notice (p : Progress) (n : Notice) : Progress :=
  { p with notices := p.notices ++ [n] }

/-- Reports an identifier. -/
def report (p : Progress) (identifier : String) : Progress :=
  { p with reports := p.reports ++ [identifier] }

/-- Replaces the element at a path, unless it stands at the top level. -/
def replace (p : Progress) (path : Path) (new : Element) : Progress :=
  if isTopLevel path then p else { p with root := replaceIn p.root path new.toNode }

end Progress

/-- Which elements a pass concerns: those with a tag, or all. -/
def selects (selector : String) (e : Element) : Bool :=
  selector == "*" || e.tag == selector

/-- The elements that a pass over cross-references concerns, each with its path and its value. -/
def crefCandidates (selector : String) (root : Element) : List (Path × String) :=
  (elementPaths root.toNode).filterMap fun (path, e) =>
    if selects selector e then (e.attr? "cref").map (path, ·) else none

/-- Works through cross-references: an invalid one is noticed and left alone; a valid one is
replaced, unless it stands at the top level, and then reported. A refusal ends the pass. -/
def resolveCandidates (selector : String) (listener : Listener) (dialect : Dialect)
    (detail : String) : List (Path × String) → Progress → Progress
  | [], p => p
  | (path, value) :: rest, p =>
    match CommentId.ofString? value with
    | none =>
      resolveCandidates selector listener dialect detail rest (p.notice (.invalidCref value detail))
    | some id =>
      let p := p.replace path (dialect.reference id.identifier)
      match listener with
      | .absent => resolveCandidates selector listener dialect detail rest p
      | .recording refuses =>
        let p := p.report id.identifier
        if refuses p.reports.length then p.notice (.crefsAbandoned selector)
        else resolveCandidates selector listener dialect detail rest p

/-- Resolves the cross-references of the selected elements. -/
def resolveCrefs (selector : String) (listener : Listener) (dialect : Dialect)
    (source : Option Context) (p : Progress) : Progress :=
  resolveCandidates selector listener dialect ((source.map Context.describe).getD "")
    (crefCandidates selector p.root) p

/-- The elements that name a keyword and refer to nothing, each with its path and the keyword. -/
def langwordCandidates (root : Element) : List (Path × String) :=
  (elementPaths root.toNode).filterMap fun (path, e) =>
    match e.attr? "langword" with
    | some word =>
      if e.tag == "see" && !word.isEmpty && (e.attr? "cref").isNone then some (path, word) else none
    | none => none

/-- Works through keywords below the top level: each is replaced by the dialect's placeholder. A
dialect without a keyword table ends the pass. -/
def rewriteCandidates (dialect : Dialect) : List (Path × String) → Progress → Progress
  | [], p => p
  | (path, word) :: rest, p =>
    if isTopLevel path then rewriteCandidates dialect rest p
    else
      match dialect.keywordReference? (Text.stripString word) with
      | some placeholder => rewriteCandidates dialect rest (p.replace path placeholder)
      | none => p.notice .langwordsAbandoned

/-- Replaces the keywords of a tree by placeholders. -/
def rewriteLangwords (dialect : Dialect) (p : Progress) : Progress :=
  rewriteCandidates dialect (langwordCandidates p.root) p

end DocComment
