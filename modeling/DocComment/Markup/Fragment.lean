import DocComment.Markup.Reader
import DocComment.Text.Blank

/-!
# Comment fragments

A comment arrives either as a `member` element or as a bare sequence of elements. A fragment is put
inside a `member` element on a line of its own, so that its columns do not move and its lines move
by one.
-/

namespace DocComment.Markup

open DocComment.Text

/-- The tag of the element that a comment is. -/
def rootTag : String :=
  "member"

/-- The tree of a comment, and how many lines its wrapping added before it. -/
structure Tree where
  root : Element
  lineOffset : Nat

/-- Why a comment could not be read. -/
structure MarkupError where
  fault : Fault
  /-- The place in the wrapped text. -/
  position : Position
  lineOffset : Nat
deriving Repr

/-- The wording of an error. -/
def MarkupError.message (e : MarkupError) : String :=
  "Malformed doc comment: " ++ e.fault.message ++ ": line " ++ toString e.position.line ++
    ", column " ++ toString e.position.column

/-- The line of an error in the text before wrapping. -/
def MarkupError.line (e : MarkupError) : Nat :=
  e.position.line - e.lineOffset

namespace Tree

/-- The line that an element was read on, in the text before wrapping. -/
def line? (t : Tree) (e : Element) : Option Nat :=
  e.place.map fun p => p.line - t.lineOffset

/-- The column that an element was read at; an element that was not read stands at zero. -/
def column (e : Element) : Nat :=
  (e.place.map (·.column)).getD 0

/-- The direct children of the root with a tag; a root that is no comment has none. -/
def children (t : Tree) (tag : String) : List Element :=
  if t.root.tag = rootTag then t.root.childrenNamed tag else []

/-- The first direct child of the root with a tag. -/
def firstChild? (t : Tree) (tag : String) : Option Element :=
  (t.children tag).head?

end Tree

/-! ## Wrapping -/

/-- The declaration that a text begins with, up to the first `>`, which a question mark must
precede; and the text after it. -/
def splitDeclaration? (s : List Char) : Option (List Char × List Char) :=
  if "<?xml".toList.isPrefixOf s then
    let body := (s.drop 5).takeWhile (· ≠ '>')
    match (s.drop 5).dropWhile (· ≠ '>') with
    | '>' :: rest =>
      if body.getLast? = some '?' then some ("<?xml".toList ++ body ++ ['>'], rest) else none
    | _ => none
  else none

/-- Whether a text begins with the start of a `member` tag. -/
def startsMember (s : List Char) : Bool :=
  "<member".toList.isPrefixOf s &&
    (match s.drop 7 with
      | c :: _ => isBlank c || c = '/' || c = '>'
      | [] => false)

/-- Whether somewhere in a text a comment ends and, after white space, a `member` tag starts. -/
def memberAfterComment : List Char → Bool
  | [] => false
  | c :: rest =>
    ("-->".toList.isPrefixOf (c :: rest) && startsMember ((rest.drop 2).dropWhile isBlank)) ||
      memberAfterComment rest

/-- Whether a text begins with a `member` tag, possibly after white space, a declaration and
comments. Of the comments only the opening of the first and the end of the last are looked at. -/
def isRooted (s : List Char) : Bool :=
  let s := s.dropWhile isBlank
  let s := match splitDeclaration? s with
    | some (_, rest) => rest.dropWhile isBlank
    | none => s
  startsMember s || ("<!--".toList.isPrefixOf s && memberAfterComment (s.drop 4))

/-- A text inside a `member` element. A declaration stays first and leaves blanks where it was. -/
def wrap (s : List Char) : List Char :=
  let (declaration, body) := match splitDeclaration? s with
    | some (declaration, rest) => (declaration, List.replicate declaration.length ' ' ++ rest)
    | none => ([], s)
  declaration ++ "<member>\n".toList ++ body ++ "\n</member>".toList

/-- Reads a text as it stands. -/
def parseDocument (s : List Char) (lineOffset : Nat) : Except MarkupError Tree :=
  match readDocument s with
  | .ok root => .ok ⟨root, lineOffset⟩
  | .error (fault, position) => .error ⟨fault, position, lineOffset⟩

/-- Reads a comment; a fragment is wrapped if `wrapFragments` says so. -/
def parse (text : String) (wrapFragments : Bool := true) : Except MarkupError Tree :=
  if wrapFragments && !isRooted text.toList then parseDocument (wrap text.toList) 1
  else parseDocument text.toList 0

end DocComment.Markup
