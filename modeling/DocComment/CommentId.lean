import DocComment.Text.Word

/-!
# Comment ids

A comment id such as `T:System.String` names a declaration: one letter for its kind, a colon and an
identifier. An identifier begins with a word character that is no ASCII digit and goes on with word
characters and the punctuation of generic, array, pointer and parameter lists.
-/

namespace DocComment

/-- The kind of declaration that a comment id names. -/
inductive Kind where
  | scope
  | type
  | method
  | property
  | field
  | event
deriving DecidableEq, Repr

namespace Kind

/-- The letter that stands for a kind. -/
def letter : Kind → Char
  | scope => 'N'
  | type => 'T'
  | method => 'M'
  | property => 'P'
  | field => 'F'
  | event => 'E'

/-- The kind that a letter stands for. -/
def ofLetter? : Char → Option Kind
  | 'N' => some scope
  | 'T' => some type
  | 'M' => some method
  | 'P' => some property
  | 'F' => some field
  | 'E' => some event
  | _ => none

/-- The lower-case name of a kind. -/
def name : Kind → String
  | scope => "namespace"
  | type => "type"
  | method => "method"
  | property => "property"
  | field => "field"
  | event => "event"

end Kind

/-- A comment id split into its kind and its bare identifier. -/
structure CommentId where
  kind : Kind
  identifier : String
deriving DecidableEq, Repr

namespace CommentId

/-- Whether a character may begin an identifier: a word character that is no ASCII digit. -/
def isHead (c : Char) : Bool :=
  Text.isWord c && !c.isDigit

/-- The punctuation that an identifier may hold after its first character. -/
def punctuation : List Char :=
  "().\x7b\x7d[]|*^~#@!`,_<>:".toList

/-- Whether a character may stand in an identifier after its first character. -/
def isTail (c : Char) : Bool :=
  Text.isWord c || punctuation.contains c

/-- A comment id as written: letter, colon, identifier. -/
def raw (id : CommentId) : String :=
  String.ofList (id.kind.letter :: ':' :: id.identifier.toList)

/-- Reads a comment id; anything that is not exactly one is refused. -/
def ofString? (s : String) : Option CommentId :=
  match s.toList with
  | letter :: ':' :: head :: tail =>
    match Kind.ofLetter? letter with
    | some kind =>
      if isHead head && tail.all isTail then some ⟨kind, String.ofList (head :: tail)⟩ else none
    | none => none
  | _ => none

end CommentId

end DocComment
