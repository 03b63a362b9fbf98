import DocComment.Markup.Node

/-!
# What can be wrong with a document

Each cause of a failed reading with its wording, and the place that is blamed for it.
-/

namespace DocComment.Markup

/-- Why a text is no document. -/
inductive Fault where
  /-- A token that the grammar of the prolog does not allow here. -/
  | unexpected
  /-- The text ends before the root element begins. -/
  | noElement
  /-- The text ends inside the root element. -/
  | unclosedElement
  | invalidToken
  | unclosedToken
  /-- The text breaks off inside a character. -/
  | partialCharacter
  | mismatchedTag
  | duplicateAttribute
  | junkAfterRoot
  | parameterEntityInDeclaration
  | undefinedEntity
  | recursiveEntity
  | asynchronousEntity
  | invalidCharacterNumber
  | binaryEntity
  | externalEntityInAttribute
  | misplacedDeclaration
  | unclosedCData
  | malformedDeclaration
  | invalidPublicId
deriving DecidableEq, Repr

/-- The wording of a fault. -/
def Fault.message : Fault → String
  | unexpected => "syntax error"
  | noElement => "no element found"
  | unclosedElement => "no element found"
  | invalidToken => "not well-formed (invalid token)"
  | unclosedToken => "unclosed token"
  | partialCharacter => "partial character"
  | mismatchedTag => "mismatched tag"
  | duplicateAttribute => "duplicate attribute"
  | junkAfterRoot => "junk after document element"
  | parameterEntityInDeclaration => "illegal parameter entity reference"
  | undefinedEntity => "undefined entity"
  | recursiveEntity => "recursive entity reference"
  | asynchronousEntity => "asynchronous entity"
  | invalidCharacterNumber => "reference to invalid character number"
  | binaryEntity => "reference to binary entity"
  | externalEntityInAttribute => "reference to external entity in attribute"
  | misplacedDeclaration => "XML or text declaration not at start of entity"
  | unclosedCData => "unclosed CDATA section"
  | malformedDeclaration => "XML declaration not well-formed"
  | invalidPublicId => "illegal character(s) in public id"

/-- A fault and the place that it is found at, given by how much of the text is left there. -/
structure Failure where
  fault : Fault
  remaining : Nat
deriving DecidableEq, Repr

/-- The place after one more character; a line feed begins a new line. -/
def Position.step (p : Position) (c : Char) : Position :=
  if c = '\n' then ⟨p.line + 1, 0⟩ else ⟨p.line, p.column + 1⟩

/-- The place after a text. -/
def Position.after (s : List Char) : Position :=
  s.foldl Position.step ⟨1, 0⟩

/-- The place in a text at which so many characters are left. -/
def Position.ofRemaining (s : List Char) (remaining : Nat) : Position :=
  Position.after (s.take (s.length - remaining))

end DocComment.Markup
