import DocComment.Markup.Doctype.Grammar
import DocComment.Markup.Encoding

/-!
# Reading documents

A document is read lexeme by lexeme into a tree. The tree under construction is a stack of open
elements; a reference to an entity reads the entity's text in place, and no element may begin on one
side of an entity's border and end on the other. The document is decoded and its line breaks are
made line feeds before anything is read. A carriage return that an entity brings in afterwards is a
character like any other, except in a comment. How much text the entities of a document bring in all
together is not limited.
-/

namespace DocComment.Markup

/-! ## The tree under construction -/

/-- An open element with its content so far, the last node first. -/
structure Frame where
  tag : String
  attrs : Attributes
  place : Position
  content : List Node

/-- A tree under construction: the open elements from the innermost on, the characters since the
last node with the last one first, and the root once it is closed. -/
structure Builder where
  frames : List Frame := []
  pending : List Char := []
  root : Option Element := none

namespace Builder

/-- How many elements are open. -/
def depth (b : Builder) : Nat :=
  b.frames.length

/-- Adds a node to the innermost element. -/
def add (b : Builder) (node : Node) : Builder :=
  match b.frames with
  | [] => b
  | top :: outer => { b with frames := { top with content := node :: top.content } :: outer }

/-- Makes a node of the characters since the last node, if there are any. -/
def flush (b : Builder) : Builder :=
  if b.pending.isEmpty then b
  else ({ b with pending := [] } : Builder).add (.text (String.ofList b.pending.reverse))

/-- Adds a character. -/
def character (b : Builder) (c : Char) : Builder :=
  { b with pending := c :: b.pending }

/-- Adds characters. -/
def characters (b : Builder) (s : List Char) : Builder :=
  { b with pending := s.reverse ++ b.pending }

/-- Adds a comment. -/
def comment (b : Builder) (body : List Char) : Builder :=
  b.flush.add (.comment (String.ofList body))

/-- Opens an element. -/
def openElement (b : Builder) (tag : String) (attrs : Attributes) (place : Position) : Builder :=
  let b := b.flush
  { b with frames := ⟨tag, attrs, place, []⟩ :: b.frames }

/-- Closes the innermost element. -/
def closeElement (b : Builder) : Builder :=
  let b := b.flush
  match b.frames with
  | [] => b
  | [top] =>
    { b with frames := [], root := some ⟨top.tag, top.attrs, some top.place, top.content.reverse⟩ }
  | top :: outer =>
    ({ b with frames := outer } : Builder).add
      (.element top.tag top.attrs (some top.place) top.content.reverse)

end Builder

/-! ## Content -/

/-- Where a text that is being read stands: in the document, or in an entity that is referred to at
a place of the document. -/
structure Scope where
  doc : Doctype
  /-- The place in the document at which so much of it is left. -/
  locate : Nat → Position
  /-- The entities that are being read. -/
  opened : List String := []
  /-- How much of the document is left at the outermost reference. -/
  reference : Option Nat := none
  /-- How many elements were open when the text began. -/
  floor : Nat := 0

namespace Scope

/-- How much of the document is left at a place of the text. -/
def remaining (scope : Scope) (here : Nat) : Nat :=
  scope.reference.getD here

/-- A failure at a place of the text. -/
def fail {α : Type} (scope : Scope) (fault : Fault) (here : Nat) : Except Failure α :=
  .error ⟨fault, scope.remaining here⟩

end Scope

/-- Opens the element of a start tag, and closes it again if the tag does. -/
def Builder.startTag (b : Builder) (scope : Scope) (tag : String) (raw : List RawAttribute)
    (closed : Bool) (here : Nat) : Except Failure Builder :=
  match scope.doc.attributes scope.opened tag raw with
  | .error complaint => scope.fail complaint.fault (complaint.remaining.getD here)
  | .ok attrs =>
    let b := b.openElement tag attrs (scope.locate (scope.remaining here))
    .ok (if closed then b.closeElement else b)

/-- Closes the element that an end tag names, which must be the innermost and must have been opened
in the same text. -/
def Builder.endTag (b : Builder) (scope : Scope) (tag : String) (here : Nat) :
    Except Failure Builder :=
  match b.frames with
  | [] => scope.fail .asynchronousEntity here
  | top :: _ =>
    if b.depth = scope.floor then scope.fail .asynchronousEntity here
    else if top.tag = tag then .ok b.closeElement
    else scope.fail .mismatchedTag (here - 2)

/-- Reads content until the text ends or the root element is closed; `expand` reads the text of a
declared entity in place. -/
def readContent (expand : Scope → String → List Char → Nat → Builder → Except Failure Builder)
    (scope : Scope) (s : List Char) (b : Builder) : Except Failure (Builder × List Char) :=
  match s with
  | [] =>
    if scope.floor = 0 then .error ⟨.unclosedElement, 0⟩
    else if b.depth = scope.floor then .ok (b, [])
    else scope.fail .asynchronousEntity 0
  | c :: rest =>
    let here := rest.length + 1
    match _h : Lexeme.next c rest with
    | .invalid bad => scope.fail .invalidToken bad.length
    | .incomplete => scope.fail .unclosedToken here
    | .found lexeme after =>
      match lexeme with
      | .character d => readContent expand scope after (b.character d)
      | .reference (.character (some d)) => readContent expand scope after (b.character d)
      | .reference (.character none) => scope.fail .invalidCharacterNumber here
      | .reference (.entity name) =>
        match predefined? name with
        | some d => readContent expand scope after (b.character d)
        | none =>
          match scope.doc.entity? name with
          | none =>
            if scope.doc.isLenient then readContent expand scope after b
            else scope.fail .undefinedEntity here
          | some body =>
            if scope.opened.contains name then scope.fail .recursiveEntity here
            else
              match body with
              | .unparsed => scope.fail .binaryEntity here
              | .external => readContent expand scope after b
              | .text value =>
                match expand scope name value here b with
                | .error failure => .error failure
                | .ok b => readContent expand scope after b
      | .startTag tag raw closed =>
        match b.startTag scope tag raw closed here with
        | .error failure => .error failure
        | .ok b => if b.depth = 0 then .ok (b, after) else readContent expand scope after b
      | .endTag tag =>
        match b.endTag scope tag here with
        | .error failure => .error failure
        | .ok b => if b.depth = 0 then .ok (b, after) else readContent expand scope after b
      | .comment body => readContent expand scope after (b.comment (Text.toLineFeeds body))
      | .instruction => readContent expand scope after b
      | .declaration => scope.fail .misplacedDeclaration here
      | .sectionOpen =>
        match _hs : scanSection after with
        | .error failure => scope.fail failure.fault failure.remaining
        | .ok (body, next) => readContent expand scope next (b.characters body)
termination_by s.length
decreasing_by
  all_goals
    have := Lexeme.next_leaves c rest _ after _h
    try have := scanSection_length _hs
    simp only [List.length_cons]; omega

/-- Reads the text of an entity in place; entities inside it are followed as far as `depth` says. -/
def expandEntity : (depth : Nat) → Scope → String → List Char → Nat → Builder →
    Except Failure Builder
  | 0, scope, _, _, here, _ => scope.fail .recursiveEntity here
  | depth + 1, scope, name, value, here, b =>
    let inner : Scope :=
      { scope with
        opened := name :: scope.opened
        reference := some (scope.remaining here)
        floor := b.depth }
    (readContent (expandEntity depth) inner value b).map (·.1)

/-! ## Documents -/

/-- The text without the byte order mark that it may begin with. -/
def dropMark : List Char → List Char
  | '\uFEFF' :: rest => rest
  | s => s

/-- Reads a text whose line breaks are line feeds. -/
def readLines (s : List Char) : Except Failure Element := do
  let (doc, body) ← Doctype.readProlog {} .start (dropMark s)
  let scope : Scope := { doc, locate := Position.ofRemaining s }
  let (b, rest) ← readContent (expandEntity doc.depth) scope body {}
  Doctype.checkEpilog rest
  match b.root with
  | some root => return root
  | none => .error ⟨.unclosedElement, 0⟩

/-- A failure at the end of an unclosed element or section is blamed on a carriage return that the
text ends with. -/
def blameLastReturn (text : List Char) (failure : Failure) : Failure :=
  if text.getLast? = some '\r' && failure.remaining = 0 &&
      (failure.fault = .unclosedElement || failure.fault = .unclosedCData) then
    ⟨failure.fault, 1⟩
  else failure

/-- Refuses a document at whose end something is left over, for this reason unless there is another
one before. -/
def refuse (remnant : Text.Utf16.Remnant) (text : List Char) (result : Except Failure Element) :
    Except Failure Element :=
  match result with
  | .ok root => if isIdle remnant text true then .ok root else .error ⟨remnantFault remnant, 0⟩
  | .error failure =>
    if isIdle remnant text (failure.fault ≠ .noElement) then .error (blameLastReturn text failure)
    else .error ⟨faultBefore remnant failure.fault, failure.remaining⟩

/-- Reads a document: its root element, or what is wrong and where. -/
def readDocument (text : List Char) : Except (Fault × Position) Element :=
  let (chars, remnant) := characters text
  let s := Text.toLineFeeds chars
  let result := match remnant with
    | none => (readLines s).mapError (blameLastReturn chars)
    | some remnant => refuse remnant chars (readLines s)
  result.mapError fun failure => (failure.fault, Position.ofRemaining s failure.remaining)

end DocComment.Markup
