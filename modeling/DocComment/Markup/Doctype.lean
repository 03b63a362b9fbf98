import DocComment.Markup.Lexeme
import DocComment.Text.Lines

/-!
# Document types

What the declarations at the head of a document say: the entities that may be referred to, and the
attributes whose values are normalised or supplied. Beside them stand the rules for what a reference
stands for in an attribute value.
-/

namespace DocComment.Markup

/-- What an entity stands for: a text, something outside the document, or data in some notation. -/
inductive EntityBody where
  | text (value : List Char)
  | external
  | unparsed

/-- What is declared of an attribute. -/
structure AttributeRule where
  name : String
  /-- The values are lists of tokens, so layout in them is collapsed. -/
  tokenized : Bool
  default : Option String

/-- The declarations of a document. -/
structure Doctype where
  entities : List (String × EntityBody) := []
  /-- The attribute rules with the element that each is for, in order of declaration. -/
  rules : List (String × AttributeRule) := []
  standalone : Bool := false
  /-- Some declarations stand outside the document and have not been read. -/
  incomplete : Bool := false
  /-- Declarations are ignored, since an unread one before them might come first. -/
  ignoring : Bool := false

namespace Doctype

/-- Whether a reference to an undeclared entity may be passed over. -/
def isLenient (doc : Doctype) : Bool :=
  doc.incomplete && !doc.standalone

/-- What an entity stands for. -/
def entity? (doc : Doctype) (name : String) : Option EntityBody :=
  doc.entities.lookup name

/-- Declares an entity; the first declaration of a name counts. -/
def declareEntity (doc : Doctype) (name : String) (body : EntityBody) : Doctype :=
  if (doc.entity? name).isSome then doc
  else { doc with entities := doc.entities ++ [(name, body)] }

/-- The rules for the attributes of an element. -/
def rulesFor (doc : Doctype) (tag : String) : List AttributeRule :=
  (doc.rules.filter (·.1 == tag)).map (·.2)

/-- Declares an attribute of an element; a default or an identifier for an attribute that has a rule
already is ignored. -/
def declareAttribute (doc : Doctype) (tag : String) (rule : AttributeRule) (isId : Bool) :
    Doctype :=
  if (rule.default.isSome || isId) && (doc.rulesFor tag).any (·.name == rule.name) then doc
  else { doc with rules := doc.rules ++ [(tag, rule)] }

/-- Whether layout is collapsed in the values of an attribute. -/
def isTokenized (doc : Doctype) (tag name : String) : Bool :=
  ((doc.rulesFor tag).find? (·.name == name)).any (·.tokenized)

end Doctype

/-- The five entities that need no declaration. -/
def predefined? : String → Option Char
  | "lt" => some '<'
  | "gt" => some '>'
  | "amp" => some '&'
  | "quot" => some '"'
  | "apos" => some '\''
  | _ => none

/-- A fault with the place to blame, if it is not the beginning of the token. -/
structure Complaint where
  fault : Fault
  remaining : Option Nat

/-- The failure that a complaint is for a token at a place. -/
def Complaint.toFailure (complaint : Complaint) (remaining : Nat) : Failure :=
  ⟨complaint.fault, complaint.remaining.getD remaining⟩

/-! ## Attribute values -/

/-- A text as the pieces of an attribute value, up to the first place where it is none; `after` says
how much of the document follows the text. -/
def piecesOf (after : Nat) (s : List Char) : List Piece × Option Complaint :=
  match s with
  | [] => ([], none)
  | c :: rest =>
    match _h : scanPiece c rest with
    | .found piece next =>
      let (pieces, complaint) := piecesOf after next
      (match piece with
        | .reference target remaining => .reference target (remaining + after)
        | .character c => .character c) |> fun piece => (piece :: pieces, complaint)
    | .invalid bad => ([], some ⟨.invalidToken, some (bad.length + after)⟩)
    | .incomplete => ([], some ⟨.invalidToken, some (rest.length + 1 + after)⟩)
termination_by s.length
decreasing_by
  have := scanPiece_leaves c rest piece next _h
  simp; omega

/-- The characters that the pieces of an attribute value stand for: layout becomes blanks,
references are replaced, and entities inside entities are followed as far as `depth` says. Entities
that are being replaced already may not be referred to. -/
def Doctype.expand (doc : Doctype) :
    (depth : Nat) → (opened : List String) → List Piece → Except Complaint (List Char)
  | 0, _, _ => .error ⟨.recursiveEntity, none⟩
  | depth + 1, opened, pieces => do
    let parts ← pieces.mapM fun
      | .character c => .ok [if isSpace c then ' ' else c]
      | .reference (.character (some c)) _ => .ok [c]
      | .reference (.character none) remaining => .error ⟨.invalidCharacterNumber, some remaining⟩
      | .reference (.entity name) remaining =>
        match predefined? name with
        | some c => .ok [c]
        | none =>
          match doc.entity? name with
          | none => if doc.isLenient then .ok [] else .error ⟨.undefinedEntity, none⟩
          | some body =>
            if opened.contains name then .error ⟨.recursiveEntity, some remaining⟩
            else
              match body with
              | .unparsed => .error ⟨.binaryEntity, some remaining⟩
              | .external => .error ⟨.externalEntityInAttribute, some remaining⟩
              | .text value =>
                let (inner, complaint) := piecesOf 0 value
                match doc.expand depth (name :: opened) inner, complaint with
                | .error e, _ => .error ⟨e.fault, none⟩
                | .ok _, some e => .error ⟨e.fault, none⟩
                | .ok chars, none => .ok chars
    return parts.flatten

/-- How deep entities can stand inside each other without one standing inside itself. -/
def Doctype.depth (doc : Doctype) : Nat :=
  doc.entities.length + 1

/-- Keeps a blank only after a character and before one; `last` is what was kept before. -/
def collapseBlanksAfter : (last : Option Char) → List Char → List Char
  | _, [] => []
  | last, c :: rest =>
    if c = ' ' then
      if last.isNone || last = some ' ' || rest.all (· = ' ') then collapseBlanksAfter last rest
      else ' ' :: collapseBlanksAfter (some ' ') rest
    else c :: collapseBlanksAfter (some c) rest

/-- A value without blanks at its ends and with single blanks inside. -/
def collapseBlanks (s : List Char) : List Char :=
  collapseBlanksAfter none s

/-- The value of an attribute from its pieces. -/
def Doctype.attributeValue (doc : Doctype) (opened : List String) (tokenized : Bool)
    (pieces : List Piece) : Except Complaint String := do
  let chars ← doc.expand doc.depth opened pieces
  return String.ofList (if tokenized then collapseBlanks chars else chars)

/-- The attributes that a tag gives, in order; no name may be given twice. -/
def Doctype.givenAttributes (doc : Doctype) (opened : List String) (tag : String) :
    (seen : List String) → List RawAttribute → Except Complaint Attributes
  | _, [] => .ok []
  | seen, a :: rest =>
    if seen.contains a.name then .error ⟨.duplicateAttribute, some a.remaining⟩
    else do
      let value ← doc.attributeValue opened (doc.isTokenized tag a.name) a.value
      let others ← doc.givenAttributes opened tag (a.name :: seen) rest
      return (a.name, value) :: others

/-- The attributes of an element: those its tag gives, then the declared defaults of the others. -/
def Doctype.attributes (doc : Doctype) (opened : List String) (tag : String)
    (raw : List RawAttribute) : Except Complaint Attributes := do
  let given ← doc.givenAttributes opened tag [] raw
  let defaults := (doc.rulesFor tag).filterMap fun rule =>
    if given.any (·.1 == rule.name) then none else rule.default.map (rule.name, ·)
  return given ++ defaults

end DocComment.Markup
