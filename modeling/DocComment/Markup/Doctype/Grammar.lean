import DocComment.Markup.Declaration
import DocComment.Markup.Doctype
import DocComment.Markup.Doctype.Token

/-!
# The grammar before the root element

An automaton over the tokens of the prolog. Its states say what may come next and carry what the
declaration at hand has said so far; its steps collect entities and attribute rules.
-/

namespace DocComment.Markup.Doctype

open DocComment.Markup

/-- How the members of a group in a content model are joined. -/
inductive Joint where
  | choice
  | sequence
deriving DecidableEq

/-- An attribute that is being declared. -/
structure Declaring where
  tag : String
  name : String
  tokenized : Bool
  isId : Bool

/-- What may come next before the root element. An entity that is being declared is `none` when its
declaration has no effect. -/
inductive Expect where
  | start
  | heading
  | afterDoctype
  | doctypeName
  | doctypeBody
  | doctypePublicId
  | doctypeSystemId
  | doctypeSubset
  | doctypeEnd
  | subset
  | entityName
  | parameterName
  | entityBody (entity : Option String) (isParameter : Bool)
  | entityPublicId (entity : Option String) (isParameter : Bool)
  | entitySystemId (entity : Option String) (isParameter : Bool)
  | entityTail (entity : Option String) (isParameter : Bool)
  | entityNotation (entity : Option String)
  | notationName
  | notationBody
  | notationPublicId
  | notationSystemId
  | notationTail
  | attributeElement
  | attributeName (tag : String)
  | attributeType (tag name : String)
  | choiceValue (attr : Declaring)
  | choiceNext (attr : Declaring)
  | notationOpen (attr : Declaring)
  | notationValue (attr : Declaring)
  | notationNext (attr : Declaring)
  | attributeDefault (attr : Declaring)
  | fixedDefault (attr : Declaring)
  | elementName
  | elementBody
  | groupStart
  | mixedNext
  | mixedName
  | mixedMore
  | groupMember (joints : List (Option Joint))
  | groupNext (joints : List (Option Joint))
  | declarationEnd

/-- The fault that a token is where the grammar does not allow it. -/
def refusal : Token → Fault
  | .parameterReference => .parameterEntityInDeclaration
  | .instruction (.declaration _ _) => .misplacedDeclaration
  | _ => .unexpected

/-- Whether a character may stand in a public identifier. -/
def isPublicIdChar (c : Char) : Bool :=
  c.isAlphanum || c = ' ' || c = '\n' || c = '\r' || "-'()+,./:=?;!*#@$_%".toList.contains c

/-- Checks a public identifier; `after` says how much of the document follows its closing quote. -/
def checkPublicId (after : Nat) : List Char → Except Failure Unit
  | [] => .ok ()
  | c :: rest =>
    if isPublicIdChar c then checkPublicId after rest
    else .error ⟨.invalidPublicId, rest.length + 2 + after⟩

/-- The text that an entity is declared to stand for: character references are replaced and
references to entities kept; `after` says how much of the document follows the closing quote. -/
def entityValue (after : Nat) (s : List Char) : Except Failure (List Char) :=
  match s with
  | [] => .ok []
  | c :: rest =>
    let here := rest.length + 2 + after
    if c = '&' then
      match _h : scanReference rest with
      | .found (.character (some d)) next => do
        let value ← entityValue after next
        return d :: value
      | .found (.character none) _ => .error ⟨.invalidCharacterNumber, here⟩
      | .found (.entity name) next => do
        let value ← entityValue after next
        return '&' :: name.toList ++ ';' :: value
      | .invalid bad => .error ⟨.invalidToken, bad.length + 1 + after⟩
      | .incomplete => .error ⟨.invalidToken, here⟩
    else if c = '%' then
      match scanPercent rest with
      | .found .parameterReference _ => .error ⟨.parameterEntityInDeclaration, here⟩
      | .found _ next => .error ⟨.invalidToken, next.length + 1 + after⟩
      | .invalid bad => .error ⟨.invalidToken, bad.length + 1 + after⟩
      | .incomplete => .error ⟨.invalidToken, here⟩
    else do
      let value ← entityValue after rest
      return c :: value
termination_by s.length
decreasing_by
  · have := scanReference_leaves rest _ _ _h
    simp; omega
  · have := scanReference_leaves rest _ _ _h
    simp; omega
  · simp

/-- The declared default of an attribute from its literal. -/
def defaultValue (doc : Doctype) (attr : Declaring) (here after : Nat) (body : List Char) :
    Except Failure String := do
  let (pieces, complaint) := piecesOf (after + 1) body
  match doc.attributeValue [] attr.tokenized pieces, complaint with
  | .error e, _ => .error (e.toFailure here)
  | .ok _, some e => .error (e.toFailure here)
  | .ok value, none => .ok value

/-- Records an attribute rule, unless declarations are being ignored. -/
def record (doc : Doctype) (attr : Declaring) (default : Option String) : Doctype :=
  if doc.ignoring then doc
  else doc.declareAttribute attr.tag ⟨attr.name, attr.tokenized, default⟩ attr.isId

/-- Records an attribute rule with a default value. -/
def recordDefault (doc : Doctype) (attr : Declaring) (here after : Nat) (body : List Char) :
    Except Failure Doctype := do
  if doc.ignoring then return doc
  let value ← defaultValue doc attr here after body
  return record doc attr (some value)

/-- The entity that a declaration of a name is for, if the declaration has an effect. -/
def declared (doc : Doctype) (name : String) : Option String :=
  if doc.ignoring || (predefined? name).isSome || (doc.entity? name).isSome then none else some name

/-- Records what an entity stands for. -/
def declareBody (doc : Doctype) (entity : Option String) (body : EntityBody) : Doctype :=
  match entity with
  | some name => doc.declareEntity name body
  | none => doc

/-- The types of attributes whose values are lists of tokens. -/
def tokenTypes : List String :=
  ["ID", "IDREF", "IDREFS", "ENTITY", "ENTITIES", "NMTOKEN", "NMTOKENS"]

/-- What may come after a group that has been closed. -/
def afterGroup : List (Option Joint) → Expect
  | [] => .declarationEnd
  | joints => .groupNext joints

/-- The joints of the open groups after one more joint in the innermost; a group has one kind of
joint. -/
def join? (joint : Joint) : List (Option Joint) → Option (List (Option Joint))
  | [] => none
  | known :: outer => if known.all (· == joint) then some (some joint :: outer) else none

/-- One step of the grammar. `here` says how much of the document is left at the token and `after`
how much is left behind it. -/
def step (doc : Doctype) (state : Expect) (token : Token) (here after : Nat) :
    Except Failure (Expect × Doctype) :=
  let next (state : Expect) : Except Failure (Expect × Doctype) := .ok (state, doc)
  let refuse : Except Failure (Expect × Doctype) := .error ⟨refusal token, here⟩
  match state, token with
  -- Before the document type.
  | .start, .instruction (.declaration body remaining) =>
    match Declaration.read body with
    | .ok standalone => .ok (.heading, { doc with standalone })
    | .error bad => .error ⟨.malformedDeclaration, bad.length + (remaining - body.length)⟩
  | .start, .space | .start, .comment | .start, .instruction .other => next .heading
  | .heading, .space | .heading, .comment | .heading, .instruction .other => next .heading
  | .start, .declarationOpen keyword | .heading, .declarationOpen keyword =>
    if keyword = "DOCTYPE" then next .doctypeName else refuse
  -- The document type itself.
  | .doctypeName, .name _ => next .doctypeBody
  | .doctypeBody, .openBracket => next .subset
  | .doctypeBody, .declarationClose => next .afterDoctype
  | .doctypeBody, .name keyword =>
    if keyword = "SYSTEM" then next .doctypeSystemId
    else if keyword = "PUBLIC" then next .doctypePublicId
    else refuse
  | .doctypePublicId, .literal body => do
    checkPublicId after body
    return (.doctypeSystemId, { doc with incomplete := true })
  | .doctypeSystemId, .literal _ => .ok (.doctypeSubset, { doc with incomplete := true })
  | .doctypeSubset, .openBracket => next .subset
  | .doctypeSubset, .declarationClose => next .afterDoctype
  | .doctypeEnd, .declarationClose => next .afterDoctype
  | .afterDoctype, .space | .afterDoctype, .comment | .afterDoctype, .instruction .other =>
    next .afterDoctype
  -- Declarations inside the document type.
  | .subset, .space | .subset, .comment | .subset, .instruction .other => next .subset
  | .subset, .closeBracket => next .doctypeEnd
  | .subset, .parameterReference =>
    .ok (.subset, { doc with incomplete := true, ignoring := !doc.standalone })
  | .subset, .declarationOpen keyword =>
    if keyword = "ENTITY" then next .entityName
    else if keyword = "ATTLIST" then next .attributeElement
    else if keyword = "ELEMENT" then next .elementName
    else if keyword = "NOTATION" then next .notationName
    else refuse
  -- Entities.
  | .entityName, .percent => next .parameterName
  | .entityName, .name name => next (.entityBody (declared doc name) false)
  | .parameterName, .name _ => next (.entityBody none true)
  | .entityBody entity isParameter, .name keyword =>
    if keyword = "SYSTEM" then next (.entitySystemId entity isParameter)
    else if keyword = "PUBLIC" then next (.entityPublicId entity isParameter)
    else refuse
  | .entityBody entity _, .literal body => do
    if doc.ignoring then return (.declarationEnd, doc)
    let value ← entityValue after body
    return (.declarationEnd, declareBody doc entity (.text value))
  | .entityPublicId entity isParameter, .literal body => do
    checkPublicId after body
    return (.entitySystemId entity isParameter, doc)
  | .entitySystemId entity isParameter, .literal _ => next (.entityTail entity isParameter)
  | .entityTail entity _, .declarationClose => .ok (.subset, declareBody doc entity .external)
  | .entityTail entity false, .name keyword =>
    if keyword = "NDATA" then next (.entityNotation entity) else refuse
  | .entityNotation entity, .name _ => .ok (.declarationEnd, declareBody doc entity .unparsed)
  -- Notations.
  | .notationName, .name _ => next .notationBody
  | .notationBody, .name keyword =>
    if keyword = "SYSTEM" then next .notationSystemId
    else if keyword = "PUBLIC" then next .notationPublicId
    else refuse
  | .notationPublicId, .literal body => do
    checkPublicId after body
    return (.notationTail, doc)
  | .notationSystemId, .literal _ => next .declarationEnd
  | .notationTail, .literal _ => next .declarationEnd
  | .notationTail, .declarationClose => next .subset
  -- Attributes.
  | .attributeElement, .name tag => next (.attributeName tag)
  | .attributeName _, .declarationClose => next .subset
  | .attributeName tag, .name name => next (.attributeType tag name)
  | .attributeType tag name, .name keyword =>
    if keyword = "CDATA" then next (.attributeDefault ⟨tag, name, false, false⟩)
    else if tokenTypes.contains keyword then
      next (.attributeDefault ⟨tag, name, true, keyword = "ID"⟩)
    else if keyword = "NOTATION" then next (.notationOpen ⟨tag, name, true, false⟩)
    else refuse
  | .attributeType tag name, .openParen => next (.choiceValue ⟨tag, name, true, false⟩)
  | .choiceValue attr, .name _ | .choiceValue attr, .nameToken => next (.choiceNext attr)
  | .choiceNext attr, .closeParen => next (.attributeDefault attr)
  | .choiceNext attr, .choice => next (.choiceValue attr)
  | .notationOpen attr, .openParen => next (.notationValue attr)
  | .notationValue attr, .name _ => next (.notationNext attr)
  | .notationNext attr, .closeParen => next (.attributeDefault attr)
  | .notationNext attr, .choice => next (.notationValue attr)
  | .attributeDefault attr, .hashName keyword =>
    if keyword = "IMPLIED" || keyword = "REQUIRED" then
      .ok (.attributeName attr.tag, record doc attr none)
    else if keyword = "FIXED" then next (.fixedDefault attr)
    else refuse
  | .attributeDefault attr, .literal body | .fixedDefault attr, .literal body => do
    let doc ← recordDefault doc attr here after body
    return (.attributeName attr.tag, doc)
  -- Content models.
  | .elementName, .name _ => next .elementBody
  | .elementBody, .name keyword =>
    if keyword = "EMPTY" || keyword = "ANY" then next .declarationEnd else refuse
  | .elementBody, .openParen => next .groupStart
  | .groupStart, .hashName keyword => if keyword = "PCDATA" then next .mixedNext else refuse
  | .groupStart, .openParen => next (.groupMember [none, none])
  | .groupStart, .name _ | .groupStart, .repeatedName => next (.groupNext [none])
  | .mixedNext, .closeParen => next .declarationEnd
  | .mixedNext, .closeParenRepeated mark => if mark = '*' then next .declarationEnd else refuse
  | .mixedNext, .choice => next .mixedName
  | .mixedName, .name _ => next .mixedMore
  | .mixedMore, .closeParenRepeated mark => if mark = '*' then next .declarationEnd else refuse
  | .mixedMore, .choice => next .mixedName
  | .groupMember joints, .openParen => next (.groupMember (none :: joints))
  | .groupMember joints, .name _ | .groupMember joints, .repeatedName => next (.groupNext joints)
  | .groupNext joints, .closeParen | .groupNext joints, .closeParenRepeated _ =>
    next (afterGroup joints.tail)
  | .groupNext joints, .comma =>
    match join? .sequence joints with
    | some joints => next (.groupMember joints)
    | none => refuse
  | .groupNext joints, .choice =>
    match join? .choice joints with
    | some joints => next (.groupMember joints)
    | none => refuse
  | .declarationEnd, .declarationClose => next .subset
  -- Layout is allowed between the tokens of a declaration.
  | .afterDoctype, _ | .start, _ | .heading, _ | .subset, _ => refuse
  | state, .space => next state
  | _, _ => refuse

/-- Whether the root element may begin. -/
def Expect.allowsRoot : Expect → Bool
  | start => true
  | heading => true
  | afterDoctype => true
  | _ => false

/-- Reads the prolog: its declarations, and the text from the root element on. -/
def readProlog (doc : Doctype) (state : Expect) (s : List Char) :
    Except Failure (Doctype × List Char) :=
  match s with
  | [] => .error ⟨.noElement, 0⟩
  | c :: rest =>
    match _h : Token.next c rest with
    | .invalid bad => .error ⟨.invalidToken, bad.length⟩
    | .incomplete => .error ⟨.unclosedToken, rest.length + 1⟩
    | .found .rootStart _ =>
      if state.allowsRoot then .ok (doc, c :: rest) else .error ⟨.unexpected, rest.length + 1⟩
    | .found token after =>
      match step doc state token (rest.length + 1) after.length with
      | .error failure => .error failure
      | .ok (state', doc') => readProlog doc' state' after
termination_by s.length
decreasing_by
  have := Token.next_leaves c rest token after _h
  simp; omega

/-- Checks that only layout, comments and instructions follow the root element. -/
def checkEpilog (s : List Char) : Except Failure Unit :=
  match s with
  | [] => .ok ()
  | c :: rest =>
    match _h : Token.next c rest with
    | .invalid bad => .error ⟨.invalidToken, bad.length⟩
    | .incomplete => .error ⟨.unclosedToken, rest.length + 1⟩
    | .found token after =>
      match token with
      | .space => checkEpilog after
      | .comment => checkEpilog after
      | .instruction .other => checkEpilog after
      | _ => .error ⟨.junkAfterRoot, rest.length + 1⟩
termination_by s.length
decreasing_by
  all_goals
    have := Token.next_leaves c rest _ after _h
    simp; omega

end DocComment.Markup.Doctype
