import DocComment.Reading
import DocComment.Reindent
import DocComment.Resolution
import DocComment.Markup.Printer
import DocComment.Text.CharacterReference

/-!
# Comments

The structured content of a documentation comment. Fields with one value take the first element of
their tag; keyed fields keep the first entry of each name; lists of references hold the entries
whose value is a comment id, and are missing when there is none. Fields are read one after the other,
and the first text that cannot be read ends it.
-/

namespace DocComment

open Markup

/-- An entry of a list of references. -/
structure ReferenceEntry where
  description : Option String
  target : CommentId

/-- The structured content of a comment. -/
structure Comment where
  summary : Option String := none
  remarks : Option String := none
  returns : Option String := none
  parameters : List (String × String) := []
  typeParameters : List (String × String) := []
  exceptions : Option (List ReferenceEntry) := none
  sees : Option (List ReferenceEntry) := none
  seeAlsos : Option (List ReferenceEntry) := none
  examples : List String := []

namespace Comment

/-- A question that has no answer. -/
inductive LookupError where
  | emptyParameterName
  | emptyTypeParameterName
deriving DecidableEq, Repr

/-- The wording of an error. -/
def LookupError.message : LookupError → String
  | emptyParameterName => "Parameter name must not be empty"
  | emptyTypeParameterName => "Type parameter name must not be empty"

/-- The text of a parameter. -/
def parameter (c : Comment) (name : String) : Except LookupError (Option String) :=
  if name.isEmpty then .error .emptyParameterName else .ok (c.parameters.lookup name)

/-- The text of a type parameter. -/
def typeParameter (c : Comment) (name : String) : Except LookupError (Option String) :=
  if name.isEmpty then .error .emptyTypeParameterName else .ok (c.typeParameters.lookup name)

end Comment

/-! ## Fields -/

/-- The content of an element as text: re-indented from the column of its tag, with character
references replaced. -/
def elementValue (e : Element) : String :=
  String.ofList
    (Text.CharacterReference.unescape (Reindent.reindent e.renderContent (Tree.column e)))

/-- The number with too many digits that keeps the content of an element from being read. -/
def overlongIn? (e : Element) : Option Text.TooManyDigits :=
  Text.CharacterReference.overlong? (Reindent.reindent e.renderContent (Tree.column e))

/-- Reads the content of an element as text. -/
def readValue (e : Element) : Except Text.TooManyDigits String :=
  match overlongIn? e with
  | some error => .error error
  | none => .ok (elementValue e)

/-- Reads the value of the first element with a tag. -/
def singleValue (tree : Tree) (tag : String) : Except Text.TooManyDigits (Option String) :=
  match tree.firstChild? tag with
  | none => .ok none
  | some e => (readValue e).map some

/-- Reads the entries of a keyed field: an element without a name is passed over, and of elements
with one name the first counts; the others are noticed. -/
def keyedEntries (content : String) (context : Context) :
    List Element → List (String × String) → Reading (List (String × String))
  | [], entries => pure entries
  | e :: rest, entries =>
    let name := (e.attr? "name").getD ""
    if name.isEmpty then keyedEntries content context rest entries
    else if (entries.lookup name).isSome then do
      .notice (.duplicateEntry content name (context.displayPath.getD "") context.startLine)
      keyedEntries content context rest entries
    else do
      let value ← readValue e
      keyedEntries content context rest (entries ++ [(name, value)])

/-- The elements whose value is a comment id, each with it. -/
def referring (elements : List Element) : List (Element × CommentId) :=
  elements.filterMap fun e => (CommentId.ofString? ((e.attr? "cref").getD "")).map (e, ·)

/-- Reads the entry of an element that refers to a comment id. -/
def referenceEntry (found : Element × CommentId) : Except Text.TooManyDigits ReferenceEntry :=
  (readValue found.1).map fun description =>
    ⟨if description.isEmpty then none else some description, found.2⟩

/-- Reads the entries of a list of references, if there are any. -/
def referenceEntries (tree : Tree) (tag : String) :
    Except Text.TooManyDigits (Option (List ReferenceEntry)) := do
  let entries ← (referring (tree.children tag)).mapM referenceEntry
  return if entries.isEmpty then none else some entries

/-- Reads all elements with a tag. -/
def allValues (tree : Tree) (tag : String) : Except Text.TooManyDigits (List String) :=
  (tree.children tag).mapM readValue

/-- Reads the comment that a tree holds. -/
def Comment.ofTree (tree : Tree) (context : Context) : Reading Comment := do
  let summary ← singleValue tree "summary"
  let remarks ← singleValue tree "remarks"
  let returns ← singleValue tree "returns"
  let parameters ← keyedEntries "parameter" context (tree.children "param") []
  let typeParameters ← keyedEntries "type parameter" context (tree.children "typeparam") []
  let exceptions ← referenceEntries tree "exception"
  let sees ← referenceEntries tree "see"
  let seeAlsos ← referenceEntries tree "seealso"
  let examples ← allValues tree "example"
  return ⟨summary, remarks, returns, parameters, typeParameters, exceptions, sees, seeAlsos,
    examples⟩

/-! ## Building comments -/

/-- What comes of building a comment: a comment or none, unless a number had too many digits; the
identifiers that were reported and the notices. -/
structure Outcome where
  result : Except Text.TooManyDigits (Option Comment) := .ok none
  reports : List String := []
  notices : List Notice := []

/-- The comment that was built, if one was. -/
def Outcome.comment (o : Outcome) : Option Comment :=
  o.result.toOption.join

/-- What the compiler leaves in place of a comment that it could not read. -/
def malformedMarker : String :=
  "<!-- Badly formed XML comment ignored for member "

/-- The dialect of a context; a language without one is noticed and C# stands in. -/
def contextDialect (context : Context) : Dialect × List Notice :=
  match Dialect.ofLanguage? context.language with
  | some dialect => (dialect, [])
  | none => (.csharp, [.unsupportedLanguage context.language context.describe])

/-- Resolves the references of a comment: cross-references, then further ones, then keywords if the
context asks for it. -/
def resolveReferences (context : Context) (listener : Listener) (root : Element) : Progress :=
  let (dialect, notices) := contextDialect context
  let p : Progress := { root, notices }
  let p := resolveCrefs "see" listener dialect (some context) p
  let p := resolveCrefs "seealso" listener dialect (some context) p
  if context.rewriteLangwords then rewriteLangwords dialect p else p

/-- The tree of a comment after resolution, unless the context keeps references as they are. -/
def resolved (context : Context) (listener : Listener) (root : Element) : Progress :=
  if context.preserveRawReferences then { root } else resolveReferences context listener root

/-- Builds a comment. There is none for a missing or white text, for the compiler's marker and for a
text that is no markup; the last two are noticed. -/
def buildComment (raw : Option String) (context : Context) (listener : Listener) : Outcome :=
  match raw with
  | none => {}
  | some raw =>
    if Text.allBlank raw.toList then {}
    else if malformedMarker.toList.isPrefixOf raw.toList then { notices := [.malformedMarker raw] }
    else
      match parse raw with
      | .error e => { notices := [.unparsable context.describe e] }
      | .ok tree =>
        let p := resolved context listener tree.root
        let reading := Comment.ofTree { tree with root := p.root } context
        { result := reading.result.map some
          reports := p.reports
          notices := p.notices ++ reading.notices }

end DocComment
