import DocComment.Comment
import DocComment.Tally
import DocComment.Text.Quoted

/-!
# JSON

What another program is given of a documentation file. Each entry of a list and each field of an
object stands on a line of its own, two spaces further in; empty lists and objects stay on one line.
Characters outside ASCII are written as they are.
-/

namespace DocComment.Report

/-- A JSON value as far as reports need them; the fields of an object keep their order. -/
inductive Json where
  | null
  | number (n : Nat)
  | text (s : String)
  | list (items : List Json)
  | object (fields : List (String × Json))

namespace Json

/-! ## Printing -/

/-- A character between quotes. -/
def escapeChar (c : Char) : List Char :=
  if c = '"' then ['\\', '"']
  else if c = '\\' then ['\\', '\\']
  else if c = '\n' then ['\\', 'n']
  else if c = '\r' then ['\\', 'r']
  else if c = '\t' then ['\\', 't']
  else if c = '\x08' then ['\\', 'b']
  else if c = '\x0C' then ['\\', 'f']
  else if c.toNat < 0x20 then ['\\', 'u'] ++ Text.hexDigits 4 c.toNat
  else [c]

/-- A text between quotes. -/
def quote (s : String) : List Char :=
  '"' :: s.toList.flatMap escapeChar ++ ['"']

/-- A new line that is indented. -/
def newLine (indent : Nat) : List Char :=
  '\n' :: List.replicate indent ' '

mutual

/-- A value in a place that is indented. -/
def renderAt (indent : Nat) : Json → List Char
  | null => "null".toList
  | number n => Nat.toDigits 10 n
  | text s => quote s
  | list [] => "[]".toList
  | list (item :: items) =>
    '[' :: newLine (indent + 2) ++ renderAt (indent + 2) item ++ renderItems (indent + 2) items ++
      newLine indent ++ [']']
  | object [] => "\x7b\x7d".toList
  | object ((key, value) :: fields) =>
    '\x7b' :: newLine (indent + 2) ++ quote key ++ [':', ' '] ++ renderAt (indent + 2) value ++
      renderFields (indent + 2) fields ++ newLine indent ++ ['\x7d']

/-- The entries of a list behind the first. -/
def renderItems (indent : Nat) : List Json → List Char
  | [] => []
  | item :: items =>
    ',' :: newLine indent ++ renderAt indent item ++ renderItems indent items

/-- The fields of an object behind the first. -/
def renderFields (indent : Nat) : List (String × Json) → List Char
  | [] => []
  | (key, value) :: fields =>
    ',' :: newLine indent ++ quote key ++ [':', ' '] ++ renderAt indent value ++
      renderFields indent fields

end

/-- The text of a value. -/
def render (value : Json) : String :=
  String.ofList (renderAt 0 value)

/-! ## Comments and tallies -/

/-- A text that may be missing. -/
def ofText? : Option String → Json
  | none => null
  | some s => text s

/-- The entries of a keyed field. -/
def ofKeyed (entries : List (String × String)) : Json :=
  object (entries.map fun (name, value) => (name, text value))

/-- An entry of a list of references. -/
def ofReference (e : ReferenceEntry) : Json :=
  object [("description", ofText? e.description), ("kind", text e.target.kind.name),
    ("type", text e.target.identifier), ("comment_id", text e.target.raw)]

/-- A list of references that may be missing. -/
def ofReferences? : Option (List ReferenceEntry) → Json
  | none => null
  | some entries => list (entries.map ofReference)

/-- The fields of a comment. -/
def ofComment (c : Comment) : Json :=
  object [("summary", ofText? c.summary), ("remarks", ofText? c.remarks),
    ("returns", ofText? c.returns), ("parameters", ofKeyed c.parameters),
    ("type_parameters", ofKeyed c.typeParameters), ("exceptions", ofReferences? c.exceptions),
    ("sees", ofReferences? c.sees), ("see_alsos", ofReferences? c.seeAlsos),
    ("examples", list (c.examples.map text))]

/-- The comments of the members of a file. -/
def ofResults (results : List (String × Option Comment)) : Json :=
  list (results.map fun (name, comment) =>
    object [("name", text name), ("comment", comment.elim null ofComment)])

/-- The identifiers of a tally with their counts. -/
def ofTally (t : Tally) : Json :=
  list (t.items.map fun (uid, count) => object [("uid", text uid), ("count", number count)])

end Json

end DocComment.Report
