import DocComment.Comment
import DocComment.Report.Panel
import DocComment.Report.Shown

/-!
# Reports

What a reader at a terminal is shown of a documentation file: a panel for each comment and a line
for each member that has none.
-/

namespace DocComment.Report

open DocComment.Text

/-- A row with a text of a comment. -/
def row (label text : String) : Row :=
  ⟨shown label, shown (stripString text)⟩

/-- The row of a field with one value; an empty one has none. -/
def fieldRows (label : String) : Option String → List Row
  | none => []
  | some text => if text.isEmpty then [] else [row label text]

/-- The rows of a keyed field. -/
def keyedRows (label : String) (entries : List (String × String)) : List Row :=
  entries.map fun (name, text) => ⟨label.toList ++ ' ' :: shown name, shown (stripString text)⟩

/-- The rows of a list of references. -/
def referenceRows (label : String) (entries : Option (List ReferenceEntry)) : List Row :=
  (entries.getD []).map fun e => row label (e.target.raw ++ " " ++ e.description.getD "")

/-- The rows of a comment. -/
def rows (c : Comment) : List Row :=
  fieldRows "summary" c.summary ++ fieldRows "remarks" c.remarks ++ fieldRows "returns" c.returns ++
    keyedRows "param" c.parameters ++ keyedRows "typeparam" c.typeParameters ++
    referenceRows "exception" c.exceptions ++ referenceRows "see" c.sees ++
    referenceRows "seealso" c.seeAlsos ++ c.examples.map (row "example")

/-- The lines about one member. -/
def memberLines (name : String) : Option Comment → Except LayoutError (List (List Char))
  | none => wrap reportWidth .fold ("skipped ".toList ++ shown name)
  | some c => panelLines (if name.isEmpty then none else some (shown name)) (rows c)

/-- A report as far as it goes, and why it breaks off if it does. -/
structure Rendering where
  text : String := ""
  failure : Option LayoutError := none

/-- The report about the members of a documentation file, one after the other. -/
def render : List (String × Option Comment) → Rendering
  | [] => {}
  | (name, comment) :: results =>
    match memberLines name comment with
    | .error e => { failure := some e }
    | .ok lines =>
      let rest := render results
      { rest with text := String.ofList (lines.flatMap (· ++ ['\n'])) ++ rest.text }

end DocComment.Report
