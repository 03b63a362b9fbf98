import DocComment.Markup.Node
import DocComment.Text.Blank
import DocComment.Text.Quoted

/-!
# Output dialects

A dialect says how cross-reference placeholders are spelled for one language: references carry the
bare identifier, keyword references the language's own spelling of the keyword.
-/

namespace DocComment

open Markup

/-- How placeholders are spelled for one language. A dialect whose keyword table is missing cannot
build keyword references. -/
structure Dialect where
  name : String
  keywords : Option (List (String × String)) := some []

namespace Dialect

/-- The language's spelling of a keyword; a keyword outside the table is spelled as it is. -/
def keywordText? (d : Dialect) (word : String) : Option String :=
  d.keywords.map fun table => (table.lookup word).getD word

/-- The placeholder for a reference to an identifier; the linker may leave it unresolved. -/
def reference (_ : Dialect) (identifier : String) : Element :=
  ⟨"xref", [("href", identifier), ("data-throw-if-not-resolved", "false")], none, []⟩

/-- The placeholder for a keyword. -/
def keywordReference? (d : Dialect) (word : String) : Option Element :=
  (d.keywordText? word).map fun text =>
    let uid := "langword_" ++ d.name ++ "_" ++ word
    ⟨"xref", [("uid", uid), ("name", text), ("href", "")], none, []⟩

/-- The C# dialect, which spells every keyword as it is. -/
def csharp : Dialect where
  name := "csharp"

/-- The Visual Basic dialect. -/
def visualBasic : Dialect where
  name := "vb"
  keywords := some
    [("null", "Nothing"), ("true", "True"), ("false", "False"), ("static", "Shared"),
     ("abstract", "MustInherit"), ("sealed", "NotInheritable"), ("virtual", "Overridable"),
     ("this", "Me"), ("base", "MyBase")]

/-- The names that each dialect answers to. -/
def byName : List (String × Dialect) :=
  [("csharp", csharp), ("cs", csharp), ("c#", csharp), ("vb", visualBasic),
   ("visualbasic", visualBasic)]

/-- The dialect of a language; case and surrounding white space do not matter. Every name that is
known is ASCII, so lowering the ASCII letters is enough. -/
def ofLanguage? (language : String) : Option Dialect :=
  byName.lookup (String.ofList ((Text.strip language.toList).map Char.toLower))

/-- What is said of a language that has no dialect. -/
def unsupported (language : String) : String :=
  "Unsupported language: " ++ Text.quoted language

/-- The names of the dialects, sorted. -/
def supported : List String :=
  [csharp.name, visualBasic.name]

end Dialect

end DocComment
