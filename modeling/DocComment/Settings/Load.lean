import DocComment.Dialect
import DocComment.Notice
import DocComment.Settings
import DocComment.Yaml.Value

/-!
# Settings from a file

Settings stand in the section `comments` of a YAML file. Each key is looked at by itself: a value of
the wrong kind is noticed and the default stands in.
-/

namespace DocComment.Settings

open DocComment.Yaml

/-- Where the settings of a project are, below its root. -/
def location : String :=
  ".docloom/config.yml"

/-- A setting that is a boolean. -/
def readBool (comments : Value) (key path : String) (default : Bool) : Bool × List Notice :=
  match comments.get? key with
  | none => (default, [])
  | some (.scalar (.bool b)) => (b, [])
  | some _ => (default, [.settingNotBoolean key path])

/-- The language, as the name of its dialect. -/
def readLanguage (comments : Value) (path : String) (default : String) : String × List Notice :=
  match comments.get? "language" with
  | none => ((Dialect.ofLanguage? default).elim default (·.name), [])
  | some (.scalar (.text language)) =>
    match Dialect.ofLanguage? language with
    | some dialect => (dialect.name, [])
    | none => (default, [.languageUnknown language path])
  | some _ => (default, [.languageNotText path])

/-- The settings that a section holds. -/
def ofSection (comments : Value) (path : String) : Settings × List Notice :=
  let defaults : Settings := {}
  let (language, first) := readLanguage comments path defaults.language
  let (preserve, second) :=
    readBool comments "preserve_raw_references" path defaults.preserveRawReferences
  let (rewriteWords, third) :=
    readBool comments "rewrite_langwords" path defaults.rewriteLangwords
  (⟨language, preserve, rewriteWords⟩, first ++ second ++ third)

/-- The settings that a document holds; a document without the section has none. -/
def ofValue (document : Value) (path : String) : Settings × List Notice :=
  match document.get? "comments" with
  | some (.map entries) => ofSection (.map entries) path
  | _ => ({}, [])

/-- Why settings could not be read: the bytes are no text, or a value in them is none of its type.
-/
inductive LoadFailure where
  | undecodable (error : Text.Utf8.DecodeError)
  | badValue (error : BadValue)

/-- The settings in the bytes of a file. A text that is no YAML document is noticed and the defaults
stand in. -/
def load (bytes : List UInt8) (path : String) : Except LoadFailure (Settings × List Notice) :=
  match Yaml.load 3 (Source.ofBytes bytes) with
  | .ok value => .ok (ofValue value path)
  | .error (.malformed _) => .ok ({}, [.unreadableSettings path])
  | .error (.badValue e) => .error (.badValue e)
  | .error (.undecodable e) => .error (.undecodable e)

end DocComment.Settings
