import DocComment.Markup.Fragment

/-!
# Notices

What the library tells its user beside its answers: each cause with its wording, how grave it is and
which part of the program speaks.
-/

namespace DocComment

/-- How grave a notice is. -/
inductive Severity where
  | debug
  | warning
deriving DecidableEq, Repr

/-- The name of a severity. -/
def Severity.name : Severity → String
  | debug => "DEBUG"
  | warning => "WARNING"

/-- Something that the user is told. -/
inductive Notice where
  /-- A cross-reference whose value is no comment id; `detail` says where the comment is. -/
  | invalidCref (value detail : String)
  /-- A listener refused a reference, so the elements after it were left alone. -/
  | crefsAbandoned (tag : String)
  /-- The dialect has no keyword table, so keywords were left alone. -/
  | langwordsAbandoned
  | unsupportedLanguage (language detail : String)
  /-- The compiler left a marker in place of a comment. -/
  | malformedMarker (raw : String)
  | unparsable (detail : String) (error : Markup.MarkupError)
  /-- A name that an earlier entry of the same kind has. -/
  | duplicateEntry (content name path : String) (line : Option Int)
  | unreadableSettings (path : String)
  | languageNotText (path : String)
  | languageUnknown (language path : String)
  | settingNotBoolean (key path : String)

namespace Notice

/-- How grave a notice is. -/
def severity : Notice → Severity
  | crefsAbandoned _ => .debug
  | langwordsAbandoned => .debug
  | _ => .warning

/-- The part of the program that speaks. -/
def source : Notice → String
  | invalidCref _ _ => "docloom.comments.resolver"
  | crefsAbandoned _ => "docloom.comments.resolver"
  | langwordsAbandoned => "docloom.comments.resolver"
  | unsupportedLanguage _ _ => "docloom.comments.model"
  | malformedMarker _ => "docloom.comments.model"
  | unparsable _ _ => "docloom.comments.model"
  | duplicateEntry _ _ _ _ => "docloom.comments.model"
  | unreadableSettings _ => "docloom.infrastructure.config"
  | languageNotText _ => "docloom.infrastructure.config"
  | languageUnknown _ _ => "docloom.infrastructure.config"
  | settingNotBoolean _ _ => "docloom.infrastructure.config"

/-- The wording of a notice. -/
def message : Notice → String
  | invalidCref value detail =>
    "Invalid cref value \"" ++ value ++ "\" found in doc comment" ++ detail ++ ", ignored."
  | crefsAbandoned tag => "Failed to resolve <" ++ tag ++ "> references"
  | langwordsAbandoned => "Failed to resolve langword references"
  | unsupportedLanguage language detail =>
    "Unsupported language '" ++ language ++ "'" ++ detail ++ ", falling back to csharp."
  | malformedMarker raw => "Invalid doc comment is ignored: " ++ raw
  | unparsable detail error =>
    "Unparsable doc comment" ++ detail ++ " is ignored: " ++ error.message
  | duplicateEntry content name path line =>
    "Duplicate " ++ content ++ " '" ++ name ++
      "' found in comments, the latter one is ignored. (" ++ path ++ ":" ++
      line.elim "" toString ++ ")"
  | unreadableSettings path => "Failed to read " ++ path ++ ", using default settings"
  | languageNotText path => "Ignoring non-string comments.language in " ++ path
  | languageUnknown language path =>
    "Unsupported comments.language '" ++ language ++ "' in " ++ path
  | settingNotBoolean key path => "Ignoring non-boolean comments." ++ key ++ " in " ++ path

end Notice

end DocComment
