import DocComment.Text.CodePoints

/-!
# Tokens of YAML

The marks and scalars that a YAML text consists of. Indentation shows as tokens that begin and end
block collections.
-/

namespace DocComment.Yaml

/-- A token of a YAML text. -/
inductive Token where
  | versionDirective (major minor : Nat)
  | tagDirective (handle expansion : String)
  | otherDirective
  | documentStart
  | documentEnd
  | streamEnd
  | blockSequenceStart
  | blockMappingStart
  | blockEnd
  | flowSequenceStart
  | flowSequenceEnd
  | flowMappingStart
  | flowMappingEnd
  | blockEntry
  | flowEntry
  | key
  | value
  | alias (name : String)
  | anchor (name : String)
  | tag (handle : Option String) (suffix : String)
  | scalar (text : Text.CodePoints) (isPlain : Bool)
deriving DecidableEq, Repr

end DocComment.Yaml
