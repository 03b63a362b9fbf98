import DocComment.Context

/-!
# Settings

What a project chooses for all its comments.
-/

namespace DocComment

/-- The extraction settings of a project. -/
structure Settings where
  language : String := "csharp"
  preserveRawReferences : Bool := false
  rewriteLangwords : Bool := false
deriving DecidableEq, Repr

/-- The context of one comment of a project. -/
def Settings.contextFor (s : Settings) (path name : Option String) (startLine : Option Int) :
    Context where
  path
  name
  startLine
  preserveRawReferences := s.preserveRawReferences
  language := s.language
  rewriteLangwords := s.rewriteLangwords

end DocComment
