import DocComment.Member
import DocComment.Settings
import DocComment.Tally

/-!
# Documentation files as a whole

Builds the comments of all members of a documentation file with the settings of a project, and
counts the references in them.
-/

namespace DocComment

/-- Settings in which the choices of one run take the place of those of the project. -/
def Settings.override (s : Settings) (language : Option String)
    (preserveRawReferences rewriteLangwords : Bool) : Settings where
  language := language.getD s.language
  preserveRawReferences := preserveRawReferences || s.preserveRawReferences
  rewriteLangwords := rewriteLangwords || s.rewriteLangwords

/-- What comes of building the comment of a member. -/
def Member.build (m : Member) (settings : Settings) (path : String) (listener : Listener) :
    Outcome :=
  buildComment (some m.xml) (settings.contextFor (some path) (some m.name) (m.line.map Int.ofNat))
    listener

/-- Builds the comments of members one after the other. -/
def extractComments (settings : Settings) (path : String) (members : List Member) :
    Reading (List (String × Option Comment)) :=
  members.mapM fun m =>
    let outcome := m.build settings path .absent
    ⟨outcome.result.map (m.name, ·), outcome.notices⟩

/-- Counts how often members refer to each identifier. References are always resolved for this,
whatever the settings say. -/
def tallyReferences (settings : Settings) (path : String) (members : List Member) :
    Reading Tally := do
  let reports ← members.mapM fun m =>
    let outcome := m.build { settings with preserveRawReferences := false } path .recorder
    ⟨outcome.result.map fun _ => outcome.reports, outcome.notices⟩
  return ({} : Tally).addAll reports.flatten

end DocComment
