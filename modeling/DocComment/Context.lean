/-!
# Where a comment comes from

The provenance of a comment and the flags that steer its extraction. Provenance only shows in
messages.
-/

namespace DocComment

/-- The coordinates of a source file inside a remote repository. -/
structure Remote where
  workingDirectory : String
  relativePath : String
  repo : Option String := none
  branch : Option String := none

/-- Provenance of a comment and the flags that steer its extraction. -/
structure Context where
  path : Option String := none
  remote : Option Remote := none
  startLine : Option Int := none
  name : Option String := none
  preserveRawReferences : Bool := false
  language : String := "csharp"
  rewriteLangwords : Bool := false

/-- A directory and a path below it; an absolute path stands alone. -/
def joinPath (directory path : String) : String :=
  if path.startsWith "/" then path
  else if directory.isEmpty || directory.endsWith "/" then directory ++ path
  else directory ++ "/" ++ path

namespace Context

/-- The path that messages show: the remote's if there is one. -/
def displayPath (c : Context) : Option String :=
  match c.remote with
  | some remote => some (joinPath remote.workingDirectory remote.relativePath)
  | none => c.path

/-- What messages say about a comment: its name and where it is defined, as far as known. -/
def describe (c : Context) : String :=
  let named := match c.name with
    | some name => if name.isEmpty then "" else " for " ++ name
    | none => ""
  let defined := match c.displayPath with
    | some path =>
      if path.isEmpty then ""
      else " defined in " ++ path ++ " Line " ++ (c.startLine.elim "?" toString)
    | none => ""
  named ++ defined

end Context

end DocComment
