import DocComment.Context

/-!
# Files as a run sees them

A run of the program asks what a path leads to. A tree of files answers by walking the parts of a
path; the program itself shows paths without their empty parts and without dots.
-/

namespace DocComment.Command

/-- What a path leads to. -/
inductive Entry where
  | file (bytes : List UInt8)
  | directory

/-- What each path leads to, if to anything. -/
abbrev Files := String → Option Entry

/-! ## Paths -/

/-- The parts of a path between its slashes. -/
def pathParts (path : String) : List String :=
  path.splitOn "/"

/-- What an absolute path begins with: one slash, or two if there are exactly two. -/
def pathRoot (path : String) : String :=
  match path.toList with
  | '/' :: '/' :: '/' :: _ => "/"
  | '/' :: '/' :: _ => "//"
  | '/' :: _ => "/"
  | _ => ""

/-- A path as it is shown. -/
def shownPath (path : String) : String :=
  let parts := (pathParts path).filter fun part => part ≠ "" && part ≠ "."
  let shown := pathRoot path ++ "/".intercalate parts
  if shown.isEmpty then "." else shown

/-- A path below a directory as it is shown. -/
def shownBelow (directory path : String) : String :=
  let shown := shownPath directory
  if shown = "." then path else joinPath shown path

/-! ## Trees of files -/

/-- Files and empty directories by the parts of their paths. -/
structure FileTree where
  entries : List (List String × Entry)

namespace FileTree

/-- What stands at a place of a tree; a place above an entry is a directory. -/
def entryAt? (t : FileTree) (place : List String) : Option Entry :=
  match t.entries.lookup place with
  | some entry => some entry
  | none =>
    if place.isEmpty || t.entries.any (fun (path, _) => place.isPrefixOf path) then some .directory
    else none

/-- Whether a directory stands at a place. -/
def isDirectory (t : FileTree) (place : List String) : Bool :=
  match t.entryAt? place with
  | some .directory => true
  | _ => false

/-- Walks on from a place. Above the tree nothing is known but that its parent is a directory. -/
def walk (t : FileTree) (place : List String) : List String → Option Entry
  | [] => t.entryAt? place
  | part :: rest =>
    if !t.isDirectory place then none
    else if part = "" || part = "." then t.walk place rest
    else if part = ".." then
      if !place.isEmpty then t.walk place.dropLast rest
      else if rest.all (fun part => part = "" || part = ".") then some .directory
      else none
    else t.walk (place ++ [part]) rest

/-- What a path leads to from the top of a tree. An absolute path leads out of it. -/
def lookup (t : FileTree) : Files := fun path =>
  if path.isEmpty then none
  else if path.startsWith "/" then
    if (pathParts path).all String.isEmpty then some .directory else none
  else t.walk [] (pathParts path)

end FileTree

end DocComment.Command
