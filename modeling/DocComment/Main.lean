import DocComment.Command

/-!
# The program

Looks up the files that the arguments lead to, runs the program on them and writes what it gives.
-/

namespace DocComment.Main

open DocComment.Command

/-- What a path leads to from the current directory. -/
def entryAt? (path : String) : IO (Option Entry) := do
  if path.isEmpty then return none
  let place := (← IO.currentDir) / path
  if ← place.isDir then return some .directory
  try
    let bytes ← IO.FS.readBinFile place
    return some (.file bytes.toList)
  catch _ => return none

/-- What is said about a run that broke off. -/
def failureMessage : Failure → String
  | .settings (.undecodable e) => e.message
  | .settings (.badValue e) => e.message
  | .document e => e.message
  | .comment e => e.message
  | .report e => e.message

end DocComment.Main

open DocComment DocComment.Command in
/-- Runs the program with its arguments. -/
def main (args : List String) : IO UInt32 := do
  let cwd ← IO.currentDir
  let entries ← (pathsOf args).mapM fun path => do
    return (path, ← Main.entryAt? path)
  let response := run cwd.toString (fun path => (entries.lookup path).join) args
  IO.print response.stdout
  IO.eprint response.stderr
  if let some failure := response.failure then
    IO.eprintln ("Error: " ++ Main.failureMessage failure)
  return response.exitCode.toUInt32
