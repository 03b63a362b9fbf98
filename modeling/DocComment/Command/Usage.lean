import DocComment.Command.Switch
import DocComment.Text.Quoted

/-!
# Help and usage errors

The help of the program and of its commands, and the wording of errors in the way they are called.
-/

namespace DocComment.Command

/-- The name of the program. -/
def programName : String :=
  "docloom"

/-- The version of the program. -/
def programVersion : String :=
  "0.3.0"

namespace Scope

/-- The word that calls a scope. -/
def name : Scope → String
  | program => programName
  | extract => "extract"
  | refs => "refs"
  | checkId => "check-id"

/-- The commands, sorted by name. -/
def commands : List Scope :=
  [checkId, extract, refs]

/-- The command with a name. -/
def command? (name : String) : Option Scope :=
  commands.find? (·.name == name)

/-- The words that lead to a scope. -/
def path : Scope → String
  | program => programName
  | s => programName ++ " " ++ s.name

/-- How a scope is called. -/
def usage (s : Scope) : String :=
  "Usage: " ++ s.path ++ " [OPTIONS] " ++
    match s with
    | program => "COMMAND [ARGS]..."
    | checkId => "CANDIDATES..."
    | _ => "DOC_FILE"

/-- What a scope is for. -/
def purpose : Scope → String
  | program => "Docloom - doc comment extraction and cref resolution."
  | extract => "Extract structured documentation from an XML documentation file."
  | refs => "List cross-references discovered in an XML documentation file."
  | checkId => "Validate comment ids such as ``T:System.String``."

/-- The switches of a scope as its help lists them. -/
def switchHelp : Scope → List String
  | program =>
    ["  --version      Show the version and exit.",
     "  -v, --verbose  Verbose output.",
     "  -q, --quiet    Minimal output (errors only).",
     "  --help         Show this message and exit."]
  | extract =>
    ["  --member TEXT           Only this member (e.g. T:Foo.Bar).",
     "  --json                  Output as JSON.",
     "  --language [csharp|vb]  Output dialect (default: from config.yml or 'csharp').",
     "  --preserve-raw          Keep see/seealso elements as written (no xref",
     "                          rewrite).",
     "  --rewrite-langwords     Rewrite <see langword> into keyword xref placeholders.",
     "  --project DIRECTORY     Project root (default: current directory).",
     "  --help                  Show this message and exit."]
  | refs =>
    ["  --json               Output as JSON.",
     "  --project DIRECTORY  Project root (default: current directory).",
     "  --help               Show this message and exit."]
  | checkId => ["  --help  Show this message and exit."]

/-- A command as the help of the program lists it. -/
def summaryLine (s : Scope) : String :=
  "  " ++ s.name ++ String.ofList (List.replicate (10 - s.name.length) ' ') ++ s.purpose

/-- The commands as the help of a scope lists them. -/
def commandHelp : Scope → List String
  | program => ["", "Commands:"] ++ commands.map summaryLine
  | _ => []

/-- The help of a scope. -/
def help (s : Scope) : String :=
  "\n".intercalate
    ([s.usage, "", "  " ++ s.purpose, "", "Options:"] ++ s.switchHelp ++ s.commandHelp)

end Scope

/-! ## Errors -/

/-- What a path should lead to. -/
inductive PathKind where
  | file
  | directory
deriving DecidableEq, Repr

/-- The name of a kind at the beginning of a sentence. -/
def PathKind.title : PathKind → String
  | file => "File"
  | directory => "Directory"

/-- Why the value of a parameter is refused. -/
inductive ValueError where
  | notFound (wanted : PathKind) (path : String)
  /-- The path leads to the other kind. -/
  | wrongKind (wanted : PathKind) (path : String)
  | notAmong (value : String) (choices : List String)

/-- The wording of an error about a value. -/
def ValueError.message : ValueError → String
  | notFound wanted path => wanted.title ++ " " ++ Text.quoted path ++ " does not exist."
  | wrongKind .file path => "File " ++ Text.quoted path ++ " is a directory."
  | wrongKind .directory path => "Directory " ++ Text.quoted path ++ " is a file."
  | notAmong value choices =>
    Text.quoted value ++ " is not one of " ++ ", ".intercalate (choices.map Text.quoted) ++ "."

/-- An error in the way the program is called. -/
inductive UsageError where
  | switch (error : SwitchError)
  | missingCommand
  | unknownCommand (name : String) (close : List String)
  | missingArgument (name : String)
  | extraArguments (words : List String)
  | badValue (parameter : String) (error : ValueError)

/-- What is said about names that are close to the one that was given. -/
def suggestion : List String → String
  | [] => ""
  | [name] => " Did you mean " ++ Text.quoted name ++ "?"
  | names =>
    let sorted := names.mergeSort (fun a b => a < b || a == b)
    " (Did you mean one of: " ++ ", ".intercalate (sorted.map Text.quoted) ++ "?)"

/-- The wording of an error about switches. -/
def SwitchError.message : SwitchError → String
  | unknown spelling close => "No such option " ++ Text.quoted spelling ++ "." ++ suggestion close
  | missingValue spelling => "Option " ++ Text.quoted spelling ++ " requires an argument."
  | unwantedValue spelling => "Option " ++ Text.quoted spelling ++ " does not take a value."

namespace UsageError

/-- The wording of an error. -/
def message : UsageError → String
  | switch e => e.message
  | missingCommand => "Missing command."
  | unknownCommand name close => "No such command " ++ Text.quoted name ++ "." ++ suggestion close
  | missingArgument name => "Missing argument '" ++ name ++ "'."
  | extraArguments words =>
    "Got unexpected extra argument" ++ (if words.length = 1 then "" else "s") ++
      " (" ++ " ".intercalate words ++ ")"
  | badValue parameter e => "Invalid value for '" ++ parameter ++ "': " ++ e.message

/-- Whether an error is shown below the usage of its scope: those about the value of a switch are
not. -/
def showsUsage : UsageError → Bool
  | switch (.missingValue _) => false
  | switch (.unwantedValue _) => false
  | _ => true

/-- What is printed for an error. -/
def report (e : UsageError) (scope : Scope) : String :=
  (if e.showsUsage then
    scope.usage ++ "\nTry '" ++ scope.path ++ " --help' for help.\n\n" else "") ++
    "Error: " ++ e.message

end UsageError

end DocComment.Command
