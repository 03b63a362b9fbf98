import DocComment.Command.Files
import DocComment.Command.Usage
import DocComment.Dialect

/-!
# Requests

What the arguments of the program ask for. Values are checked in the order in which the switches
were first given, then the file, then whether there is a word too many.
-/

namespace DocComment.Command

/-- How much is said on the side. -/
inductive Verbosity where
  | normal
  | verbose
  | quiet
deriving DecidableEq, Repr

/-- The command with what it needs. -/
inductive Request where
  | extract (file : String) (project : Option String) (json : Bool)
      (member language : Option String) (preserveRaw rewriteLangwords : Bool)
  | refs (file : String) (project : Option String) (json : Bool)
  | checkId (candidates : List String)

/-- What is to be done. -/
inductive Task where
  | showHelp (scope : Scope)
  | showVersion
  /-- There are no arguments at all. -/
  | showHelpAsError
  | refuse (scope : Scope) (error : UsageError)
  | perform (verbosity : Verbosity) (request : Request)

/-! ## Checks -/

/-- Checks that a path leads to what is wanted. -/
def checkPath (files : Files) (wanted : PathKind) (path : String) : Except ValueError Unit :=
  match wanted, files path with
  | _, none => .error (.notFound wanted path)
  | .file, some (.file _) => .ok ()
  | .directory, some .directory => .ok ()
  | _, some _ => .error (.wrongKind wanted path)

/-- Checks the value of a switch. -/
def checkSwitch (files : Files) (s : Switch) (value : String) : Except ValueError Unit :=
  match s with
  | .language =>
    if Dialect.supported.contains value then .ok ()
    else .error (.notAmong value Dialect.supported)
  | .project => checkPath files .directory value
  | _ => .ok ()

/-- Checks the values of the switches that were given. -/
def checkSwitches (files : Files) (a : Arguments) : Except UsageError Unit :=
  a.switches.forM fun s =>
    (checkSwitch files s ((a.value? s).getD "")).mapError (.badValue s.spelling)

/-- The file that a command is given, as its only word. -/
def checkFile (files : Files) : List String → Except UsageError String
  | [] => .error (.missingArgument "DOC_FILE")
  | file :: extra => do
    (checkPath files .file file).mapError (.badValue "DOC_FILE")
    if extra.isEmpty then return file else throw (.extraArguments extra)

/-! ## Reading requests -/

/-- The request of a command. -/
def Request.ofArguments (files : Files) (scope : Scope) (a : Arguments) :
    Except UsageError Request := do
  checkSwitches files a
  match scope with
  | .checkId =>
    if a.words.isEmpty then throw (.missingArgument "CANDIDATES...") else return .checkId a.words
  | .refs =>
    let file ← checkFile files a.words
    return .refs file (a.value? .project) (a.has .json)
  | _ =>
    let file ← checkFile files a.words
    return .extract file (a.value? .project) (a.has .json) (a.value? .member) (a.value? .language)
      (a.has .preserveRaw) (a.has .rewriteLangwords)

/-- Reads the arguments of a scope and goes on with them, unless a switch ends the run. -/
def withArguments (scope : Scope) (args : List String) (next : Arguments → Task) : Task :=
  match Arguments.read scope args with
  | .error e => .refuse scope (.switch e)
  | .ok a =>
    match a.eager? with
    | some .version => .showVersion
    | some _ => .showHelp scope
    | none => next a

/-- How much is said; asking for more wins over asking for less. -/
def Verbosity.ofArguments (a : Arguments) : Verbosity :=
  if a.has .verbose then .verbose else if a.has .quiet then .quiet else .normal

/-- The commands that are close to a name. -/
def closeCommands (name : String) : List String :=
  (Scope.commands.map Scope.name).filter (Text.isClose · name)

/-- What the words behind the program's own switches ask for. A word that names no command is read
once more as a switch. -/
def Task.ofWords (files : Files) (verbosity : Verbosity) : List String → Task
  | [] => .refuse .program .missingCommand
  | name :: rest =>
    match Scope.command? name with
    | none =>
      withArguments .program (name :: rest) fun _ =>
        .refuse .program (.unknownCommand name (closeCommands name))
    | some scope =>
      withArguments scope rest fun a =>
        match Request.ofArguments files scope a with
        | .error e => .refuse scope e
        | .ok request => .perform verbosity request

/-- What the arguments of the program ask for. -/
def Task.ofArgs (files : Files) (args : List String) : Task :=
  if args.isEmpty then .showHelpAsError
  else withArguments .program args fun a => Task.ofWords files (.ofArguments a) a.words

end DocComment.Command
