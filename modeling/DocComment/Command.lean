import DocComment.Command.Request
import DocComment.Extraction
import DocComment.Report
import DocComment.Report.Json
import DocComment.Settings.Load

/-!
# Runs of the program

A run is a function of the arguments and of the files they lead to. It gives what is written to the
two output streams and the exit code: 0 for success, 1 for a request that failed and 2 for an error
in the way the program was called.
-/

namespace DocComment.Command

/-- Why a run broke off. -/
inductive Failure where
  | settings (error : Settings.LoadFailure)
  | document (error : Text.Utf8.DecodeError)
  | comment (error : Text.TooManyDigits)
  | report (error : Report.LayoutError)

/-- What a run gives. -/
structure Response where
  exitCode : Nat := 0
  stdout : String := ""
  stderr : String := ""
  failure : Option Failure := none

/-! ## Output -/

/-- What is left behind a sequence that sets colours or moves the cursor, given what stands behind
its escape character. -/
def afterTerminalSequence? : List Char → Option (List Char)
  | '[' :: rest =>
    match rest.dropWhile fun c => c.isDigit || c = ';' || c = '?' with
    | c :: rest => if c.isAlpha then some rest else none
    | [] => none
  | _ => none

/-- Leaves out the sequences that set colours or move the cursor, in at most `fuel` characters. -/
def dropTerminalSequences : Nat → List Char → List Char
  | 0, s => s
  | _, [] => []
  | fuel + 1, c :: rest =>
    match if c = '\x1B' then afterTerminalSequence? rest else none with
    | some rest => dropTerminalSequences fuel rest
    | none => c :: dropTerminalSequences fuel rest

/-- A text as it is printed: on a line of its own and without sequences for a terminal. -/
def printed (s : String) : String :=
  String.ofList (dropTerminalSequences s.length s.toList) ++ "\n"

/-- Whether a notice is shown. -/
def Verbosity.shows : Verbosity → Severity → Bool
  | verbose, _ => true
  | normal, severity => severity == .warning
  | quiet, _ => false

/-- The lines about notices. -/
def noticeLines (verbosity : Verbosity) (notices : List Notice) : String :=
  String.join ((notices.filter (verbosity.shows ·.severity)).map fun n =>
    n.severity.name ++ " " ++ n.source ++ ": " ++ n.message ++ "\n")

/-! ## Reading files -/

/-- The bytes of a file. -/
def bytesAt (files : Files) (path : String) : Option (List UInt8) :=
  match files path with
  | some (.file bytes) => some bytes
  | _ => none

/-- The settings of a project with the notices about them; a project without the file has none. -/
def projectSettings (cwd : String) (files : Files) (project : Option String) :
    Except Settings.LoadFailure (Settings × List Notice) :=
  let below := (project.map (shownBelow · Settings.location)).getD Settings.location
  let shown := if project.isSome then below else joinPath cwd Settings.location
  match bytesAt files below with
  | none => .ok ({}, [])
  | some bytes => Settings.load bytes shown

/-- Reads settings and members and goes on with them. `said` are the lines about the settings. -/
def withMembers (cwd : String) (files : Files) (verbosity : Verbosity) (project : Option String)
    (file : String) (next : Settings → List Member → (said : String) → Response) : Response :=
  match projectSettings cwd files project with
  | .error e => { exitCode := 1, failure := some (.settings e) }
  | .ok (settings, notices) =>
    let said := noticeLines verbosity notices
    match readMembers ((bytesAt files file).getD []) with
    | .error (.undecodable e) => { exitCode := 1, stderr := said, failure := some (.document e) }
    | .error (.malformed e) =>
      { exitCode := 1
        stderr := said ++ printed ("Error: " ++ shownPath file ++ ": " ++ e.message) }
    | .ok members => next settings members said

/-! ## Commands -/

/-- The members that are asked for: those with a name, or all. -/
def wantedMembers (member : Option String) (members : List Member) : List Member :=
  match member with
  | none => members
  | some name => members.filter (·.name == name)

/-- What is shown of a tally. -/
def tallyText (json : Bool) (tally : Tally) : String :=
  if json then printed (Report.Json.ofTally tally).render
  else if tally.size = 0 then printed "No references found."
  else String.join (tally.items.map fun (uid, count) => printed (uid ++ "\t" ++ toString count))

/-- Runs a request. -/
def perform (cwd : String) (files : Files) (verbosity : Verbosity) : Request → Response
  | .extract file project json member language preserveRaw rewriteLangwords =>
    withMembers cwd files verbosity project file fun settings members said =>
      let wanted := wantedMembers member members
      if member.isSome && wanted.isEmpty then
        { exitCode := 1
          stderr := said ++ printed
            ("Error: member '" ++ member.getD "" ++ "' not found in " ++ shownPath file) }
      else
        let reading := extractComments
          (settings.override language preserveRaw rewriteLangwords) (shownPath file) wanted
        let stderr := said ++ noticeLines verbosity reading.notices
        match reading.result with
        | .error e => { exitCode := 1, stderr, failure := some (.comment e) }
        | .ok results =>
          if json then { stdout := printed (Report.Json.ofResults results).render, stderr }
          else
            let report := Report.render results
            { exitCode := if report.failure.isSome then 1 else 0
              stdout := report.text
              stderr
              failure := report.failure.map .report }
  | .refs file project json =>
    withMembers cwd files verbosity project file fun settings members said =>
      let reading := tallyReferences settings (shownPath file) members
      let stderr := said ++ noticeLines verbosity reading.notices
      match reading.result with
      | .error e => { exitCode := 1, stderr, failure := some (.comment e) }
      | .ok tally => { stdout := tallyText json tally, stderr }
  | .checkId candidates =>
    let lines := candidates.map fun candidate =>
      match CommentId.ofString? candidate with
      | some id => "[" ++ id.kind.name ++ "] " ++ id.identifier
      | none => "[invalid] " ++ candidate
    { exitCode := if candidates.all (CommentId.ofString? · |>.isSome) then 0 else 1
      stdout := String.join (lines.map printed) }

/-- Runs a task. -/
def respond (cwd : String) (files : Files) : Task → Response
  | .showHelp scope => { stdout := printed scope.help }
  | .showVersion => { stdout := printed (programName ++ ", version " ++ programVersion) }
  | .showHelpAsError => { exitCode := 2, stderr := printed Scope.program.help }
  | .refuse scope error => { exitCode := 2, stderr := printed (error.report scope) }
  | .perform verbosity request => perform cwd files verbosity request

/-- Runs the program in a directory. -/
def run (cwd : String) (files : Files) (args : List String) : Response :=
  respond cwd files (Task.ofArgs files args)

/-- The paths that a run with these arguments may ask for: each argument and each value behind an
equals sign, and the settings below each. -/
def pathsOf (args : List String) : List String :=
  let named := args ++ args.filterMap fun arg => (splitValue arg).2
  Settings.location :: named ++ named.map (shownBelow · Settings.location)

end DocComment.Command
