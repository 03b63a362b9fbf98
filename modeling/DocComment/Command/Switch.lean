import DocComment.Text.Similar

/-!
# Switches

The switches of the program and of its commands, and how they are read: `--name`, `--name value`,
`--name=value` and letters behind one dash. Two dashes end the switches.
-/

namespace DocComment.Command

/-- What an argument belongs to: the program itself or one of its commands. -/
inductive Scope where
  | program
  | extract
  | refs
  | checkId
deriving DecidableEq, Repr

/-- A switch. -/
inductive Switch where
  | version
  | verbose
  | quiet
  | help
  | member
  | json
  | language
  | preserveRaw
  | rewriteLangwords
  | project
deriving DecidableEq, Repr

namespace Switch

/-- How a switch is spelled. -/
def spelling : Switch → String
  | version => "--version"
  | verbose => "--verbose"
  | quiet => "--quiet"
  | help => "--help"
  | member => "--member"
  | json => "--json"
  | language => "--language"
  | preserveRaw => "--preserve-raw"
  | rewriteLangwords => "--rewrite-langwords"
  | project => "--project"

/-- The letter of a switch, if it has one. -/
def letter? : Switch → Option Char
  | verbose => some 'v'
  | quiet => some 'q'
  | _ => none

/-- Whether a switch has a value. -/
def takesValue : Switch → Bool
  | member => true
  | language => true
  | project => true
  | _ => false

/-- Whether a switch is answered before all others and ends the run. -/
def isEager : Switch → Bool
  | version => true
  | help => true
  | _ => false

end Switch

namespace Scope

/-- The switches of a scope. -/
def switches : Scope → List Switch
  | program => [.version, .verbose, .quiet, .help]
  | extract =>
    [.member, .json, .language, .preserveRaw, .rewriteLangwords, .project, .help]
  | refs => [.json, .project, .help]
  | checkId => [.help]

/-- The switch of a scope with a spelling. -/
def switch? (s : Scope) (spelling : String) : Option Switch :=
  s.switches.find? (·.spelling == spelling)

/-- The switch of a scope with a letter. -/
def switchOfLetter? (s : Scope) (letter : Char) : Option Switch :=
  s.switches.find? (·.letter? == some letter)

/-- The spellings of a scope that are close to a word. -/
def closeSpellings (s : Scope) (word : String) : List String :=
  (s.switches.map Switch.spelling).filter (Text.isClose · word)

/-- Whether switches may stand behind other arguments. Those of the program must come before the
command, because what stands behind it belongs to the command. -/
def interspersed : Scope → Bool
  | program => false
  | _ => true

end Scope

/-- Why switches cannot be read. -/
inductive SwitchError where
  | unknown (spelling : String) (close : List String)
  | missingValue (spelling : String)
  | unwantedValue (spelling : String)

/-- A switch that was given, with its value; a switch without one has an empty value. -/
abbrev Given := Switch × String

/-- The switches that letters stand for. -/
def readLetters (scope : Scope) (letters : List Char) : Except SwitchError (List Given) :=
  letters.mapM fun letter =>
    match scope.switchOfLetter? letter with
    | some s => .ok (s, "")
    | none => .error (.unknown (String.ofList ['-', letter]) [])

/-- The spelling and the value of an argument `--name=value`. -/
def splitValue (arg : String) : String × Option String :=
  let name := arg.toList.takeWhile (· ≠ '=')
  match arg.toList.dropWhile (· ≠ '=') with
  | [] => (String.ofList name, none)
  | _ :: value => (String.ofList name, some (String.ofList value))

/-- Reads the switches of one argument; `rest` are the arguments behind it. The number says how many
of those are a value. -/
def readSwitch (scope : Scope) (arg : String) (rest : List String) :
    Except SwitchError (List Given × Nat) :=
  let (name, value?) := splitValue arg
  match scope.switch? name with
  | some s =>
    if s.takesValue then
      match value?, rest with
      | some value, _ => .ok ([(s, value)], 0)
      | none, value :: _ => .ok ([(s, value)], 1)
      | none, [] => .error (.missingValue name)
    else if value?.isSome then .error (.unwantedValue name)
    else .ok ([(s, "")], 0)
  | none =>
    if arg.startsWith "--" then .error (.unknown name (scope.closeSpellings name))
    else (readLetters scope arg.toList.tail).map (·, 0)

/-- Arguments in which the switches are told from the other words. -/
structure Arguments where
  given : List Given := []
  words : List String := []

namespace Arguments

/-- Tells the switches of a scope from the other words. -/
def read (scope : Scope) : List String → Except SwitchError Arguments
  | [] => .ok {}
  | arg :: rest =>
    if arg = "--" then .ok { words := rest }
    else if arg.startsWith "-" && arg ≠ "-" then do
      let (given, used) ← readSwitch scope arg rest
      let others ← read scope (rest.drop used)
      return { others with given := given ++ others.given }
    else if scope.interspersed then do
      let others ← read scope rest
      return { others with words := arg :: others.words }
    else .ok { words := arg :: rest }
termination_by args => args.length
decreasing_by all_goals simp; try omega

/-- The switches that were given, in the order of their first occurrences. -/
def switches (a : Arguments) : List Switch :=
  (a.given.map (·.1)).eraseDups

/-- Whether a switch was given. -/
def has (a : Arguments) (s : Switch) : Bool :=
  a.given.any (·.1 == s)

/-- The value of a switch; the last one counts. -/
def value? (a : Arguments) (s : Switch) : Option String :=
  a.given.reverse.lookup s

/-- The first switch that ends the run. -/
def eager? (a : Arguments) : Option Switch :=
  (a.given.map (·.1)).find? Switch.isEager

end Arguments

end DocComment.Command
