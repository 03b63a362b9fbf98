/-!
# Tags of YAML nodes

A tag names the type of a node. A plain scalar without a tag gets one from its form: the forms of
booleans, numbers, times and the null value are those of YAML 1.1.
-/

namespace DocComment.Yaml

/-- The type of a node. -/
inductive Tag where
  | null
  | bool
  | int
  | float
  | timestamp
  | binary
  | str
  | seq
  | map
  | set
  | omap
  | pairs
  /-- A key that takes over the entries of its value. -/
  | merge
  /-- A key whose value stands for the whole mapping. -/
  | value
  | unknown
deriving DecidableEq, Repr

namespace Tag

/-- What the tags of the known types begin with. -/
def core : String :=
  "tag:yaml.org,2002:"

/-- The names of the known types. -/
def names : List (String × Tag) :=
  [("null", null), ("bool", bool), ("int", int), ("float", float), ("timestamp", timestamp),
   ("binary", binary), ("str", str), ("seq", seq), ("map", map), ("set", set), ("omap", omap),
   ("pairs", pairs), ("merge", merge), ("value", value)]

/-- The tag that a text is. -/
def ofString (s : String) : Tag :=
  ((names.map fun (name, tag) => (core ++ name, tag)).lookup s).getD unknown

/-! ## The forms of plain scalars -/

/-- A text after the sign that it may begin with. -/
def dropSign : List Char → List Char
  | '-' :: rest => rest
  | '+' :: rest => rest
  | s => s

/-- The texts that are booleans. -/
def boolTexts : List String :=
  ["yes", "Yes", "YES", "no", "No", "NO", "true", "True", "TRUE", "false", "False", "FALSE",
   "on", "On", "ON", "off", "Off", "OFF"]

/-- The texts that are the null value. -/
def nullTexts : List String :=
  ["~", "null", "Null", "NULL", ""]

/-- Whether a character is a decimal digit or an underscore. -/
def isDigitOrBar (c : Char) : Bool :=
  c.isDigit || c = '_'

/-- Whether a text is not empty and each of its characters satisfies a test. -/
def allSome (p : Char → Bool) (s : List Char) : Bool :=
  !s.isEmpty && s.all p

/-- Whether a text is a number from 0 to 59 in one or two digits. -/
def isSixty : List Char → Bool
  | [a] => a.isDigit
  | [a, b] => '0' ≤ a && a ≤ '5' && b.isDigit
  | _ => false

/-- The parts of a text between colons. -/
def colonParts (s : List Char) : List (List Char) :=
  match s with
  | [] => [[]]
  | c :: rest =>
    match colonParts rest with
    | [] => [[c]]
    | part :: parts => if c = ':' then [] :: part :: parts else (c :: part) :: parts

/-- Whether a text is a digit from the given first one on, followed by digits and underscores. -/
def isNumeral (first : Char) : List Char → Bool
  | c :: rest => first ≤ c && c ≤ '9' && rest.all isDigitOrBar
  | [] => false

/-- Whether a text has the form of an integer: binary, octal, decimal, hexadecimal or in base sixty.
-/
def isInt (s : List Char) : Bool :=
  let s := dropSign s
  match s with
  | '0' :: 'b' :: digits => allSome (fun c => c = '0' || c = '1' || c = '_') digits
  | '0' :: 'x' :: digits =>
    allSome (fun c => c.isDigit || ('a' ≤ c && c ≤ 'f') || ('A' ≤ c && c ≤ 'F') || c = '_') digits
  | ['0'] => true
  | '0' :: digits => digits.all fun c => ('0' ≤ c && c ≤ '7') || c = '_'
  | _ =>
    match colonParts s with
    | first :: rest => isNumeral '1' first && rest.all isSixty
    | [] => false

/-- Whether a text is empty or an exponent with a sign. -/
def isExponent : List Char → Bool
  | [] => true
  | e :: sign :: digits =>
    (e = 'e' || e = 'E') && (sign = '-' || sign = '+') && allSome Char.isDigit digits
  | _ => false

/-- Whether a text has the form of a number with a point. -/
def isFloat (s : List Char) : Bool :=
  let unsigned := dropSign s
  let whole := unsigned.takeWhile (· ≠ '.')
  match unsigned.dropWhile (· ≠ '.') with
  | '.' :: fraction =>
    let digits := fraction.takeWhile isDigitOrBar
    let exponent := fraction.dropWhile isDigitOrBar
    if whole.isEmpty then
      ["inf", "Inf", "INF"].contains (String.ofList fraction) ||
        (unsigned.length = s.length &&
          (["nan", "NaN", "NAN"].contains (String.ofList fraction) ||
            (isNumeral '0' digits && isExponent exponent)))
    else if isNumeral '0' whole then isExponent exponent
    else
      match colonParts whole with
      | first :: rest =>
        isNumeral '0' first && !rest.isEmpty && rest.all isSixty && exponent.isEmpty
      | [] => false
  | _ => false

/-- A time as written: the date, then the hour, minute and second with the fraction, then the offset
with its sign. -/
structure TimeParts where
  year : List Char
  month : List Char
  day : List Char
  clock : Option (List Char × List Char × List Char) := none
  fraction : List Char := []
  /-- The sign, the hours and the minutes of the offset. -/
  offset : Option (Char × List Char × List Char) := none

/-- Cuts one or two digits from a text. -/
def shortNumber? : List Char → Option (List Char × List Char)
  | a :: b :: rest =>
    if !a.isDigit then none else if b.isDigit then some ([a, b], rest) else some ([a], b :: rest)
  | [a] => if a.isDigit then some ([a], []) else none
  | [] => none

/-- Cuts two digits from a text. -/
def twoDigits? : List Char → Option (List Char × List Char)
  | a :: b :: rest => if a.isDigit && b.isDigit then some ([a, b], rest) else none
  | _ => none

/-- Cuts a character from a text. -/
def char? (c : Char) : List Char → Option (List Char)
  | d :: rest => if d = c then some rest else none
  | [] => none

/-- Reads the offset that a time may end with. -/
def offset? (s : List Char) : Option (Option (Char × List Char × List Char)) :=
  match s with
  | [] => some none
  | _ =>
    match s.dropWhile fun c => c = ' ' || c = '\t' with
    | ['Z'] => some none
    | sign :: rest => do
      if sign ≠ '-' && sign ≠ '+' then none
      else
        let (hours, rest) ← shortNumber? rest
        match rest with
        | [] => some (some (sign, hours, []))
        | _ =>
          let rest ← char? ':' rest
          let (minutes, rest) ← twoDigits? rest
          if rest.isEmpty then some (some (sign, hours, minutes)) else none
    | [] => none

/-- Reads the clock time that follows a date. -/
def clock? (date : TimeParts) (s : List Char) : Option TimeParts := do
  let rest ← match s with
    | 'T' :: rest => some rest
    | 't' :: rest => some rest
    | _ =>
      let rest := s.dropWhile fun c => c = ' ' || c = '\t'
      if rest.length < s.length then some rest else none
  let (hour, rest) ← shortNumber? rest
  let rest ← char? ':' rest
  let (minute, rest) ← twoDigits? rest
  let rest ← char? ':' rest
  let (second, rest) ← twoDigits? rest
  let (fraction, rest) := match rest with
    | '.' :: rest => (rest.takeWhile Char.isDigit, rest.dropWhile Char.isDigit)
    | _ => ([], rest)
  let offset ← offset? rest
  return { date with clock := some (hour, minute, second), fraction, offset }

/-- Reads a date with or without a clock time. -/
def timeParts? (s : List Char) : Option TimeParts := do
  let (century, rest) ← twoDigits? s
  let (decade, rest) ← twoDigits? rest
  let rest ← char? '-' rest
  let (month, rest) ← shortNumber? rest
  let rest ← char? '-' rest
  let (day, rest) ← shortNumber? rest
  let date : TimeParts := { year := century ++ decade, month, day }
  if rest.isEmpty then return date else clock? date rest

/-- Whether a text has the form of a time; a date alone has two digits for month and day. -/
def isTime (s : List Char) : Bool :=
  match timeParts? s with
  | some parts => parts.clock.isSome || (parts.month.length = 2 && parts.day.length = 2)
  | none => false

/-- A text without the line feed that it may end with; a line feed alone stays. -/
def dropFinalBreak (s : List Char) : List Char :=
  if s.length > 1 && s.getLast? = some '\n' then s.dropLast else s

/-- The type that a scalar has by its form; a line feed at its end does not change the form. -/
def ofForm (text : String) : Tag :=
  let s := dropFinalBreak text.toList
  let form := String.ofList s
  if boolTexts.contains form then bool
  else if isFloat s then float
  else if isInt s then int
  else if form = "<<" then merge
  else if nullTexts.contains form then null
  else if isTime s then timestamp
  else if form = "=" then value
  else if form = "!" || form = "&" || form = "*" then unknown
  else str

end Tag

end DocComment.Yaml
