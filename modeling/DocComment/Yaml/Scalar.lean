import DocComment.Text.Lowercase
import DocComment.Yaml.Numeral

/-!
# Values of scalars

Reads the text of a scalar as a value of its type. A text whose form promises a value may still hold
none: a date may not exist, and a number that is declared to be one may be no number.
-/

namespace DocComment.Yaml

open DocComment.Text

/-- A value without parts. -/
inductive Scalar where
  | null
  | bool (value : Bool)
  | int (value : Int)
  | float (text : String)
  | time (text : String)
  | bytes (text : String)
  | text (value : String)
deriving DecidableEq, Repr

namespace Scalar

/-! ## Booleans and numbers -/

/-- Reads a boolean in any case. -/
def readBool (text : String) : Except BadValue Bool :=
  let word := Text.lower text
  if ["yes", "true", "on"].contains word then .ok true
  else if ["no", "false", "off"].contains word then .ok false
  else .error (.notBoolean (.ofChars word.toList))

/-- The number that parts in base sixty make, the most significant first. -/
def sexagesimal (parts : List Int) : Int :=
  parts.foldl (fun n part => n * 60 + part) 0

/-- Reads an integer: binary, hexadecimal, octal, in base sixty or decimal. -/
def readInt (text : String) : Except BadValue Int := do
  let s := text.toList.filter (· ≠ '_')
  let digits := Tag.dropSign s
  let signed (n : Int) : Int := if Numeral.isNegative s then -n else n
  match digits with
  | [] => .error .emptyNumber
  | ['0'] => return 0
  | '0' :: 'b' :: rest => return signed (← Numeral.readIn 2 rest)
  | '0' :: 'x' :: rest => return signed (← Numeral.readIn 16 rest)
  | '0' :: _ => return signed (← Numeral.readIn 8 digits)
  | _ =>
    if digits.contains ':' then
      return signed (sexagesimal (← (Tag.colonParts digits).mapM (Numeral.readIn 10)))
    else return signed (← Numeral.readIn 10 digits)

/-- How many parts in base sixty a number may have: the weight of the first part of a longer one is
beyond all numbers with a point. -/
def sexagesimalLimit : Nat :=
  174

/-- Checks that a text is a number, an infinity or no number, or a number in base sixty. -/
def checkFloatText (text : String) : Except BadValue Unit := do
  let s := (Text.lower (String.ofList (text.toList.filter (· ≠ '_')))).toList
  let unsigned := Tag.dropSign s
  if s.isEmpty then .error .emptyNumber
  else if unsigned = ".inf".toList || unsigned = ".nan".toList then .ok ()
  else if unsigned.contains ':' then
    let parts := Tag.colonParts unsigned
    let _ ← parts.mapM Numeral.checkDecimal
    if sexagesimalLimit < parts.length then .error .floatOverflow else .ok ()
  else Numeral.checkDecimal unsigned

/-! ## Times -/

/-- Whether a year has a leap day. -/
def isLeap (year : Nat) : Bool :=
  year % 4 = 0 && (year % 100 ≠ 0 || year % 400 = 0)

/-- How many days a month has. -/
def daysIn (year month : Nat) : Nat :=
  if month = 2 then if isLeap year then 29 else 28
  else if [4, 6, 9, 11].contains month then 30
  else 31

/-- Checks that a date exists. -/
def checkDate (year month day : Nat) : Except BadValue Unit :=
  if year = 0 then .error (.yearOutOfRange year)
  else if month = 0 || month > 12 then .error .monthOutOfRange
  else if day = 0 || day > daysIn year month then .error .dayOutOfRange
  else .ok ()

/-- Checks that a clock time exists. -/
def checkClock (hour minute second : Nat) : Except BadValue Unit :=
  if hour > 23 then .error .hourOutOfRange
  else if minute > 59 then .error .minuteOutOfRange
  else if second > 59 then .error .secondOutOfRange
  else .ok ()

/-- Checks that an offset is less than a day. -/
def checkOffset (sign : Char) (hours minutes : Nat) : Except BadValue Unit :=
  let total : Int := (hours * 60 + minutes : Nat) * 60
  let total := if sign = '-' then -total else total
  if -86400 < total && total < 86400 then .ok ()
  else .error (.offsetOutOfRange (total.fdiv 86400) (total.fmod 86400).toNat)

/-- Checks that a text is a date, or a date and a clock time; the offset is looked at first. -/
def checkTime (text : String) : Except BadValue Unit := do
  match Tag.timeParts? (Tag.dropFinalBreak text.toList) with
  | none => .error .notTime
  | some parts =>
    let number := numberOf 10
    let date := checkDate (number parts.year) (number parts.month) (number parts.day)
    match parts.clock with
    | none => date
    | some (hour, minute, second) =>
      match parts.offset with
      | some (sign, hours, minutes) => checkOffset sign (number hours) (number minutes)
      | none => .ok ()
      date
      checkClock (number hour) (number minute) (number second)

/-! ## Binary data -/

/-- Whether a character stands for six bits. -/
def isSextet (c : Char) : Bool :=
  c.isAlphanum || c = '+' || c = '/'

/-- Whether a text in base 64 breaks off nowhere: groups of four, the last one filled up with equals
signs. `position` is the place in the group and `fill` the number of signs just before. Other
characters are passed over. -/
def isBase64 : (position fill : Nat) → List Char → Bool
  | position, _, [] => position = 0
  | position, fill, c :: rest =>
    if c = '=' then
      if position < 2 then isBase64 position fill rest
      else if position + (fill + 1) ≥ 4 then true
      else isBase64 position (fill + 1) rest
    else if isSextet c then isBase64 ((position + 1) % 4) 0 rest
    else isBase64 position fill rest

/-! ## Scalars -/

/-- Reads a text as a value of a type. -/
def read (tag : Tag) (points : CodePoints) : Except LoadError Scalar :=
  let text := String.ofList points.toChars
  let single := String.ofList points.singly
  let valued (result : Except BadValue Scalar) : Except LoadError Scalar :=
    result.mapError fun e => .badValue (e.restoreHalves points)
  match tag with
  | .null => .ok .null
  | .bool => valued ((readBool single).map .bool)
  | .int => valued ((readInt single).map .int)
  | .float => valued ((checkFloatText single).map fun _ => .float text)
  | .timestamp => valued ((checkTime text).map fun _ => .time text)
  | .binary =>
    if text.toList.all (·.toNat < 0x80) && isBase64 0 0 text.toList then .ok (.bytes text)
    else .error (.malformed .badBinary)
  | .str => .ok (.text text)
  | _ => .error (.malformed .unknownTag)

end Scalar

end DocComment.Yaml
