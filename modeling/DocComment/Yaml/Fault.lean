import DocComment.Text.CodePoints
import DocComment.Text.Digits
import DocComment.Text.Utf8

/-!
# What can be wrong with a YAML text

A text may fail to be a document at all; a scalar in it may have a form that its type promises to
read and cannot; or the bytes may be no text. They are told apart, since readers of settings forgive
the first only.
-/

namespace DocComment.Yaml

/-- Why a text is no document. -/
inductive Malformed where
  | unprintableCharacter
  | missingColon
  | misplacedEntry
  | misplacedKey
  | misplacedValue
  | strayCharacter
  | badDirective
  | badAnchor
  | badTag
  | badEscape
  | badBlockHeader
  | unclosedQuote
  | separatorInQuote
  | unexpectedToken
  | repeatedDirective
  | incompatibleVersion
  | undefinedHandle
  | undefinedAlias
  | repeatedAnchor
  | severalDocuments
  | unknownTag
  | wrongKind
  | unhashableKey
  | unmergeable
  | badBinary
deriving DecidableEq, Repr

/-- Why a scalar is no value of its type. -/
inductive BadValue where
  | notInteger (base : Nat) (text : Text.CodePoints)
  | tooManyDigits (error : Text.TooManyDigits)
  | notFloat (text : Text.CodePoints)
  | floatOverflow
  | notBoolean (text : Text.CodePoints)
  | emptyNumber
  | notTime
  | yearOutOfRange (year : Nat)
  | monthOutOfRange
  | dayOutOfRange
  | hourOutOfRange
  | minuteOutOfRange
  | secondOutOfRange
  /-- An offset of a day or more, given by its whole days, rounded down, and the seconds beyond. -/
  | offsetOutOfRange (days : Int) (seconds : Nat)
  | characterTooLarge
  | characterOverflow
deriving DecidableEq, Repr

/-- A bad value in the characters of a text, as a bad value in the text itself. What was read before
the bad part holds no halves of characters, so those of the part are the first ones of the text. -/
def BadValue.restoreHalves (source : Text.CodePoints) : BadValue → BadValue
  | notInteger base text => notInteger base (source.restoreHalves text)
  | notFloat text => notFloat (source.restoreHalves text)
  | notBoolean text => notBoolean (source.restoreHalves text)
  | e => e

/-- A span of time as days and seconds, in the way that it is written in messages. -/
def spanText (days : Int) (seconds : Nat) : String :=
  let parts :=
    (if days = 0 then [] else ["days=" ++ toString days]) ++
      (if seconds = 0 then [] else ["seconds=" ++ toString seconds])
  "datetime.timedelta(" ++ (if parts.isEmpty then "0" else String.intercalate ", " parts) ++ ")"

/-- The wording of a bad value; of a text that is no integer at most 200 characters are shown. -/
def BadValue.message : BadValue → String
  | notInteger base text =>
    "invalid literal for int() with base " ++ toString base ++ ": " ++
      String.ofList (text.quoted.toList.take 200)
  | tooManyDigits error => error.message
  | notFloat text => "could not convert string to float: " ++ text.quoted
  | floatOverflow => "int too large to convert to float"
  | notBoolean text => text.quoted
  | emptyNumber => "string index out of range"
  | notTime => "'NoneType' object has no attribute 'groupdict'"
  | yearOutOfRange year => "year " ++ toString year ++ " is out of range"
  | monthOutOfRange => "month must be in 1..12"
  | dayOutOfRange => "day is out of range for month"
  | hourOutOfRange => "hour must be in 0..23"
  | minuteOutOfRange => "minute must be in 0..59"
  | secondOutOfRange => "second must be in 0..59"
  | offsetOutOfRange days seconds =>
    "offset must be a timedelta strictly between -timedelta(hours=24) and " ++
      "timedelta(hours=24), not " ++ spanText days seconds ++ "."
  | characterTooLarge => "chr() arg not in range(0x110000)"
  | characterOverflow => "Python int too large to convert to C int"

/-- Why a text could not be loaded. -/
inductive LoadError where
  | malformed (cause : Malformed)
  | badValue (cause : BadValue)
  /-- The bytes are no text from some place on. -/
  | undecodable (cause : Text.Utf8.DecodeError)
deriving DecidableEq, Repr

end DocComment.Yaml
