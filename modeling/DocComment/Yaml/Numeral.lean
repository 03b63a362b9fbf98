import DocComment.Text.Blank
import DocComment.Text.Digits
import DocComment.Yaml.Fault
import DocComment.Yaml.Tag

/-!
# Numerals

Reads integers in a base and checks decimal fractions. The decimal digits of every script stand for
the usual ones, and layout around a numeral is ignored. A decimal integer may not have more than
4300 digits, which is told before the rest of the text is looked at.
-/

namespace DocComment.Yaml.Numeral

open DocComment.Text

/-- A character as a numeral reads it: a decimal digit of any script is the usual one, and white
space outside ASCII is a blank. -/
def plainChar (c : Char) : Char :=
  if c.toNat < 0x7F then c
  else if isBlank c then ' '
  else ((decimalValue? c).map Nat.digitChar).getD c

/-- Whether a character around a numeral is ignored. -/
def isPadding (c : Char) : Bool :=
  c = ' ' || ('\t' ≤ c && c ≤ '\r')

/-- A text as a numeral reads it, without the layout around it. -/
def plain (s : List Char) : List Char :=
  trimWhile isPadding (s.map plainChar)

/-- Whether a text begins with a minus sign. -/
def isNegative (s : List Char) : Bool :=
  s.head? = some '-'

/-! ## Integers -/

/-- Refuses a text that begins with too many decimal digits. -/
def checkDigits (s : List Char) : Except BadValue Unit :=
  match tooManyDigits? s with
  | some error => .error (.tooManyDigits error)
  | none => .ok ()

/-- The letter after a zero that announces a base. -/
def baseLetter? : Nat → Option Char
  | 2 => some 'b'
  | 8 => some 'o'
  | 16 => some 'x'
  | _ => none

/-- A text after the announcement of its base, if it has one. -/
def dropBase (base : Nat) : List Char → List Char
  | '0' :: c :: rest => if baseLetter? base = some c.toLower then rest else '0' :: c :: rest
  | s => s

/-- Reads an integer in a base, with an optional sign. -/
def readIn (base : Nat) (s : List Char) : Except BadValue Int := do
  let trimmed := plain s
  let digits := dropBase base (Tag.dropSign trimmed)
  if base = 10 then checkDigits digits
  if !digits.isEmpty && digits.all fun c => isHexDigit c && digitValue c < base then
    let n : Int := numberOf base digits
    return if isNegative trimmed then -n else n
  else .error (.notInteger base (.ofChars s))

/-! ## Fractions -/

/-- Whether a text is decimal digits with an optional point and an optional exponent. -/
def isDecimal (s : List Char) : Bool :=
  let whole := s.takeWhile Char.isDigit
  let (fraction, rest) := match s.dropWhile Char.isDigit with
    | '.' :: rest => (rest.takeWhile Char.isDigit, rest.dropWhile Char.isDigit)
    | rest => ([], rest)
  let exponentOk := match rest with
    | [] => true
    | e :: rest => e = 'e' && Tag.allSome Char.isDigit (Tag.dropSign rest)
  !(whole.isEmpty && fraction.isEmpty) && exponentOk

/-- Checks that a lower-case text is a number, an infinity or the mark of no number, with an
optional sign. -/
def checkDecimal (s : List Char) : Except BadValue Unit :=
  let unsigned := Tag.dropSign (plain s)
  if isDecimal unsigned || ["inf", "infinity", "nan"].contains (String.ofList unsigned) then .ok ()
  else .error (.notFloat (.ofChars s))

end DocComment.Yaml.Numeral
