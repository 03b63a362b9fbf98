import DocComment.Text.Ranges

/-!
# Blank characters

The 29 white space characters and the operations that drop them from the ends of a text.
-/

namespace DocComment.Text

/-- The white space characters: the five ASCII layout controls, the four separators U+001C to
U+001F, the space, U+0085 and the seventeen Unicode spaces. -/
def blankRanges : Ranges :=
  [(0x09, 0x0D), (0x1C, 0x20), (0x85, 0x85), (0xA0, 0xA0), (0x1680, 0x1680), (0x2000, 0x200A),
   (0x2028, 0x2029), (0x202F, 0x202F), (0x205F, 0x205F), (0x3000, 0x3000)]

/-- Whether a character is white space. -/
def isBlank (c : Char) : Bool :=
  blankRanges.contains c

/-- Drops the characters at the end of a text that satisfy a test. -/
def dropEndWhile (p : Char → Bool) (s : List Char) : List Char :=
  (s.reverse.dropWhile p).reverse

/-- Drops the characters at both ends of a text that satisfy a test. -/
def trimWhile (p : Char → Bool) (s : List Char) : List Char :=
  dropEndWhile p (s.dropWhile p)

/-- A text without the white space at its ends. -/
def strip (s : List Char) : List Char :=
  trimWhile isBlank s

/-- A string without the white space at its ends. -/
def stripString (s : String) : String :=
  String.ofList (strip s.toList)

/-- Whether every character of a text is white space. -/
def allBlank (s : List Char) : Bool :=
  s.all isBlank

end DocComment.Text
