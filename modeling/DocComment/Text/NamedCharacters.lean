import DocComment.Text.NamedCharacters.AToK
import DocComment.Text.NamedCharacters.Capitals
import DocComment.Text.NamedCharacters.LToP
import DocComment.Text.NamedCharacters.QToZ

/-!
# Named characters

What the names of the hypertext standard stand for. A name ends with a semicolon; the oldest names
may go without it.
-/

namespace DocComment.Text.NamedCharacters

/-- The names that are met most. -/
def common : List (String × List Nat) :=
  [("amp", [0x26]), ("lt", [0x3C]), ("gt", [0x3E]), ("quot", [0x22]), ("apos", [0x27]),
   ("nbsp", [0xA0])]

/-- All names. -/
def all : List (String × List Nat) :=
  common ++ aToK ++ lToP ++ qToZ ++ capitals

/-- The names that may go without a semicolon. -/
def unterminated : List String :=
  ["AElig", "AMP", "Aacute", "Acirc", "Agrave", "Aring", "Atilde", "Auml", "COPY", "Ccedil", "ETH",
   "Eacute", "Ecirc", "Egrave", "Euml", "GT", "Iacute", "Icirc", "Igrave", "Iuml", "LT", "Ntilde",
   "Oacute", "Ocirc", "Ograve", "Oslash", "Otilde", "Ouml", "QUOT", "REG", "THORN", "Uacute",
   "Ucirc", "Ugrave", "Uuml", "Yacute", "aacute", "acirc", "acute", "aelig", "agrave", "amp",
   "aring", "atilde", "auml", "brvbar", "ccedil", "cedil", "cent", "copy", "curren", "deg",
   "divide", "eacute", "ecirc", "egrave", "eth", "euml", "frac12", "frac14", "frac34", "gt",
   "iacute", "icirc", "iexcl", "igrave", "iquest", "iuml", "laquo", "lt", "macr", "micro", "middot",
   "nbsp", "not", "ntilde", "oacute", "ocirc", "ograve", "ordf", "ordm", "oslash", "otilde", "ouml",
   "para", "plusmn", "pound", "quot", "raquo", "reg", "sect", "shy", "sup1", "sup2", "sup3",
   "szlig", "thorn", "times", "uacute", "ucirc", "ugrave", "uml", "uuml", "yacute", "yen", "yuml"]

/-- The characters that a name stands for, given the name with its semicolon, or without it if it
may go without. -/
def lookup? (name : List Char) : Option (List Char) :=
  let found (key : List Char) : Option (List Char) :=
    (all.lookup (String.ofList key)).map fun codes => codes.map Char.ofNat
  if name.getLast? = some ';' then found name.dropLast
  else if unterminated.contains (String.ofList name) then found name
  else none

end DocComment.Text.NamedCharacters
