import DocComment.Text.Quoted

/-!
# Texts as code points

An escape can name any code point, also one that is only half of a character: a high half followed
by a low half stands for one character, and a half by itself stands for none. A text that escapes
may have built is a list of code points. It becomes characters where somebody reads it, and a
message shows its halves one by one.
-/

namespace DocComment.Text

/-- A text that may hold halves of characters. -/
abbrev CodePoints := List Nat

/-- Whether a code point is the first half of a character. -/
def isHighHalf (n : Nat) : Bool :=
  0xD800 ≤ n && n < 0xDC00

/-- Whether a code point is the second half of a character. -/
def isLowHalf (n : Nat) : Bool :=
  0xDC00 ≤ n && n < 0xE000

/-- Whether a code point is half of a character. -/
def isHalf (n : Nat) : Bool :=
  isHighHalf n || isLowHalf n

/-- The character that stands in for half of one. -/
def standIn : Char :=
  '\uFFFD'

/-- The character of a code point by itself. -/
def charOfPoint (n : Nat) : Char :=
  if isHalf n then standIn else Char.ofNat n

namespace CodePoints

/-- The code points of characters. -/
def ofChars (s : List Char) : CodePoints :=
  s.map Char.toNat

/-- The characters that code points stand for, two halves together for one. -/
def toChars : CodePoints → List Char
  | [] => []
  | [n] => [charOfPoint n]
  | m :: n :: rest =>
    if isHighHalf m && isLowHalf n then
      Char.ofNat (0x10000 + (m - 0xD800) * 0x400 + (n - 0xDC00)) :: toChars rest
    else charOfPoint m :: toChars (n :: rest)

/-- A character for each code point. -/
def singly (s : CodePoints) : List Char :=
  s.map charOfPoint

/-- Puts back what stood-in characters stand for: `replaced` are the code points that gave the
stand-ins of a text, in order. -/
def putBack : (replaced : CodePoints) → CodePoints → CodePoints
  | _, [] => []
  | [], n :: rest => n :: rest
  | m :: ms, n :: rest =>
    if n = standIn.toNat then m :: putBack ms rest else n :: putBack (m :: ms) rest

/-- The code points of a text that begins like the characters of `source` as far as stand-ins go,
with the halves of the source in their places. -/
def restoreHalves (source text : CodePoints) : CodePoints :=
  putBack (source.filter fun n => isHalf n || n = standIn.toNat) text

/-- A code point as it stands between the given quotes. -/
def quotePoint (quote : Char) (n : Nat) : List Char :=
  if isHalf n then ['\\', 'u'] ++ hexDigits 4 n else quoteChar quote (Char.ofNat n)

/-- A text between quotes. -/
def quoted (s : CodePoints) : String :=
  let quote := quoteFor s.singly
  String.ofList (quote :: s.flatMap (quotePoint quote) ++ [quote])

end CodePoints

end DocComment.Text
