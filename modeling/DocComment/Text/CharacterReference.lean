import DocComment.Text.Digits
import DocComment.Text.NamedCharacters
import DocComment.Text.Ranges

/-!
# Character references of hypertext

Replaces `&name;`, `&#38;` and `&#x26;` by the characters that they stand for, as leniently as
browsers do: the semicolon may be missing after a number and after the oldest names, a name may run
on into other text, and numbers of the old single-byte layout are read as what was meant. Only a
decimal number with too many digits cannot be read.
-/

namespace DocComment.Text.CharacterReference

/-- Numbers that are read as another character. -/
def remapped : List (Nat × Nat) :=
  [(0x0, 0xFFFD), (0xD, 0xD), (0x80, 0x20AC), (0x81, 0x81), (0x82, 0x201A), (0x83, 0x192),
   (0x84, 0x201E), (0x85, 0x2026), (0x86, 0x2020), (0x87, 0x2021), (0x88, 0x2C6), (0x89, 0x2030),
   (0x8A, 0x160), (0x8B, 0x2039), (0x8C, 0x152), (0x8D, 0x8D), (0x8E, 0x17D), (0x8F, 0x8F),
   (0x90, 0x90), (0x91, 0x2018), (0x92, 0x2019), (0x93, 0x201C), (0x94, 0x201D), (0x95, 0x2022),
   (0x96, 0x2013), (0x97, 0x2014), (0x98, 0x2DC), (0x99, 0x2122), (0x9A, 0x161), (0x9B, 0x203A),
   (0x9C, 0x153), (0x9D, 0x9D), (0x9E, 0x17E), (0x9F, 0x178)]

/-- Numbers that stand for nothing. -/
def dropped : Ranges :=
  [(0x1, 0x8), (0xB, 0xB), (0xE, 0x1F), (0x7F, 0x9F), (0xFDD0, 0xFDEF), (0xFFFE, 0xFFFF),
   (0x1FFFE, 0x1FFFF), (0x2FFFE, 0x2FFFF), (0x3FFFE, 0x3FFFF), (0x4FFFE, 0x4FFFF),
   (0x5FFFE, 0x5FFFF), (0x6FFFE, 0x6FFFF), (0x7FFFE, 0x7FFFF), (0x8FFFE, 0x8FFFF),
   (0x9FFFE, 0x9FFFF), (0xAFFFE, 0xAFFFF), (0xBFFFE, 0xBFFFF), (0xCFFFE, 0xCFFFF),
   (0xDFFFE, 0xDFFFF), (0xEFFFE, 0xEFFFF), (0xFFFFE, 0xFFFFF), (0x10FFFE, 0x10FFFF)]

/-- The characters that a number stands for. -/
def ofNumber (n : Nat) : List Char :=
  match remapped.lookup n with
  | some code => [Char.ofNat code]
  | none =>
    if (0xD800 ≤ n && n ≤ 0xDFFF) || n > 0x10FFFF then ['\uFFFD']
    else if dropped.containsCode n then []
    else [Char.ofNat n]

/-- The text without the semicolon that it may begin with. -/
def dropSemicolon : List Char → List Char
  | ';' :: rest => rest
  | s => s

/-- The characters that a run of digits stands for, and the text after it and its semicolon. -/
def number? (base : Nat) (isDigit : Char → Bool) (s : List Char) : Option (List Char × List Char) :=
  match s.takeWhile isDigit with
  | [] => none
  | digits => some (ofNumber (numberOf base digits), dropSemicolon (s.dropWhile isDigit))

/-- Whether a character may stand in a name. -/
def isNameChar (c : Char) : Bool :=
  !"\t\n\x0c <&#;".toList.contains c

/-- The longest name of at least two characters among the first `n` characters of a text, replaced,
with the rest of the text behind it. -/
def longestName? (s : List Char) : Nat → Option (List Char)
  | 0 => none
  | n + 1 =>
    if n = 0 then none
    else
      match NamedCharacters.lookup? (s.take (n + 1)) with
      | some chars => some (chars ++ s.drop (n + 1))
      | none => longestName? s n

/-- The characters that a written name stands for: the whole name if it is one, else its longest
beginning that is one with the rest of it. -/
def ofName? (name : List Char) : Option (List Char) :=
  match NamedCharacters.lookup? name with
  | some chars => some chars
  | none => longestName? name (name.length - 1)

/-- The name at the start of a text, of at most 32 characters, with its semicolon if there is one;
and the text after it. -/
def splitName (s : List Char) : List Char × List Char :=
  let name := (s.take 32).takeWhile isNameChar
  match s.drop name.length with
  | ';' :: rest => if name.isEmpty then ([], s) else (name ++ [';'], rest)
  | rest => (name, rest)

/-- What the reference behind an ampersand stands for, and the text after the reference. -/
def read? : List Char → Option (List Char × List Char)
  | '#' :: c :: rest =>
    if c = 'x' || c = 'X' then number? 16 isHexDigit rest else number? 10 Char.isDigit (c :: rest)
  | ['#'] => none
  | s =>
    let (name, rest) := splitName s
    if name.isEmpty then none else (ofName? name).map (·, rest)

theorem length_dropSemicolon_le (s : List Char) : (dropSemicolon s).length ≤ s.length := by
  unfold dropSemicolon
  split <;> simp

theorem number?_length {base : Nat} {isDigit : Char → Bool} {s chars rest : List Char}
    (h : number? base isDigit s = some (chars, rest)) : rest.length ≤ s.length := by
  unfold number? at h
  split at h
  · simp at h
  · cases h
    exact Nat.le_trans (length_dropSemicolon_le _) (List.dropWhile_suffix _).length_le

theorem splitName_length (s : List Char) : (splitName s).2.length ≤ s.length := by
  unfold splitName
  dsimp only
  split
  · next rest h =>
    split
    · exact Nat.le_refl _
    · have := congrArg List.length h
      simp at this ⊢
      omega
  · simp

/-- A reference is not longer than the text that it begins. -/
theorem read?_length {s chars rest : List Char} (h : read? s = some (chars, rest)) :
    rest.length ≤ s.length := by
  unfold read? at h
  split at h
  · split at h
    · have := number?_length h
      simp; omega
    · have := number?_length h
      simp at this ⊢; omega
  · simp at h
  · have := splitName_length s
    dsimp only at h
    split at h
    · simp at h
    · obtain ⟨_, _, h'⟩ := Option.map_eq_some_iff.1 h
      cases h'
      exact this

/-- The first decimal number with too many digits among the references of a text. No reference holds
an ampersand behind its own, so every ampersand before a number sign begins one. -/
def overlong? : List Char → Option TooManyDigits
  | [] => none
  | c :: rest =>
    (if c = '&' && rest.head? = some '#' then tooManyDigits? rest.tail else none).or (overlong? rest)

/-- A text with its character references replaced, numbers of any length among them; what they stand
for is not looked at again. -/
def unescape (s : List Char) : List Char :=
  match s with
  | [] => []
  | c :: rest =>
    if c = '&' then
      match _h : read? rest with
      | some (chars, after) => chars ++ unescape after
      | none => '&' :: unescape rest
    else c :: unescape rest
termination_by s.length
decreasing_by
  · have := read?_length _h
    simp; omega
  · simp
  · simp

end DocComment.Text.CharacterReference
