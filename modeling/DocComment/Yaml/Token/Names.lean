import DocComment.Text.Utf8
import DocComment.Yaml.Cursor
import DocComment.Yaml.Numeral
import DocComment.Yaml.Token

/-!
# Directives, anchors and tags

The tokens that name something: directives at the head of a document, anchors and aliases, and tags.
-/

namespace DocComment.Yaml

/-- A text that is no document. -/
def malformed {α : Type} (cause : Malformed) : Except LoadError α :=
  .error (.malformed cause)

/-- Whether a character may stand in the name of an anchor or a directive. -/
def isNameChar (c : Char) : Bool :=
  c.isAlphanum || c = '-' || c = '_'

/-- Whether a character may stand in a tag. -/
def isTagChar (c : Char) : Bool :=
  c.isAlphanum || "-;/?:@&=+$,_.!~*'()[]%".toList.contains c

/-- Passes over blanks, a comment and the end of the line, which must come then. -/
def ignoreLine (c : Cursor) (cause : Malformed) : Except LoadError Cursor :=
  let c := c.skipWhile (· = ' ')
  let c := if c.peek 0 = '#' then c.skipWhile (!isLineEnd ·) else c
  if isLineEnd (c.peek 0) then .ok c.takeBreak.2 else malformed cause

/-! ## Tags -/

/-- Reads two hexadecimal digits after each of a run of percent signs, as bytes. -/
def escapedBytes : List Char → Except LoadError (List UInt8 × Nat)
  | '%' :: a :: b :: rest =>
    if Text.isHexDigit a && Text.isHexDigit b then do
      let (bytes, count) ← escapedBytes rest
      return ((Text.numberOf 16 [a, b]).toUInt8 :: bytes, count + 3)
    else malformed .badTag
  | '%' :: _ => malformed .badTag
  | _ => .ok ([], 0)

/-- Reads a run of percent escapes as text. -/
def escapedText (c : Cursor) : Except LoadError (List Char × Cursor) := do
  let (bytes, count) ← escapedBytes c.rest
  match Text.Utf8.decode bytes with
  | .ok chars => return (chars, c.advance count)
  | .error _ => malformed .badTag

/-- Reads the characters of a tag; `fuel` bounds the number of runs. -/
def tagText : (fuel : Nat) → Cursor → Except LoadError (List Char × Cursor)
  | 0, c => .ok ([], c)
  | fuel + 1, c =>
    if c.peek 0 = '%' then do
      let (chars, c) ← escapedText c
      let (more, c) ← tagText fuel c
      return (chars ++ more, c)
    else
      match c.takeWhile fun ch => isTagChar ch && ch ≠ '%' with
      | ([], c) => .ok ([], c)
      | (chars, c) => do
        let (more, c) ← tagText fuel c
        return (chars ++ more, c)

/-- Reads the part of a tag after its handle, which may not be empty. -/
def tagSuffix (c : Cursor) : Except LoadError (String × Cursor) := do
  if !isTagChar (c.peek 0) then malformed .badTag
  else
    let (chars, c) ← tagText (c.rest.length + 1) c
    return (String.ofList chars, c)

/-- Reads the handle of a tag: an exclamation mark, alone before a blank or else with a name and
another mark. -/
def tagHandle (c : Cursor) : Except LoadError (String × Cursor) :=
  if c.peek 0 ≠ '!' then malformed .badTag
  else if c.peek 1 = ' ' then .ok ("!", c.next)
  else
    let (name, after) := c.next.takeWhile isNameChar
    if after.peek 0 = '!' then .ok (String.ofList ('!' :: name ++ ['!']), after.next)
    else malformed .badTag

/-- Whether the tag ahead has a handle with a name: another exclamation mark before the next blank.
-/
def hasNamedHandle (c : Cursor) : Bool :=
  ((c.rest.drop 1).takeWhile (!isSpaceOrEnd ·)).contains '!'

/-- Reads a tag. -/
def tagToken (c : Cursor) : Except LoadError (Token × Cursor) := do
  let (token, after) ←
    if c.peek 1 = '<' then do
      let (suffix, after) ← tagSuffix (c.advance 2)
      if after.peek 0 = '>' then .ok (Token.tag none suffix, after.next) else malformed .badTag
    else if isWhite (c.peek 1) then .ok (Token.tag none "!", c.next)
    else if hasNamedHandle c then do
      let (handle, after) ← tagHandle c
      let (suffix, after) ← tagSuffix after
      .ok (Token.tag (some handle) suffix, after)
    else do
      let (suffix, after) ← tagSuffix c.next
      .ok (Token.tag (some "!") suffix, after)
  if isSpaceOrEnd (after.peek 0) then return (token, after) else malformed .badTag

/-! ## Anchors and directives -/

/-- Reads the name of an anchor or an alias. -/
def anchorName (c : Cursor) : Except LoadError (String × Cursor) :=
  match c.next.takeWhile isNameChar with
  | ([], _) => malformed .badAnchor
  | (name, after) =>
    if isWhite (after.peek 0) || "?:,]\x7d%@`".toList.contains (after.peek 0) then
      .ok (String.ofList name, after)
    else malformed .badAnchor

/-- Reads a number in a directive. -/
def directiveNumber (c : Cursor) : Except LoadError (Nat × Cursor) :=
  match c.takeWhile Char.isDigit with
  | ([], _) => malformed .badDirective
  | (digits, after) => do
    (Numeral.checkDigits digits).mapError .badValue
    return (Text.numberOf 10 digits, after)

/-- Reads the version after the name of a version directive. -/
def versionValue (c : Cursor) : Except LoadError (Token × Cursor) := do
  let (major, c) ← directiveNumber (c.skipWhile (· = ' '))
  if c.peek 0 ≠ '.' then malformed .badDirective
  else
    let (minor, c) ← directiveNumber c.next
    if isSpaceOrEnd (c.peek 0) then return (.versionDirective major minor, c)
    else malformed .badDirective

/-- Reads the handle and what it stands for after the name of a tag directive. -/
def tagDirectiveValue (c : Cursor) : Except LoadError (Token × Cursor) := do
  let (handle, c) ← tagHandle (c.skipWhile (· = ' '))
  if c.peek 0 ≠ ' ' then malformed .badDirective
  else
    let (expansion, c) ← tagSuffix (c.skipWhile (· = ' '))
    if isSpaceOrEnd (c.peek 0) then return (.tagDirective handle expansion, c)
    else malformed .badDirective

/-- Reads a directive with its line. -/
def directiveToken (c : Cursor) : Except LoadError (Token × Cursor) := do
  let (name, c) := c.next.takeWhile isNameChar
  if name.isEmpty || !isSpaceOrEnd (c.peek 0) then malformed .badDirective
  else
    let (token, c) ←
      if name = "YAML".toList then versionValue c
      else if name = "TAG".toList then tagDirectiveValue c
      else .ok (Token.otherDirective, c.skipWhile (!isLineEnd ·))
    let c ← ignoreLine c .badDirective
    return (token, c)

end DocComment.Yaml
