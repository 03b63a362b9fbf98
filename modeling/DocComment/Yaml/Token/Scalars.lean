import DocComment.Yaml.Token.Names

/-!
# Scalars of YAML

Plain, quoted and block scalars. A line break inside a plain or a quoted scalar becomes a blank,
unless empty lines follow it, which stay as line feeds.
-/

namespace DocComment.Yaml

/-! ## Quoted scalars -/

/-- What a line break followed by further ones becomes when lines are joined. -/
def foldBreaks (first : List Char) (more : List Char) : List Char :=
  (if first ≠ ['\n'] then first else if more.isEmpty then [' '] else []) ++ more

/-- Reads the empty lines inside a quoted scalar; a document separator may not stand there. -/
def quotedBreaks : (fuel : Nat) → Cursor → Except LoadError (List Char × Cursor)
  | 0, c => .ok ([], c)
  | fuel + 1, c =>
    if c.atSeparator then malformed .separatorInQuote
    else
      let c := c.skipWhile fun ch => ch = ' ' || ch = '\t'
      if isBreak (c.peek 0) then do
        let (first, c) := c.takeBreak
        let (more, c) ← quotedBreaks fuel c
        return (first ++ more, c)
      else .ok ([], c)

/-- The characters that stand for others after a backslash. -/
def escapes : List (Char × Char) :=
  [('0', '\x00'), ('a', '\x07'), ('b', '\x08'), ('t', '\t'), ('\t', '\t'), ('n', '\n'),
   ('v', '\x0b'), ('f', '\x0c'), ('r', '\r'), ('e', '\x1b'), (' ', ' '), ('"', '"'), ('\\', '\\'),
   ('/', '/'), ('N', '\u0085'), ('_', '\u00a0'), ('L', '\u2028'), ('P', '\u2029')]

/-- How many hexadecimal digits follow a letter after a backslash. -/
def escapeLength? : Char → Option Nat
  | 'x' => some 2
  | 'u' => some 4
  | 'U' => some 8
  | _ => none

/-- Checks that a number is a code point; one that is too large is an error of its own. -/
def checkPoint (n : Nat) : Except LoadError Nat :=
  if n < 0x110000 then .ok n
  else if n < 0x80000000 then .error (.badValue .characterTooLarge)
  else .error (.badValue .characterOverflow)

/-- Reads what stands after a backslash in a scalar with double quotes. -/
def escapeSequence (c : Cursor) : Except LoadError (Text.CodePoints × Cursor) :=
  let ch := c.peek 0
  match escapes.lookup ch, escapeLength? ch with
  | some value, _ => .ok ([value.toNat], c.next)
  | none, some length =>
    let digits := c.next.rest.take length
    if digits.length = length && digits.all Text.isHexDigit then do
      let value ← checkPoint (Text.numberOf 16 digits)
      return ([value], c.next.advance length)
    else malformed .badEscape
  | none, none =>
    if isBreak ch then do
      let (breaks, c) ← quotedBreaks (c.rest.length + 1) c.takeBreak.2
      return (.ofChars breaks, c)
    else malformed .badEscape

/-- Whether a character is an ordinary one inside quotes. -/
def isQuotedChar (c : Char) : Bool :=
  !(c = '\'' || c = '"' || c = '\\' || isWhite c)

/-- Reads the blanks inside a quoted scalar, which are kept, or the line breaks, which are folded.
-/
def quotedSpaces (c : Cursor) : Except LoadError (List Char × Cursor) :=
  let (blanks, c) := c.takeWhile fun ch => ch = ' ' || ch = '\t'
  if c.peek 0 = endChar then malformed .unclosedQuote
  else if isBreak (c.peek 0) then do
    let (first, c) := c.takeBreak
    let (more, c) ← quotedBreaks (c.rest.length + 1) c
    return (foldBreaks first more, c)
  else .ok (blanks, c)

/-- Reads a quoted scalar up to its closing quote; `fuel` bounds the number of parts. -/
def quotedText (isDouble : Bool) :
    (fuel : Nat) → Cursor → Except LoadError (Text.CodePoints × Cursor)
  | 0, _ => malformed .unclosedQuote
  | fuel + 1, c =>
    let continueWith (points : Text.CodePoints) (c : Cursor) :
        Except LoadError (Text.CodePoints × Cursor) := do
      let (more, c) ← quotedText isDouble fuel c
      return (points ++ more, c)
    let ch := c.peek 0
    if isQuotedChar ch then
      let (chars, c) := c.takeWhile isQuotedChar
      continueWith (.ofChars chars) c
    else if !isDouble && ch = '\'' && c.peek 1 = '\'' then continueWith [ch.toNat] (c.advance 2)
    else if (isDouble && ch = '\'') || (!isDouble && (ch = '"' || ch = '\\')) then
      continueWith [ch.toNat] c.next
    else if isDouble && ch = '\\' then do
      let (points, c) ← escapeSequence c.next
      continueWith points c
    else if ch = (if isDouble then '"' else '\'') then .ok ([], c.next)
    else do
      let (chars, c) ← quotedSpaces c
      continueWith (.ofChars chars) c

/-- Reads a quoted scalar. -/
def quotedScalar (c : Cursor) : Except LoadError (Token × Cursor) := do
  let (points, after) ← quotedText (c.peek 0 = '"') (c.rest.length + 1) c.next
  return (.scalar points false, after)

/-! ## Plain scalars -/

/-- How many characters ahead continue a plain scalar on its line. -/
def plainLength (inFlow : Bool) : List Char → Nat
  | [] => 0
  | ch :: rest =>
    let following := rest.headD endChar
    let endsKey := isWhite following || (inFlow && ",[]\x7b\x7d".toList.contains following)
    if isWhite ch || (ch = ':' && endsKey) || (inFlow && ",?[]\x7b\x7d".toList.contains ch) then 0
    else plainLength inFlow rest + 1

/-- Reads the breaks and the indentation of the lines between two lines of a plain scalar; `none` if
a document separator comes. -/
def plainBreaks : (fuel : Nat) → Cursor → Option (List Char) × Cursor
  | 0, c => (some [], c)
  | fuel + 1, c =>
    if c.atSeparator then (none, c)
    else
      let c := c.skipWhile (· = ' ')
      if isBreak (c.peek 0) then
        let (first, c) := c.takeBreak
        let (more, c) := plainBreaks fuel c
        (more.map (first ++ ·), c)
      else (some [], c)

/-- What stands between two parts of a plain scalar, the place after it, and whether it has a line
break. -/
def plainSpaces (c : Cursor) : List Char × Cursor × Bool :=
  let (blanks, c) := c.takeWhile (· = ' ')
  if isBreak (c.peek 0) then
    let (first, c) := c.takeBreak
    match plainBreaks (c.rest.length + 1) c with
    | (none, c) => ([], c, true)
    | (some more, c) => (foldBreaks first more, c, true)
  else (blanks, c, false)

/-- Reads a plain scalar whose lines must stand right of a column: its text, the place after it, and
whether a line break has been passed since its last part. -/
def plainText (inFlow : Bool) (indent : Int) :
    (fuel : Nat) → (spaces : List Char) → (atLineStart : Bool) → Cursor → List Char × Cursor × Bool
  | 0, _, atLineStart, c => ([], c, atLineStart)
  | fuel + 1, spaces, atLineStart, c =>
    let length := if c.peek 0 = '#' then 0 else plainLength inFlow c.rest
    if length = 0 then ([], c, atLineStart)
    else
      let part := spaces ++ c.rest.take length
      let (spaces, after, broke) := plainSpaces (c.advance length)
      if spaces.isEmpty || after.peek 0 = '#' || (!inFlow && (after.column : Int) < indent) then
        (part, after, broke)
      else
        let (more, last, broke) := plainText inFlow indent fuel spaces broke after
        (part ++ more, last, broke)

/-! ## Block scalars -/

/-- What becomes of the line breaks at the end of a block scalar. -/
inductive Chomping where
  | strip
  | clip
  | keep
deriving DecidableEq

/-- Reads a digit that says how deep a block scalar is indented. -/
def indentDigit? (c : Cursor) : Except LoadError (Option Nat × Cursor) :=
  let ch := c.peek 0
  if ch.isDigit then
    if ch = '0' then malformed .badBlockHeader else .ok (some (Text.digitValue ch), c.next)
  else .ok (none, c)

/-- Reads a sign that says what becomes of the last line breaks. -/
def chompingSign (c : Cursor) : Chomping × Cursor :=
  if c.peek 0 = '+' then (.keep, c.next)
  else if c.peek 0 = '-' then (.strip, c.next)
  else (.clip, c)

/-- Reads the header of a block scalar after its mark: sign and digit in either order, and the line.
-/
def blockHeader (c : Cursor) : Except LoadError ((Chomping × Option Nat) × Cursor) := do
  let (chomping, increment, c) ←
    if c.peek 0 = '+' || c.peek 0 = '-' then do
      let (chomping, c) := chompingSign c
      let (increment, c) ← indentDigit? c
      .ok (chomping, increment, c)
    else do
      let (increment, c) ← indentDigit? c
      match increment with
      | some n =>
        let (chomping, c) := chompingSign c
        .ok (chomping, some n, c)
      | none => .ok (Chomping.clip, none, c)
  if !isSpaceOrEnd (c.peek 0) then malformed .badBlockHeader
  else
    let c ← ignoreLine c .badBlockHeader
    return ((chomping, increment), c)

/-- Passes over empty lines before a block scalar whose indentation is not given: their breaks, the
deepest column reached and the place after them. -/
def blockIndentation : (fuel : Nat) → (deepest : Nat) → Cursor → List Char × Nat × Cursor
  | 0, deepest, c => ([], deepest, c)
  | fuel + 1, deepest, c =>
    let ch := c.peek 0
    if ch = ' ' then
      let c := c.next
      blockIndentation fuel (max deepest c.column) c
    else if isBreak ch then
      let (first, c) := c.takeBreak
      let (more, deepest, c) := blockIndentation fuel deepest c
      (first ++ more, deepest, c)
    else ([], deepest, c)

/-- Passes over at most the blanks of the indentation. -/
def skipIndent (indent : Nat) (c : Cursor) : Cursor :=
  c.advance ((c.rest.take (indent - c.column)).takeWhile (· = ' ')).length

/-- Passes over empty lines inside a block scalar: their breaks and the place after them. -/
def blockBreaks (indent : Nat) : (fuel : Nat) → Cursor → List Char × Cursor
  | 0, c => ([], c)
  | fuel + 1, c =>
    let c := skipIndent indent c
    if isBreak (c.peek 0) then
      let (first, c) := c.takeBreak
      let (more, c) := blockBreaks indent fuel c
      (first ++ more, c)
    else ([], c)

/-- Reads the lines of a block scalar: its text without the last breaks, the break of its last line
and those of the empty lines after it. -/
def blockLines (isFolded : Bool) (indent : Nat) :
    (fuel : Nat) → (breaks : List Char) → Cursor → List Char × List Char × List Char × Cursor
  | 0, breaks, c => ([], [], breaks, c)
  | fuel + 1, breaks, c =>
    if c.column ≠ indent || c.peek 0 = endChar then ([], [], breaks, c)
    else
      let startsText := c.peek 0 ≠ ' ' && c.peek 0 ≠ '\t'
      let (chars, c) := c.takeWhile (!isLineEnd ·)
      let (lineBreak, c) := c.takeBreak
      let (following, c) := blockBreaks indent (c.rest.length + 1) c
      if c.column = indent && c.peek 0 ≠ endChar then
        let joint :=
          if isFolded && lineBreak = ['\n'] && startsText && c.peek 0 ≠ ' ' && c.peek 0 ≠ '\t' then
            if following.isEmpty then [' '] else []
          else lineBreak
        let (more, last, tail, c) := blockLines isFolded indent fuel following c
        (breaks ++ chars ++ joint ++ more, last, tail, c)
      else (breaks ++ chars, lineBreak, following, c)

/-- Reads a block scalar inside a block that is indented to a column. -/
def blockScalar (isFolded : Bool) (outer : Int) (c : Cursor) :
    Except LoadError (Token × Cursor) := do
  let ((chomping, increment), c) ← blockHeader c.next
  let least := (max (outer + 1) 1).toNat
  let fuel := c.rest.length + 1
  let (indent, breaks, c) := match increment with
    | none =>
      let (breaks, deepest, c) := blockIndentation fuel 0 c
      (max least deepest, breaks, c)
    | some n =>
      let indent := least + n - 1
      let (breaks, c) := blockBreaks indent fuel c
      (indent, breaks, c)
  let (text, last, tail, c) := blockLines isFolded indent fuel breaks c
  let ending := match chomping with
    | .strip => []
    | .clip => last
    | .keep => last ++ tail
  return (.scalar (.ofChars (text ++ ending)) false, c)

end DocComment.Yaml
