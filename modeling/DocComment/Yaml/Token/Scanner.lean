import DocComment.Yaml.Source
import DocComment.Yaml.Token.Scalars

/-!
# Cutting a YAML text into tokens

Tokens are read one after the other. Whether something is a key shows only at the colon behind it,
so the scanner remembers on each level of nesting where a key may have begun, and puts the key token
there when the colon comes. Indentation that grows or shrinks opens or closes block collections.
-/

namespace DocComment.Yaml

/-- A place where a key may have begun. -/
structure PossibleKey where
  /-- How many tokens stand before it. -/
  number : Nat
  /-- Nothing but a key can stand there. -/
  isRequired : Bool
  index : Nat
  line : Nat
  column : Nat

/-- The state of the scanner. -/
structure Scanner where
  cursor : Cursor
  /-- How many flow collections are open. -/
  level : Nat := 0
  /-- The column of the innermost block collection. -/
  indent : Int := -1
  /-- The columns of the block collections around it. -/
  outerIndents : List Int := []
  /-- A key may begin at the next token. -/
  allowsKey : Bool := true
  /-- Where a key may have begun, by level. -/
  possibleKeys : List (Nat × PossibleKey) := []
  tokens : List Token := []
  isDone : Bool := false

namespace Scanner

/-- Adds a token. -/
def push (s : Scanner) (token : Token) : Scanner :=
  { s with tokens := s.tokens ++ [token] }

/-- Puts a token behind the first `n` tokens. -/
def insertAt (s : Scanner) (n : Nat) (token : Token) : Scanner :=
  { s with tokens := s.tokens.take n ++ token :: s.tokens.drop n }

/-- Gives up the possible key of the current level; a required key may not be given up. -/
def dropKey (s : Scanner) : Except LoadError Scanner :=
  match s.possibleKeys.lookup s.level with
  | some key =>
    if key.isRequired then malformed .missingColon
    else .ok { s with possibleKeys := s.possibleKeys.filter (·.1 ≠ s.level) }
  | none => .ok s

/-- Remembers that a key may begin at the next token. -/
def saveKey (s : Scanner) : Except LoadError Scanner :=
  if s.allowsKey then do
    let isRequired := s.level = 0 && s.indent = (s.cursor.column : Int)
    let key : PossibleKey :=
      ⟨s.tokens.length, isRequired, s.cursor.index, s.cursor.line, s.cursor.column⟩
    let s ← s.dropKey
    return { s with possibleKeys := (s.level, key) :: s.possibleKeys }
  else .ok s

/-- Gives up the possible keys that lie too far back: a key stands on one line and is at most 1024
characters long. -/
def dropStaleKeys (s : Scanner) : Except LoadError Scanner :=
  let isStale (key : PossibleKey) : Bool :=
    key.line ≠ s.cursor.line || s.cursor.index - key.index > 1024
  if s.possibleKeys.any fun (_, key) => isStale key && key.isRequired then malformed .missingColon
  else .ok { s with possibleKeys := s.possibleKeys.filter fun (_, key) => !isStale key }

/-- Closes one block collection after the other as long as they stand right of a column. -/
def closeBlocks (column : Int) : (outerIndents : List Int) → Scanner → Scanner
  | [], s => s
  | outer :: rest, s =>
    if s.indent > column then
      closeBlocks column rest { s.push .blockEnd with indent := outer, outerIndents := rest }
    else s

/-- Closes the block collections that stand right of a column. -/
def unwind (s : Scanner) (column : Int) : Scanner :=
  if s.level > 0 then s else closeBlocks column s.outerIndents s

/-- Opens a block collection at a column, if it stands right of the innermost one. -/
def grow (s : Scanner) (column : Nat) (number : Nat) (token : Token) : Scanner :=
  if s.indent < (column : Int) then
    { s.insertAt number token with indent := column, outerIndents := s.indent :: s.outerIndents }
  else s

/-- Passes over blanks, comments and line breaks; a new line outside flow collections may begin with
a key. -/
def skipToToken : (fuel : Nat) → Scanner → Scanner
  | 0, s => s
  | fuel + 1, s =>
    let c := s.cursor.skipWhile (· = ' ')
    let c := if c.peek 0 = '#' then c.skipWhile (!isLineEnd ·) else c
    if isBreak (c.peek 0) then
      skipToToken fuel
        { s with cursor := c.takeBreak.2, allowsKey := s.allowsKey || s.level = 0 }
    else { s with cursor := c }

/-- Adds a token of so many characters. -/
def mark (s : Scanner) (token : Token) (length : Nat) : Scanner :=
  { s.push token with cursor := s.cursor.advance length }

/-- Adds a token that has been read; a key may not follow it directly. -/
def take (s : Scanner) (read : Cursor → Except LoadError (Token × Cursor)) :
    Except LoadError Scanner := do
  let s ← s.saveKey
  let (token, cursor) ← read s.cursor
  return { s.push token with cursor, allowsKey := false }

/-! ## One token -/

/-- Ends the stream. -/
def streamEnd (s : Scanner) : Except LoadError Scanner := do
  let s ← (s.unwind (-1)).dropKey
  return { s.push .streamEnd with allowsKey := false, possibleKeys := [], isDone := true }

/-- Reads a directive. -/
def directive (s : Scanner) : Except LoadError Scanner := do
  let s ← (s.unwind (-1)).dropKey
  let (token, cursor) ← directiveToken s.cursor
  return { s.push token with cursor, allowsKey := false }

/-- Reads a document separator. -/
def separator (s : Scanner) (token : Token) : Except LoadError Scanner := do
  let s ← (s.unwind (-1)).dropKey
  return { s.mark token 3 with allowsKey := false }

/-- Opens a flow collection. -/
def openFlow (s : Scanner) (token : Token) : Except LoadError Scanner := do
  let s ← s.saveKey
  return { s.mark token 1 with level := s.level + 1, allowsKey := true }

/-- Closes a flow collection; one must be open. -/
def closeFlow (s : Scanner) (token : Token) : Except LoadError Scanner := do
  let s ← s.dropKey
  if s.level = 0 then malformed .unexpectedToken
  else return { s.mark token 1 with level := s.level - 1, allowsKey := false }

/-- Reads the comma between entries of a flow collection. -/
def flowEntry (s : Scanner) : Except LoadError Scanner := do
  let s ← s.dropKey
  return { s.mark .flowEntry 1 with allowsKey := true }

/-- Reads the dash before an entry of a block sequence. -/
def blockEntry (s : Scanner) : Except LoadError Scanner := do
  if s.level = 0 && !s.allowsKey then malformed .misplacedEntry
  else
    let s := if s.level = 0 then s.grow s.cursor.column s.tokens.length .blockSequenceStart else s
    let s ← s.dropKey
    return { s.mark .blockEntry 1 with allowsKey := true }

/-- Reads the question mark before a key. -/
def complexKey (s : Scanner) : Except LoadError Scanner := do
  if s.level = 0 && !s.allowsKey then malformed .misplacedKey
  else
    let s := if s.level = 0 then s.grow s.cursor.column s.tokens.length .blockMappingStart else s
    let s ← s.dropKey
    return { s.mark .key 1 with allowsKey := s.level = 0 }

/-- Reads the colon before a value; what may have been a key before it is one. -/
def valueMark (s : Scanner) : Except LoadError Scanner :=
  match s.possibleKeys.lookup s.level with
  | some key =>
    let s := { s with possibleKeys := s.possibleKeys.filter (·.1 ≠ s.level) }
    let s := s.insertAt key.number .key
    let s := if s.level = 0 then s.grow key.column key.number .blockMappingStart else s
    .ok { s.mark .value 1 with allowsKey := false }
  | none => do
    if s.level = 0 && !s.allowsKey then malformed .misplacedValue
    else
      let s := if s.level = 0 then s.grow s.cursor.column s.tokens.length .blockMappingStart else s
      let s ← s.dropKey
      return { s.mark .value 1 with allowsKey := s.level = 0 }

/-- Reads a block scalar. -/
def block (s : Scanner) (isFolded : Bool) : Except LoadError Scanner := do
  let s ← s.dropKey
  let (token, cursor) ← blockScalar isFolded s.indent s.cursor
  return { s.push token with cursor, allowsKey := true }

/-- Reads a plain scalar; a key may follow it if it ends with a line. -/
def plain (s : Scanner) : Except LoadError Scanner := do
  let s ← s.saveKey
  let (text, cursor, broke) :=
    plainText (s.level > 0) (s.indent + 1) (s.cursor.rest.length + 1) [] false s.cursor
  return { s.push (.scalar (.ofChars text) true) with cursor, allowsKey := broke }

/-- Whether a plain scalar may begin here. -/
def startsPlain (s : Scanner) : Bool :=
  let ch := s.cursor.peek 0
  !(isWhite ch || "-?:,[]\x7b\x7d#&*!|>'\"%@`".toList.contains ch) ||
    (!isWhite (s.cursor.peek 1) && (ch = '-' || (s.level = 0 && (ch = '?' || ch = ':'))))

/-- Reads the token ahead. -/
def token (s : Scanner) : Except LoadError Scanner :=
  let c := s.cursor
  let ch := c.peek 0
  let inFlow := s.level > 0
  let separated := isWhite (c.peek 1)
  if ch = endChar then s.streamEnd
  else if ch = '%' && c.column = 0 then s.directive
  else if ch = '-' && c.column = 0 && c.atSeparator then s.separator .documentStart
  else if ch = '.' && c.column = 0 && c.atSeparator then s.separator .documentEnd
  else if ch = '[' then s.openFlow .flowSequenceStart
  else if ch = '\x7b' then s.openFlow .flowMappingStart
  else if ch = ']' then s.closeFlow .flowSequenceEnd
  else if ch = '\x7d' then s.closeFlow .flowMappingEnd
  else if ch = ',' then s.flowEntry
  else if ch = '-' && separated then s.blockEntry
  else if ch = '?' && (inFlow || separated) then s.complexKey
  else if ch = ':' && (inFlow || separated) then s.valueMark
  else if ch = '*' then
    s.take fun c => (anchorName c).map fun (name, c) => (.alias name, c)
  else if ch = '&' then
    s.take fun c => (anchorName c).map fun (name, c) => (.anchor name, c)
  else if ch = '!' then s.take tagToken
  else if ch = '|' && !inFlow then s.block false
  else if ch = '>' && !inFlow then s.block true
  else if ch = '\'' || ch = '"' then s.take quotedScalar
  else if s.startsPlain then s.plain
  else malformed .strayCharacter

/-- Fails at the end of the text with what is wrong behind it. -/
def checkEnd (s : Scanner) (fault : Option LoadError) : Except LoadError Unit :=
  match fault with
  | some e => if s.cursor.rest.isEmpty then .error e else .ok ()
  | none => .ok ()

/-- Reads the token ahead; a quote that is not closed is no fault if something is wrong behind the
text, since the closing quote may stand there. -/
def tokenBefore (s : Scanner) (fault : Option LoadError) : Except LoadError Scanner :=
  match s.token, fault with
  | .error (.malformed .unclosedQuote), some e => .error e
  | result, _ => result

/-- Reads one token with what stands before it, in a text with a fault behind it. -/
def step (fault : Option LoadError) (s : Scanner) : Except LoadError Scanner := do
  let c := s.cursor
  let c := if c.index = 0 && c.peek 0 = '\uFEFF' then c.next else c
  let s := skipToToken (c.rest.length + 1) { s with cursor := c }
  s.checkEnd fault
  let s ← s.dropStaleKeys
  let s ← (s.unwind s.cursor.column).tokenBefore fault
  s.checkEnd fault
  s.dropStaleKeys

/-- The tokens that nothing can come before any more: those in front of the first possible key. -/
def settledTokens (s : Scanner) : List Token :=
  s.tokens.take (s.possibleKeys.foldl (fun n (_, key) => min n key.number) s.tokens.length)

/-- Reads tokens until the stream ends or a fault is met: the tokens so far, and the fault. Of the
tokens before a fault only the settled ones count. -/
def run (fault : Option LoadError) : (fuel : Nat) → Scanner → List Token × Option LoadError
  | 0, s => (s.tokens, some (.malformed .strayCharacter))
  | fuel + 1, s =>
    if s.isDone then (s.tokens, none)
    else
      match s.step fault with
      | .ok s => run fault fuel s
      | .error e => (s.settledTokens, some e)

end Scanner

/-- The tokens of a text, up to the first fault in it. -/
def tokensOf (source : Source) : List Token × Option LoadError :=
  Scanner.run source.fault (source.text.length + 2) { cursor := { rest := source.text } }

end DocComment.Yaml
