import DocComment.Text.Lines
import DocComment.Text.Utf8

/-!
# Texts that arrive in chunks

A text in UTF-8 whose bytes arrive in chunks and which is asked for in portions. A character that a
chunk breaks off in waits for the next chunk, and so does a carriage return at its end, which may be
half of a line break. An error is placed within its chunk, behind the bytes that waited for it.
-/

namespace DocComment.Text

/-- A text that is being read. -/
structure ByteStream where
  /-- The bytes that have not arrived yet. -/
  bytes : List UInt8
  /-- The bytes of a character that the last chunk broke off in. -/
  held : List UInt8 := []
  /-- A carriage return at the end of the last chunk waits for the next one. -/
  heldReturn : Bool := false
  /-- The characters that have been decoded and not been asked for yet. -/
  ready : List Char := []
  /-- How many bytes the last chunk had. -/
  lastBytes : Nat := 0
  /-- How many characters the last chunk gave. -/
  lastChars : Nat := 0

namespace ByteStream

/-- The least size of a chunk. -/
def leastChunk : Nat :=
  8192

/-- The size of the next chunk when so many characters are wanted: enough bytes for them if they
take as many bytes as those of the last chunk. -/
def chunkSize (s : ByteStream) (wanted : Nat) : Nat :=
  max leastChunk (max wanted (wanted * s.lastBytes / s.lastChars))

/-- Takes in the next chunk, and says whether anything came. An empty chunk is the end, at which
nothing waits any longer. -/
def fill (s : ByteStream) (wanted : Nat) : Except Utf8.DecodeError (ByteStream × Bool) := do
  let chunk := s.bytes.take (s.chunkSize wanted)
  let atEnd := chunk.isEmpty
  let (chars, held) ← Utf8.decodeChunk atEnd (s.held ++ chunk)
  let chars := if s.heldReturn && (atEnd || !chars.isEmpty) then '\r' :: chars else chars
  let endsInReturn := !atEnd && chars.getLast? = some '\r'
  let ready := toLineFeeds (if endsInReturn then chars.dropLast else chars)
  return (
    { bytes := s.bytes.drop chunk.length
      held
      heldReturn := endsInReturn || (s.heldReturn && chars.isEmpty)
      ready
      lastBytes := chunk.length
      lastChars := ready.length },
    !atEnd || !ready.isEmpty)

/-- Reads so many characters, or all that are left; `fuel` bounds the number of chunks. -/
def readWithin : (fuel : Nat) → ByteStream → (wanted : Nat) →
    Except Utf8.DecodeError (List Char × ByteStream)
  | 0, s, _ => .ok ([], s)
  | fuel + 1, s, wanted => do
    let now := s.ready.take wanted
    let s := { s with ready := s.ready.drop wanted }
    if now.length = wanted then return (now, s)
    else
      let (s, came) ← s.fill (wanted - now.length)
      if came then
        let (more, s) ← readWithin fuel s (wanted - now.length)
        return (now ++ more, s)
      else return (now, s)

/-- Reads so many characters, or all that are left. -/
def read (s : ByteStream) (wanted : Nat) : Except Utf8.DecodeError (List Char × ByteStream) :=
  readWithin (s.bytes.length + 3) s wanted

end ByteStream

end DocComment.Text
