import DocComment.Text.ByteStream
import DocComment.Yaml.Cursor
import DocComment.Yaml.Fault

/-!
# YAML texts as they are read

A text is read in pages, and each page must consist of printable characters. A page that cannot be
read does not matter until somebody asks for a character of it, so a source is the text before that
page together with what is wrong with the page.
-/

namespace DocComment.Yaml

/-- A text as far as it can be read, and what is wrong behind it. -/
structure Source where
  text : List Char
  fault : Option LoadError := none

namespace Source

/-- How many characters a page has. -/
def pageSize : Nat :=
  4096

/-- Reads pages behind a text until one cannot be read; `fuel` bounds their number. -/
def readPages : (fuel : Nat) → (text : List Char) → Text.ByteStream → Source
  | 0, text, _ => { text }
  | fuel + 1, text, stream =>
    match stream.read pageSize with
    | .error e => { text, fault := some (.undecodable e) }
    | .ok ([], _) => { text }
    | .ok (page, stream) =>
      if page.all isPrintable then readPages fuel (text ++ page) stream
      else { text, fault := some (.malformed .unprintableCharacter) }

/-- Reads the first two pages as one. -/
def readOpening (stream : Text.ByteStream) :
    Except Text.Utf8.DecodeError (List Char × Text.ByteStream) := do
  let (first, stream) ← stream.read pageSize
  let (second, stream) ← stream.read pageSize
  return (first ++ second, stream)

/-- The text that bytes hold. -/
def ofBytes (bytes : List UInt8) : Source :=
  match readOpening { bytes } with
  | .error e => { text := [], fault := some (.undecodable e) }
  | .ok (page, stream) =>
    if page.all isPrintable then readPages (bytes.length + 1) page stream
    else { text := [], fault := some (.malformed .unprintableCharacter) }

end Source

end DocComment.Yaml
