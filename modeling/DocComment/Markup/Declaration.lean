import DocComment.Markup.Scan

/-!
# The declaration that opens a document

A version, then optionally an encoding, then optionally whether the document stands alone. The
encoding has no effect, since the text has been decoded already.
-/

namespace DocComment.Markup.Declaration

/-- A name with a quoted value. -/
structure Item where
  name : List Char
  value : List Char
  /-- The declaration from the name on. -/
  atName : List Char
  /-- The declaration from the first character of the value on. -/
  atValue : List Char
  /-- The declaration after the closing quote. -/
  rest : List Char

/-- Whether a character may stand in a value. -/
def isValueChar (c : Char) : Bool :=
  c.isAlphanum || c = '.' || c = '-' || c = '_'

/-- Whether a character may stand in the name of an item. -/
def isItemNameChar (c : Char) : Bool :=
  c.toNat < 0x80 && c ≠ '=' && !isSpace c

/-- Reads the next item, if there is one; a failure is the declaration from the place that is wrong.
-/
def next (s : List Char) : Except (List Char) (Option Item) :=
  match s with
  | [] => .ok none
  | c :: _ =>
    if !isSpace c then .error s
    else
      let atName := skipSpace s
      if atName.isEmpty then .ok none
      else
        let name := atName.takeWhile isItemNameChar
        let afterName := atName.dropWhile isItemNameChar
        match afterName with
        | [] => .error []
        | d :: _ =>
          if d.toNat ≥ 0x80 then .error afterName
          else
            match skipSpace afterName with
            | '=' :: afterSign =>
              if name.isEmpty then .error afterName
              else
                match skipSpace afterSign with
                | quote :: atValue =>
                  if quote = '"' || quote = '\'' then
                    let value := atValue.takeWhile isValueChar
                    match atValue.dropWhile isValueChar with
                    | e :: rest =>
                      if e = quote then .ok (some ⟨name, value, atName, atValue, rest⟩)
                      else .error (e :: rest)
                    | [] => .error []
                  else .error (quote :: atValue)
                | [] => .error []
            | bad => .error bad

/-- Reads whether the document stands alone from the item that must say so. -/
def standalone (item : Item) : Except (List Char) Bool :=
  if item.name ≠ "standalone".toList then .error item.atName
  else if item.value ≠ "yes".toList && item.value ≠ "no".toList then .error item.atValue
  else if !(skipSpace item.rest).isEmpty then .error (skipSpace item.rest)
  else .ok (item.value = "yes".toList)

/-- Reads what stands between `<?xml` and `?>`: whether the document stands alone, or the
declaration from the place that is wrong. -/
def read (body : List Char) : Except (List Char) Bool := do
  match ← next body with
  | none => .error body
  | some version =>
    if version.name ≠ "version".toList then .error version.atName
    else
      match ← next version.rest with
      | none => .ok false
      | some item =>
        if item.name = "encoding".toList then
          if !((item.value.head?).any Char.isAlpha) then .error item.atValue
          else
            match ← next item.rest with
            | none => .ok false
            | some last => standalone last
        else standalone item

end DocComment.Markup.Declaration
