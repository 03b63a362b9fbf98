/-!
# Decoding UTF-8

Bytes to text. A sequence that is no character is refused at its first byte, with as many of its
bytes as could still have begun a character; surrogates, overlong forms and numbers above U+10FFFF
are no characters.
-/

namespace DocComment.Text.Utf8

/-- Why bytes are no text. -/
inductive Reason where
  | invalidStart
  | invalidContinuation
  | unexpectedEnd
deriving DecidableEq, Repr

/-- The wording of a reason. -/
def Reason.message : Reason → String
  | invalidStart => "invalid start byte"
  | invalidContinuation => "invalid continuation byte"
  | unexpectedEnd => "unexpected end of data"

/-- Bytes that are no text: where they begin, which they are and why. -/
structure DecodeError where
  position : Nat
  first : UInt8
  count : Nat
  reason : Reason
deriving DecidableEq, Repr

/-- A byte in two hexadecimal digits. -/
def hexByte (b : UInt8) : String :=
  String.ofList [Nat.digitChar (b.toNat / 16), Nat.digitChar (b.toNat % 16)]

/-- The wording of a decoding error. -/
def DecodeError.message (e : DecodeError) : String :=
  "'utf-8' codec can't decode " ++
    (if e.count = 1 then "byte 0x" ++ hexByte e.first ++ " in position " ++ toString e.position
     else "bytes in position " ++ toString e.position ++ "-" ++
       toString (e.position + e.count - 1)) ++
    ": " ++ e.reason.message

/-- Whether a byte continues a sequence. -/
def isContinuation (b : UInt8) : Bool :=
  0x80 ≤ b && b < 0xC0

/-- Whether a byte may come second after the first byte of a sequence: overlong forms, surrogates
and numbers that are too large are told by the second byte. -/
def isSecond (first b : UInt8) : Bool :=
  if first = 0xE0 then 0xA0 ≤ b && b < 0xC0
  else if first = 0xED then 0x80 ≤ b && b < 0xA0
  else if first = 0xF0 then 0x90 ≤ b && b < 0xC0
  else if first = 0xF4 then 0x80 ≤ b && b < 0x90
  else isContinuation b

/-- The bits that a continuation byte carries. -/
def low (b : UInt8) : Nat :=
  b.toNat % 64

/-- Decodes bytes that begin at a position. -/
def decodeFrom (position : Nat) : List UInt8 → Except DecodeError (List Char)
  | [] => .ok []
  | a :: rest =>
    if a < 0x80 then
      (decodeFrom (position + 1) rest).map (Char.ofNat a.toNat :: ·)
    else if a < 0xC2 || 0xF5 ≤ a then .error ⟨position, a, 1, .invalidStart⟩
    else
      match rest with
      | [] => .error ⟨position, a, 1, .unexpectedEnd⟩
      | b :: rest =>
        if !isSecond a b then .error ⟨position, a, 1, .invalidContinuation⟩
        else if a < 0xE0 then
          (decodeFrom (position + 2) rest).map (Char.ofNat ((a.toNat - 0xC0) * 64 + low b) :: ·)
        else
          match rest with
          | [] => .error ⟨position, a, 2, .unexpectedEnd⟩
          | c :: rest =>
            if !isContinuation c then .error ⟨position, a, 2, .invalidContinuation⟩
            else if a < 0xF0 then
              (decodeFrom (position + 3) rest).map
                (Char.ofNat (((a.toNat - 0xE0) * 64 + low b) * 64 + low c) :: ·)
            else
              match rest with
              | [] => .error ⟨position, a, 3, .unexpectedEnd⟩
              | d :: rest =>
                if !isContinuation d then .error ⟨position, a, 3, .invalidContinuation⟩
                else
                  (decodeFrom (position + 4) rest).map
                    (Char.ofNat ((((a.toNat - 0xF0) * 64 + low b) * 64 + low c) * 64 + low d) :: ·)

/-- Decodes bytes. -/
def decode (bytes : List UInt8) : Except DecodeError (List Char) :=
  decodeFrom 0 bytes

/-- The mark that a text may begin with. -/
def mark : List UInt8 :=
  [0xEF, 0xBB, 0xBF]

/-- Decodes bytes without the mark that they may begin with; positions are counted behind it, and
bytes that break off inside it are an empty text. -/
def decodeMarked (bytes : List UInt8) : Except DecodeError (List Char) :=
  if mark.isPrefixOf bytes then decode (bytes.drop 3)
  else if bytes.isPrefixOf mark then .ok []
  else decode bytes

/-- Whether bytes break off inside a character; a surrogate's first two bytes count as such. -/
def breaksOff (bytes : List UInt8) (e : DecodeError) : Bool :=
  e.reason = .unexpectedEnd ||
    (match bytes.drop e.position with
      | [a, b] => a = 0xED && 0xA0 ≤ b && b < 0xC0
      | _ => false)

/-- Decodes a chunk of bytes: its characters, and the bytes at its end that wait for the next chunk
because a character breaks off there. At the end of all bytes none can wait. -/
def decodeChunk (atEnd : Bool) (bytes : List UInt8) :
    Except DecodeError (List Char × List UInt8) :=
  match decode bytes with
  | .ok s => .ok (s, [])
  | .error e =>
    if !atEnd && breaksOff bytes e then
      (decode (bytes.take e.position)).map (·, bytes.drop e.position)
    else .error e

end DocComment.Text.Utf8
