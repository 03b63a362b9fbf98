import DocComment.Markup.Fault
import DocComment.Text.Utf16

/-!
# The encoding of a document

A document is read from its bytes in UTF-8. If one of the first two bytes is zero, they cannot be
meant as UTF-8, and the bytes are taken for UTF-16 instead. Once they are decoded, a document is read
in the same way in both: names are made of the same letters.
-/

namespace DocComment.Markup

open DocComment.Text

/-- The order of the bytes of a document that is taken for UTF-16: the first two bytes of its UTF-8
are a unit below 256. -/
def byteOrder? : List Char → Option Utf16.ByteOrder
  | '\x00' :: _ => some .highFirst
  | c :: '\x00' :: _ => if c.toNat < 0x80 then some .lowFirst else none
  | _ => none

/-- The characters of a document in its encoding, and what is left over at its end. -/
def characters (text : List Char) : List Char × Option Utf16.Remnant :=
  match byteOrder? text with
  | none => (text, none)
  | some order => Utf16.decode order (text.flatMap String.utf8EncodeChar)

/-- What is wrong with a document at whose end something is left over. -/
def remnantFault : Utf16.Remnant → Fault
  | .byte => .unclosedToken
  | .surrogate => .partialCharacter

/-- What is wrong with a document at whose end something is left over, if without that it has a fault
already: an early end is blamed on what is left over. -/
def faultBefore (remnant : Utf16.Remnant) (fault : Fault) : Fault :=
  match fault with
  | .noElement => remnantFault remnant
  | .unclosedElement => remnantFault remnant
  | .unclosedToken => remnantFault remnant
  | .unclosedCData => if remnant = .surrogate then .partialCharacter else .unclosedCData
  | _ => fault

/-- Whether what is left over is not looked at: one byte behind a closing bracket or, if the root
element has begun, behind a carriage return. -/
def isIdle (remnant : Utf16.Remnant) (s : List Char) (begun : Bool) : Bool :=
  remnant = .byte && (s.getLast? = some ']' || begun && s.getLast? = some '\r')

end DocComment.Markup
