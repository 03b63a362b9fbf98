/-!
# Decoding UTF-16

Bytes to text, two bytes a unit and one or two units a character. Bytes that are no text are decoded
all the same: of the unit behind a high surrogate only the low ten bits count, whichever unit it is,
and a low surrogate of its own is read as a noncharacter.
-/

namespace DocComment.Text.Utf16

/-- Which of the two bytes of a unit comes first. -/
inductive ByteOrder where
  | highFirst
  | lowFirst
deriving DecidableEq, Repr

/-- The unit that two bytes make. -/
def ByteOrder.unit : ByteOrder → UInt8 → UInt8 → Nat
  | highFirst, a, b => a.toNat * 256 + b.toNat
  | lowFirst, a, b => b.toNat * 256 + a.toNat

/-- What is left over at the end of bytes: one byte, or a high surrogate. -/
inductive Remnant where
  | byte
  | surrogate
deriving DecidableEq, Repr

/-- The units that bytes make, and whether one byte is left over. -/
def units (order : ByteOrder) : List UInt8 → List Nat × Bool
  | [] => ([], false)
  | [_] => ([], true)
  | a :: b :: rest =>
    let (us, odd) := units order rest
    (order.unit a b :: us, odd)

/-- Whether a unit is the first of two that make a character. -/
def isHigh (u : Nat) : Bool :=
  0xD800 ≤ u && u < 0xDC00

/-- The character that a high surrogate makes with the unit behind it. -/
def pair (high low : Nat) : Char :=
  Char.ofNat (0x10000 + high % 0x400 * 0x400 + low % 0x400)

/-- The character that a unit makes that is no high surrogate. -/
def single (u : Nat) : Char :=
  if 0xDC00 ≤ u && u < 0xE000 then '\uFFFF' else Char.ofNat u

/-- The characters that units make, and whether a high surrogate is left over. -/
def ofUnits : List Nat → List Char × Bool
  | [] => ([], false)
  | [u] => if isHigh u then ([], true) else ([single u], false)
  | u :: v :: rest =>
    if isHigh u then
      let (s, high) := ofUnits rest
      (pair u v :: s, high)
    else
      let (s, high) := ofUnits (v :: rest)
      (single u :: s, high)

/-- Decodes bytes: the characters that they make and what is left over. -/
def decode (order : ByteOrder) (bytes : List UInt8) : List Char × Option Remnant :=
  let (us, odd) := units order bytes
  let (s, high) := ofUnits us
  (s, if high then some .surrogate else if odd then some .byte else none)

end DocComment.Text.Utf16
