/-!
# Sets of characters given by code point ranges

A character class with many members is a table of inclusive ranges in increasing order; asking for
membership walks the table and stops at the first range that lies above the character.
-/

namespace DocComment.Text

/-- Inclusive code point ranges in increasing order. -/
abbrev Ranges := List (Nat × Nat)

/-- Whether a code point lies in one of the ranges. -/
def Ranges.containsCode : Ranges → Nat → Bool
  | [], _ => false
  | (lo, hi) :: rest, n =>
    if n < lo then false else if n ≤ hi then true else Ranges.containsCode rest n

/-- Whether a character lies in one of the ranges. -/
def Ranges.contains (ranges : Ranges) (c : Char) : Bool :=
  ranges.containsCode c.toNat

end DocComment.Text
