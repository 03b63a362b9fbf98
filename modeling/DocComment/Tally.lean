/-!
# Tallies of references

How often each identifier has been reported, in the order of the identifiers.
-/

namespace DocComment

/-- How often each identifier has been reported; identifiers increase. -/
structure Tally where
  items : List (String × Nat) := []

namespace Tally

/-- Counts one more occurrence in an increasing list. -/
def insert (identifier : String) : List (String × Nat) → List (String × Nat)
  | [] => [(identifier, 1)]
  | (other, n) :: rest =>
    if identifier = other then (other, n + 1) :: rest
    else if identifier < other then (identifier, 1) :: (other, n) :: rest
    else (other, n) :: insert identifier rest

/-- Counts one more occurrence of an identifier. -/
def add (t : Tally) (identifier : String) : Tally :=
  ⟨insert identifier t.items⟩

/-- Counts the occurrences in a list. -/
def addAll (t : Tally) (identifiers : List String) : Tally :=
  identifiers.foldl add t

/-- How often an identifier has been reported. -/
def count (t : Tally) (identifier : String) : Nat :=
  (t.items.lookup identifier).getD 0

/-- Whether an identifier has been reported. -/
def contains (t : Tally) (identifier : String) : Bool :=
  (t.items.lookup identifier).isSome

/-- The identifiers that have been reported, in order. -/
def identifiers (t : Tally) : List String :=
  t.items.map (·.1)

/-- How many identifiers have been reported. -/
def size (t : Tally) : Nat :=
  t.items.length

end Tally

end DocComment
