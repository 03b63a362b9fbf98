/-!
# Similar words

How alike two words are: the longest run of characters that both hold is matched, then what stands
before it in both and what stands behind it in both. Twice the matched characters over all
characters is the likeness, and words from three fifths on are close.
-/

namespace DocComment.Text

/-- How many characters two words begin with in common. -/
def commonStart : List Char → List Char → Nat
  | a :: as, b :: bs => if a = b then commonStart as bs + 1 else 0
  | _, _ => 0

/-- A run that two words have in common: where it begins in each and how long it is. -/
structure CommonRun where
  first : Nat := 0
  second : Nat := 0
  length : Nat := 0

/-- Of two runs the longer one; of equally long ones the first. -/
def CommonRun.longer (r s : CommonRun) : CommonRun :=
  if r.length < s.length then s else r

/-- The longest run of two words that begins at the beginning of the first one. -/
def longestRunAt (first : Nat) (a : List Char) : Nat → List Char → CommonRun
  | second, [] => ⟨first, second, 0⟩
  | second, b :: bs =>
    CommonRun.longer ⟨first, second, commonStart a (b :: bs)⟩ (longestRunAt first a (second + 1) bs)

/-- The longest run of two words, given how many characters of the first one stand before it; of
equally long ones the one that begins first in the first word, then in the second. -/
def longestRun (first : Nat) : List Char → List Char → CommonRun
  | [], _ => {}
  | a :: as, b => CommonRun.longer (longestRunAt first (a :: as) 0 b) (longestRun (first + 1) as b)

/-- How many characters are matched in words of at most `fuel` characters. -/
def matchedWithin : Nat → List Char → List Char → Nat
  | 0, _, _ => 0
  | fuel + 1, a, b =>
    let run := longestRun 0 a b
    if run.length = 0 then 0
    else
      matchedWithin fuel (a.take run.first) (b.take run.second) + run.length +
        matchedWithin fuel (a.drop (run.first + run.length)) (b.drop (run.second + run.length))

/-- How many characters of two words are matched. -/
def matched (a b : List Char) : Nat :=
  matchedWithin a.length a b

/-- Whether two words are close. -/
def isClose (known word : String) : Bool :=
  3 * (known.length + word.length) ≤ 10 * matched known.toList word.toList

end DocComment.Text
