import DocComment.Text.Blank
import DocComment.Text.Cells
import DocComment.Text.Lines

/-!
# Wrapping text

A text is broken in front of words so that its lines fit into a number of cells. A word together
with the blanks behind it moves as one; the blanks may stick out and are dropped again. What happens
to a word that fits on no line is the caller's choice. A line may measure more cells than its
clusters have, and then it cannot be cut.
-/

namespace DocComment.Report

open DocComment.Text

/-- What happens to a word that is wider than a line. -/
inductive Overflow where
  /-- The word goes on in the next line. -/
  | fold
  /-- The word is cut and ends in an ellipsis. -/
  | ellipsis
deriving DecidableEq, Repr

/-- Why a report breaks off. -/
inductive LayoutError where
  /-- A line should have been cut behind its end. -/
  | cutBehindEnd
deriving DecidableEq, Repr

/-- The wording of a layout error. -/
def LayoutError.message : LayoutError → String
  | cutBehindEnd => "list index out of range"

/-- A text cut to at most `n` cells. -/
def cutTo (n : Nat) (s : List Char) : Except LayoutError (List Char) :=
  if cellCount s ≤ n then .ok s
  else
    match cutCells? n s with
    | some cut => .ok cut
    | none => .error .cutBehindEnd

/-! ## Words -/

/-- What is left behind a word is shorter than what the word was found in. -/
theorem length_dropWhile_lt {p q : Char → Bool} {s rest : List Char} {c : Char}
    (h : s.dropWhile p = c :: rest) :
    ((rest.dropWhile q).dropWhile p).length < s.length := by
  have first := (List.dropWhile_sublist p (l := s)).length_le
  have second := (List.dropWhile_sublist q (l := rest)).length_le
  have third := (List.dropWhile_sublist p (l := rest.dropWhile q)).length_le
  simp only [h, List.length_cons] at first
  omega

/-- The words of a line, each with the blanks behind it; the first also has those in front of it. A
line of blanks has no words. -/
def words (s : List Char) : List (List Char) :=
  match _h : s.dropWhile isBlank with
  | [] => []
  | c :: rest =>
    let after := rest.dropWhile (!isBlank ·)
    (s.takeWhile isBlank ++ c :: rest.takeWhile (!isBlank ·) ++ after.takeWhile isBlank) ::
      words (after.dropWhile isBlank)
termination_by s.length
decreasing_by exact length_dropWhile_lt _h

/-! ## Lines -/

/-- A line that is over, unless nothing stands on it. -/
def closed : List Char → List (List Char)
  | [] => []
  | line => [line]

/-- Lays words on lines; `line` of `size` cells is open. -/
def layWords (width : Nat) (overflow : Overflow) (line : List Char) (size : Nat) :
    List (List Char) → List (List Char)
  | [] => [line]
  | word :: rest =>
    let needed := cellCount (dropEndWhile isBlank word)
    if size + needed ≤ width then
      layWords width overflow (line ++ word) (size + cellCount word) rest
    else if overflow = .fold && width < needed then
      let pieces := chopCells width word
      let last := pieces.getLast?.getD []
      closed line ++ pieces.dropLast ++ layWords width overflow last (cellCount last) rest
    else closed line ++ layWords width overflow word (cellCount word) rest

/-- Drops blanks from the end of a line as long as it has more than `width` characters. -/
def trimExcess (width : Nat) (line : List Char) : List Char :=
  let blanks := (line.reverse.takeWhile isBlank).length
  line.take (line.length - min blanks (line.length - width))

/-- A line that fits as it is, or else is cut. -/
def cropLine (width : Nat) (overflow : Overflow) (line : List Char) :
    Except LayoutError (List Char) := do
  if cellCount line ≤ width then return line
  else
    match overflow with
    | .fold => cutTo width line
    | .ellipsis => return (← cutTo (width - 1) line) ++ ['…']

/-- A line without the blanks that stick out, cut if it is still too wide. A joiner at the end of a
cut line takes up the ellipsis, and then the line is cut once more. -/
def finishLine (width : Nat) (overflow : Overflow) (line : List Char) :
    Except LayoutError (List Char) := do
  cropLine width overflow (← cropLine width overflow (trimExcess width line))

/-- The lines that one line of a text becomes. -/
def wrapLine (width : Nat) (overflow : Overflow) (s : List Char) :
    Except LayoutError (List (List Char)) :=
  let lines := match words s with
    | [] => [s]
    | ws => layWords width overflow [] 0 ws
  lines.mapM (finishLine width overflow)

/-- The lines that a text becomes. -/
def wrap (width : Nat) (overflow : Overflow) (s : List Char) :
    Except LayoutError (List (List Char)) := do
  return (← (splitOn '\n' s).mapM (wrapLine width overflow)).flatten

end DocComment.Report
