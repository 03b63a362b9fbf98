import DocComment.Text.CharCells

/-!
# Texts on a display of cells

A joiner makes the next character take no cells of its own, and a variation selector may widen the
character before it. To be cut, a text is divided into clusters: a character that takes cells, with
the characters after it that take none. A joiner pulls the next character into its cluster, but at
the beginning of a text it has nothing to join that character to: the character is a cluster of its
own, though a measured text does not count it.
-/

namespace DocComment.Text

/-- The character that joins its neighbours to one picture. -/
def joiner : Char :=
  '\u200D'

/-- The character that asks for the wide form of the one before it. -/
def wideSelector : Char :=
  '\uFE0F'

/-! ## Measuring -/

/-- How many cells a selector adds behind `last`, the last character that took cells. -/
def widening (last : Option Char) : Nat :=
  if last.any widenedRanges.contains then 1 else 0

/-- How many cells the rest of a text takes; `last` is the last character that took cells, unless a
selector has been applied to it. -/
def cellCountFrom (last : Option Char) : List Char → Nat
  | [] => 0
  | [c] => if c = joiner then 0 else if c = wideSelector then widening last else charCells c
  | c :: d :: rest =>
    if c = joiner then cellCountFrom last rest
    else if c = wideSelector then widening last + cellCountFrom none (d :: rest)
    else if charCells c = 0 then cellCountFrom last (d :: rest)
    else charCells c + cellCountFrom (some c) (d :: rest)

/-- How many cells a text takes. -/
def cellCount (s : List Char) : Nat :=
  cellCountFrom none s

/-- A text filled up to `n` cells, and not cut. -/
def padCells (n : Nat) (s : List Char) : List Char :=
  s ++ List.replicate (n - cellCount s) ' '

/-! ## Cutting -/

/-- Characters that share their cells, and how many cells those are. -/
structure Cluster where
  chars : List Char := []
  cells : Nat := 0

/-- The clusters of a text behind an open cluster; `last` is the last character that took cells,
unless a selector has been applied to it. -/
def clustersFrom (current : Cluster) (last : Option Char) : List Char → List Cluster
  | [] => [current]
  | [c] =>
    if c = joiner || (c ≠ wideSelector && charCells c = 0) then
      [⟨current.chars ++ [c], current.cells⟩]
    else if c = wideSelector then
      [⟨current.chars ++ [c], current.cells + widening last⟩]
    else [current, ⟨[c], charCells c⟩]
  | c :: d :: rest =>
    if c = joiner && current.chars.isEmpty then clustersFrom ⟨[c], 0⟩ last (d :: rest)
    else if c = joiner then clustersFrom ⟨current.chars ++ [c, d], current.cells⟩ last rest
    else if c = wideSelector then
      clustersFrom ⟨current.chars ++ [c], current.cells + widening last⟩ none (d :: rest)
    else if charCells c = 0 then
      clustersFrom ⟨current.chars ++ [c], current.cells⟩ last (d :: rest)
    else current :: clustersFrom ⟨[c], charCells c⟩ (some c) (d :: rest)

/-- The clusters of a text; the first holds what stands before the first cell and is often empty. -/
def clusters (s : List Char) : List Cluster :=
  clustersFrom {} none s

/-- As many clusters as fit into `n` cells, filled up with a space if a wide character would be cut
in half; `none` if the clusters end before that. -/
def fillCells? : Nat → List Cluster → Option (List Char)
  | 0, [] => some []
  | _ + 1, [] => none
  | n, k :: rest =>
    if k.cells ≤ n then (fillCells? (n - k.cells) rest).map (k.chars ++ ·)
    else some (List.replicate n ' ')

/-- The first `n` cells of a text, if its clusters have so many. -/
def cutCells? (n : Nat) (s : List Char) : Option (List Char) :=
  if n = 0 then some [] else fillCells? n (clusters s)

/-- Cuts clusters into pieces of at most `width` cells; `piece` of `size` cells is open. -/
def chopClusters (width : Nat) (piece : List Char) (size : Nat) : List Cluster → List (List Char)
  | [] => if size = 0 then [] else [piece]
  | k :: rest =>
    if width < size + k.cells then piece :: chopClusters width k.chars k.cells rest
    else chopClusters width (piece ++ k.chars) (size + k.cells) rest

/-- Cuts a text into pieces of at most `width` cells. -/
def chopCells (width : Nat) (s : List Char) : List (List Char) :=
  chopClusters width [] 0 (clusters s)

end DocComment.Text
