import DocComment.Report.Wrap

/-!
# Panels

A panel is a frame of 80 cells with a title in its upper edge around a table of two columns. Each
column is as wide as its widest line; if both together are too wide, the wider one gives way until
they are equal, and then both give way evenly.
-/

namespace DocComment.Report

open DocComment.Text

/-- The cells of a line of a report. -/
def reportWidth : Nat :=
  80

/-- The cells of a line inside a panel. -/
def panelWidth : Nat :=
  reportWidth - 4

/-- A row of a table. -/
structure Row where
  label : List Char
  value : List Char

/-! ## Columns -/

/-- Whether a character ends a line when lines are measured. -/
def isLineEnd (c : Char) : Bool :=
  c = '\n' || ('\x1C' ≤ c && c ≤ '\x1E') || c = '\u0085' || c = '\u2028' || c = '\u2029'

/-- The cells of the longest line of a text. -/
def longestLine (s : List Char) : Nat :=
  ((splitOn '\n' (s.map fun c => if isLineEnd c then '\n' else c)).map cellCount).foldl max 0

/-- The width of a column with these texts: a blank on each side and no more than a panel has. -/
def columnWidth (texts : List (List Char)) : Nat :=
  min panelWidth ((texts.map longestLine).foldl max 0 + 2)

/-- Half of a number; of two nearest ones the even one. -/
def halfToEven (n : Nat) : Nat :=
  n / 2 + if n % 2 = 1 && n / 2 % 2 = 1 then 1 else 0

/-- Makes two columns fit into `total` cells. -/
def shrink (total first second : Nat) : Nat × Nat :=
  let excess := first + second - total
  let first' := first - min excess (first - second)
  let second' := second - min excess (second - first)
  let rest := first' + second' - total
  (first' - halfToEven rest, second' - (rest - halfToEven rest))

/-! ## Rows -/

/-- A line of a column with a blank on each side. The line is filled up twice, since a joiner at its
end swallows the first blank; one that sticks out takes the place of the blank behind it. -/
def besideBlanks (width : Nat) (line : List Char) : Except LayoutError (List Char) := do
  if cellCount line ≤ width then return ' ' :: padCells width (padCells width line) ++ [' ']
  else return ' ' :: (← cutTo (width + 1) line)

/-- The lines of a text in a column, each as wide as the column; one that has room for nothing
between its blanks has no lines. -/
def cellLines (width : Nat) (s : List Char) : Except LayoutError (List (List Char)) := do
  if width ≤ 2 then return []
  else (← wrap (width - 2) .ellipsis s).mapM (besideBlanks (width - 2))

/-- Lines side by side; the shorter column is filled up with blank lines. -/
def besideEachOther (first second : Nat) :
    List (List Char) → List (List Char) → List (List Char)
  | [], [] => []
  | a :: as, [] => (a ++ List.replicate second ' ') :: besideEachOther first second as []
  | [], b :: bs => (List.replicate first ' ' ++ b) :: besideEachOther first second [] bs
  | a :: as, b :: bs => (a ++ b) :: besideEachOther first second as bs

/-- The lines of a table, each as wide as a panel. -/
def tableLines (rows : List Row) : Except LayoutError (List (List Char)) := do
  let (first, second) :=
    shrink panelWidth (columnWidth (rows.map (·.label))) (columnWidth (rows.map (·.value)))
  let lines ← rows.mapM fun row => do
    return besideEachOther first second (← cellLines first row.label) (← cellLines second row.value)
  return lines.flatten.map (· ++ List.replicate (panelWidth - first - second) ' ')

/-! ## Frames -/

/-- A horizontal stroke. -/
def stroke (n : Nat) : List Char :=
  List.replicate n '─'

/-- The title in the upper edge of a panel: in the middle, with a blank on each side. The last blank
is dropped if no stroke follows and the title has more characters than cells. -/
def titleLine (title : List Char) : Except LayoutError (List Char) := do
  let text ← cutTo panelWidth (' ' :: title.map (fun c => if c = '\n' then ' ' else c) ++ [' '])
  let excess := panelWidth - cellCount text
  return trimExcess panelWidth (stroke (excess / 2) ++ text ++ stroke (excess - excess / 2))

/-- The upper edge of a panel. -/
def topEdge : Option (List Char) → Except LayoutError (List Char)
  | none => .ok ('╭' :: stroke (reportWidth - 2) ++ ['╮'])
  | some title => do return ['╭', '─'] ++ (← titleLine title) ++ ['─', '╮']

/-- The lower edge of a panel. -/
def bottomEdge : List Char :=
  '╰' :: stroke (reportWidth - 2) ++ ['╯']

/-- The lines of a panel. -/
def panelLines (title : Option (List Char)) (rows : List Row) :
    Except LayoutError (List (List Char)) := do
  let top ← topEdge title
  let body := (← tableLines rows).map fun line => ['│', ' '] ++ line ++ [' ', '│']
  return top :: body ++ [bottomEdge]

end DocComment.Report
