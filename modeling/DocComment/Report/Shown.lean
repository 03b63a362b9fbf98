/-!
# Text as reports show it

A report takes a backslash in front of an opening bracket for an escape and leaves it out, unless
the bracket begins a tag: a letter, `#`, `/` or `@` and a closing bracket with no further opening
bracket in between. A single backslash at the end of a text is doubled. Controls that would move the
cursor are left out.
-/

namespace DocComment.Report

/-- Whether the text behind an opening bracket makes it a tag. -/
def opensTag : List Char → Bool
  | [] => false
  | c :: rest =>
    (('a' ≤ c && c ≤ 'z') || c = '#' || c = '/' || c = '@') &&
      (rest.dropWhile fun d => d ≠ ']' && d ≠ '[').head? == some ']'

/-- Leaves out the backslashes that escape a bracket. -/
def dropEscapes : List Char → List Char
  | [] => []
  | [c] => [c]
  | c :: d :: rest =>
    if c = '\\' && d = '[' && !opensTag rest then dropEscapes (d :: rest)
    else c :: dropEscapes (d :: rest)

/-- Doubles a single backslash at the end of a text. -/
def doubleLastBackslash (s : List Char) : List Char :=
  match s.reverse with
  | '\\' :: '\\' :: _ => s
  | '\\' :: _ => s ++ ['\\']
  | _ => s

/-- Whether a control moves the cursor or rings: bell, backspace, vertical tab, form feed and
carriage return. -/
def isCursorControl (c : Char) : Bool :=
  c = '\x07' || c = '\x08' || c = '\x0B' || c = '\x0C' || c = '\r'

/-- A text as a report shows it. -/
def shown (s : String) : List Char :=
  (dropEscapes (doubleLastBackslash s.toList)).filter (!isCursorControl ·)

end DocComment.Report
