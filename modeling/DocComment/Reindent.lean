import DocComment.Text.Blank
import DocComment.Text.Lines

/-!
# Re-indented text

The content of an element keeps the indentation of the file it was written in. A line that begins
with a tag sets the reference column to its own indentation; every line loses the smaller of the
reference column and its own indentation, and a white line becomes empty. Afterwards the line feeds
just inside each code region are dropped.
-/

namespace DocComment.Reindent

open DocComment.Text

/-- The number of white space characters that a line begins with. -/
def indentOf (line : List Char) : Nat :=
  (line.takeWhile isBlank).length

/-- The reference column after a line: a line that begins with `<` sets it. -/
def columnAfter (column : Nat) (line : List Char) : Nat :=
  match line.dropWhile isBlank with
  | '<' :: _ => indentOf line
  | _ => column

/-- A line without the part of its indentation that lies left of the column. -/
def dedentLine (column : Nat) (line : List Char) : List Char :=
  if allBlank line then [] else line.drop (min column (indentOf line))

/-- Dedents each line by the reference column that it leaves behind it. -/
def dedent : Nat → List (List Char) → List (List Char)
  | _, [] => []
  | column, line :: rest =>
    let column' := columnAfter column line
    dedentLine column' line :: dedent column' rest

/-- What stands before and after the first occurrence of a pattern. -/
def cutAt? (pattern : List Char) : List Char → Option (List Char × List Char)
  | [] => if pattern.isEmpty then some ([], []) else none
  | c :: rest =>
    if pattern.isPrefixOf (c :: rest) then some ([], (c :: rest).drop pattern.length)
    else (cutAt? pattern rest).map fun (before, after) => (c :: before, after)

/-- What a code region begins with. -/
def codeOpen : List Char :=
  "<code".toList

/-- What a code region ends with. -/
def codeClose : List Char :=
  "</code>".toList

/-- A code region at the start of a text: its opening tag after the name, its body, and the text
after its closing tag. -/
def codeRegion? (s : List Char) : Option (List Char × List Char × List Char) :=
  if codeOpen.isPrefixOf s then
    match cutAt? ['>'] (s.drop codeOpen.length) with
    | some (attrs, rest) =>
      match cutAt? codeClose rest with
      | some (body, after) => some (attrs, body, after)
      | none => none
    | none => none
  else none

theorem cutAt?_length {pattern s before after : List Char}
    (h : cutAt? pattern s = some (before, after)) : after.length ≤ s.length := by
  induction s generalizing before with
  | nil => grind [cutAt?]
  | cons c rest ih =>
    rw [cutAt?] at h
    split at h
    · cases h; simp
    · obtain ⟨⟨b, a⟩, hba, hab⟩ := Option.map_eq_some_iff.1 h
      cases hab
      exact Nat.le_succ_of_le (ih hba)

/-- What follows a region is shorter than the text, so trimming comes to an end. -/
theorem codeRegion?_length {s attrs body after : List Char}
    (h : codeRegion? s = some (attrs, body, after)) : after.length < s.length := by
  unfold codeRegion? at h
  split at h
  case isTrue hpre =>
    have hlen : codeOpen.length ≤ s.length := (List.isPrefixOf_iff_prefix.1 hpre).length_le
    split at h
    case h_1 a r h1 =>
      split at h
      case h_1 b t h2 =>
        cases h
        have := cutAt?_length h1
        have := cutAt?_length h2
        have : codeOpen.length = 5 := rfl
        grind
      case h_2 => simp at h
    case h_2 => simp at h
  case isFalse => simp at h

/-- A text whose code regions have lost the line feeds at both ends of their bodies; regions are
found from the left and do not overlap. -/
def trimCode (s : List Char) : List Char :=
  match _h : codeRegion? s with
  | some (attrs, body, after) =>
    codeOpen ++ attrs ++ ['>'] ++ trimWhile (· = '\n') body ++ codeClose ++ trimCode after
  | none =>
    match s with
    | [] => []
    | c :: rest => c :: trimCode rest
termination_by s.length
decreasing_by
  · exact codeRegion?_length _h
  · simp

/-- Re-indents a text that stands at a column; a negative column counts as zero. -/
def reindent (content : List Char) (column : Int) : List Char :=
  trimCode (unlines (dedent column.toNat (lines content)))

/-- Re-indents a string that stands at a column. -/
def reindentString (content : String) (column : Int) : String :=
  String.ofList (reindent content.toList column)

end DocComment.Reindent
