import DocComment.Markup.Character
import DocComment.Text.Digits

/-!
# Reading tokens from the left

The outcome of reading one token, and the readers of the parts that several tokens share: names,
references, comments and processing instructions. A reader either finds its token and says what is
left, or points at the first character that cannot continue the token, or runs off the end.
-/

namespace DocComment.Markup

open DocComment.Text

/-- The outcome of reading a token. -/
inductive Scan (α : Type) where
  /-- The token, and the text after it. -/
  | found (value : α) (rest : List Char)
  /-- The text from the first character that cannot continue the token. -/
  | invalid (rest : List Char)
  /-- The text ends inside the token. -/
  | incomplete

namespace Scan

/-- Changes the token that was found. -/
def map {α β : Type} (f : α → β) : Scan α → Scan β
  | found value rest => found (f value) rest
  | invalid rest => invalid rest
  | incomplete => incomplete

/-- Goes on reading after a token. -/
def andThen {α β : Type} (scan : Scan α) (next : α → List Char → Scan β) : Scan β :=
  match scan with
  | found value rest => next value rest
  | invalid rest => invalid rest
  | incomplete => incomplete

/-- Requires a character next. -/
def expect {α : Type} (c : Char) (value : α) : List Char → Scan α
  | [] => incomplete
  | d :: rest => if d = c then found value rest else invalid (d :: rest)

/-- Whether at most so many characters are left after the token. -/
def Leaves {α : Type} (scan : Scan α) (n : Nat) : Prop :=
  ∀ value rest, scan = found value rest → rest.length ≤ n

theorem Leaves.mono {α : Type} {scan : Scan α} {m n : Nat} (h : scan.Leaves m) (le : m ≤ n) :
    scan.Leaves n :=
  fun value rest e => Nat.le_trans (h value rest e) le

theorem leaves_invalid {α : Type} (rest : List Char) (n : Nat) :
    (invalid rest : Scan α).Leaves n := by
  intro _ _ h; cases h

theorem leaves_incomplete {α : Type} (n : Nat) : (incomplete : Scan α).Leaves n := by
  intro _ _ h; cases h

theorem leaves_found {α : Type} {value : α} {rest : List Char} {n : Nat} (h : rest.length ≤ n) :
    (found value rest).Leaves n := by
  intro _ _ e; cases e; exact h

theorem leaves_map {α β : Type} {f : α → β} {scan : Scan α} {n : Nat} (h : scan.Leaves n) :
    (scan.map f).Leaves n := by
  cases scan with
  | found value rest => exact leaves_found (h value rest rfl)
  | invalid rest => exact leaves_invalid rest n
  | incomplete => exact leaves_incomplete n

theorem leaves_andThen {α β : Type} {scan : Scan α} {next : α → List Char → Scan β} {n : Nat}
    (h : ∀ value rest, scan = found value rest → (next value rest).Leaves n) :
    (scan.andThen next).Leaves n := by
  cases scan with
  | found value rest => exact h value rest rfl
  | invalid rest => exact leaves_invalid rest n
  | incomplete => exact leaves_incomplete n

theorem leaves_ite {α : Type} {p : Prop} [Decidable p] {a b : Scan α} {n : Nat} (ha : a.Leaves n)
    (hb : b.Leaves n) : (if p then a else b).Leaves n := by
  split
  · exact ha
  · exact hb

theorem leaves_expect {α : Type} (c : Char) (value : α) (s : List Char) :
    (expect c value s).Leaves s.length := by
  cases s with
  | nil => exact leaves_incomplete 0
  | cons d rest =>
    rw [expect]
    split
    · exact leaves_found (Nat.le_succ _)
    · exact leaves_invalid _ _

end Scan

/-- The text after the layout at its start. -/
def skipSpace (s : List Char) : List Char :=
  s.dropWhile isSpace

theorem length_dropWhile_le (p : Char → Bool) (s : List Char) :
    (s.dropWhile p).length ≤ s.length :=
  (List.dropWhile_suffix p).length_le

/-- Reads a name. -/
def scanName : List Char → Scan String
  | [] => .incomplete
  | c :: rest =>
    if isNameStart c then
      .found (String.ofList (c :: rest.takeWhile isNameChar)) (rest.dropWhile isNameChar)
    else .invalid (c :: rest)

theorem scanName_leaves (s : List Char) : (scanName s).Leaves (s.length - 1) := by
  cases s with
  | nil => exact Scan.leaves_incomplete _
  | cons c rest =>
    rw [scanName]
    split
    · exact Scan.leaves_found (length_dropWhile_le _ _)
    · exact Scan.leaves_invalid _ _

/-! ## References -/

/-- A reference to a character by number, or to an entity by name. A number that no character of a
document has refers to none. -/
inductive Reference where
  | character (value : Option Char)
  | entity (name : String)
deriving DecidableEq, Repr

/-- Reads digits and the semicolon after them. -/
def scanNumber (base : Nat) (isDigit : Char → Bool) (s : List Char) : Scan Reference :=
  match s.takeWhile isDigit, s.dropWhile isDigit with
  | [], [] => .incomplete
  | [], rest => .invalid rest
  | digits, rest => Scan.expect ';' (.character (charOfCode? (numberOf base digits))) rest

theorem scanNumber_leaves (base : Nat) (isDigit : Char → Bool) (s : List Char) :
    (scanNumber base isDigit s).Leaves s.length := by
  unfold scanNumber
  split
  · exact Scan.leaves_incomplete _
  · exact Scan.leaves_invalid _ _
  · exact (Scan.leaves_expect _ _ _).mono (length_dropWhile_le _ _)

/-- Reads a reference whose ampersand has been read. -/
def scanReference : List Char → Scan Reference
  | '#' :: 'x' :: rest => scanNumber 16 isHexDigit rest
  | '#' :: rest => scanNumber 10 Char.isDigit rest
  | s => (scanName s).andThen fun name rest => Scan.expect ';' (.entity name) rest

theorem scanReference_leaves (s : List Char) : (scanReference s).Leaves s.length := by
  unfold scanReference
  split
  · exact (scanNumber_leaves _ _ _).mono (by simp; omega)
  · exact (scanNumber_leaves _ _ _).mono (by simp)
  · refine Scan.leaves_andThen fun name rest h => ?_
    exact (Scan.leaves_expect _ _ _).mono
      (Nat.le_trans (scanName_leaves _ name rest h) (Nat.sub_le _ _))

/-! ## Comments and instructions -/

/-- Reads a comment whose `<!--` has been read; two hyphens inside it end it. -/
def scanComment : List Char → Scan (List Char)
  | [] => .incomplete
  | '-' :: '-' :: rest => Scan.expect '>' [] rest
  | c :: rest => if isChar c then (scanComment rest).map (c :: ·) else .invalid (c :: rest)

theorem scanComment_leaves (s : List Char) : (scanComment s).Leaves s.length := by
  fun_induction scanComment s with
  | case1 => exact Scan.leaves_incomplete _
  | case2 rest => exact (Scan.leaves_expect _ _ _).mono (by simp; omega)
  | case3 c rest _ _ ih => exact Scan.leaves_map (ih.mono (by simp))
  | case4 => exact Scan.leaves_invalid _ _

/-- A processing instruction: the declaration that opens a document, or any other. -/
inductive Instruction where
  /-- What stands between `<?xml` and `?>`, and how much of the text is left after `<?xml`. -/
  | declaration (body : List Char) (remaining : Nat)
  | other

/-- Reads the rest of an instruction up to `?>`. -/
def scanInstructionBody : List Char → Scan (List Char)
  | [] => .incomplete
  | '?' :: '>' :: rest => .found [] rest
  | c :: rest => if isChar c then (scanInstructionBody rest).map (c :: ·) else .invalid (c :: rest)

theorem scanInstructionBody_leaves (s : List Char) :
    (scanInstructionBody s).Leaves s.length := by
  fun_induction scanInstructionBody s with
  | case1 => exact Scan.leaves_incomplete _
  | case2 rest => exact Scan.leaves_found (by simp; omega)
  | case3 c rest _ _ ih => exact Scan.leaves_map (ih.mono (by simp))
  | case4 => exact Scan.leaves_invalid _ _

/-- Whether a target is `xml` in other than lower case, which is reserved. -/
def isReservedTarget (target : String) : Bool :=
  target ≠ "xml" && target.toLower = "xml"

/-- Reads an instruction whose `<?` has been read. -/
def scanInstruction (s : List Char) : Scan Instruction :=
  (scanName s).andThen fun target rest =>
    match rest with
    | [] => .incomplete
    | c :: after =>
      if isReservedTarget target then .invalid rest
      else
        let made (body : List Char) : Instruction :=
          if target = "xml" then .declaration body rest.length else .other
        if isSpace c then (scanInstructionBody after).map fun body => made (c :: body)
        else if c = '?' then Scan.expect '>' (made []) after
        else .invalid rest

/-- An instruction leaves no more than is behind `<?`. -/
theorem scanInstruction_leaves (s : List Char) : (scanInstruction s).Leaves s.length := by
  unfold scanInstruction
  refine Scan.leaves_andThen fun target rest h => ?_
  have hlen := scanName_leaves _ target rest h
  cases rest with
  | nil => exact Scan.leaves_incomplete _
  | cons c after =>
    have hafter : after.length ≤ s.length := by simp at hlen; omega
    dsimp only
    split
    · exact Scan.leaves_invalid _ _
    · split
      · exact Scan.leaves_map ((scanInstructionBody_leaves after).mono hafter)
      · split
        · exact (Scan.leaves_expect _ _ _).mono hafter
        · exact Scan.leaves_invalid _ _

end DocComment.Markup
