import DocComment.Markup.Fault
import DocComment.Markup.Scan

/-!
# Lexemes of content

The content of an element is a sequence of single characters, references, tags, comments,
instructions and character sections. Reading a lexeme settles its shape only; what a reference
stands for, and whether tags match, is decided later.
-/

namespace DocComment.Markup

/-! ## Attribute values -/

/-- A piece of an attribute value; a reference remembers how much of the text is left at it. -/
inductive Piece where
  | character (c : Char)
  | reference (target : Reference) (remaining : Nat)

/-- An attribute as written, with how much of the text is left at its name. -/
structure RawAttribute where
  name : String
  remaining : Nat
  value : List Piece

/-- Reads a piece of an attribute value that begins with the given character. -/
def scanPiece (c : Char) (rest : List Char) : Scan Piece :=
  if c = '&' then (scanReference rest).map (Piece.reference · (rest.length + 1))
  else if c = '<' || !isChar c then .invalid (c :: rest)
  else .found (.character c) rest

theorem scanPiece_leaves (c : Char) (rest : List Char) : (scanPiece c rest).Leaves rest.length := by
  unfold scanPiece
  split
  · exact Scan.leaves_map (scanReference_leaves rest)
  · split
    · exact Scan.leaves_invalid _ _
    · exact Scan.leaves_found (Nat.le_refl _)

/-- Reads an attribute value up to its closing quote. -/
def scanValue (quote : Char) (s : List Char) : Scan (List Piece) :=
  match s with
  | [] => .incomplete
  | c :: rest =>
    if c = quote then .found [] rest
    else
      match _h : scanPiece c rest with
      | .found piece after => (scanValue quote after).map (piece :: ·)
      | .invalid bad => .invalid bad
      | .incomplete => .incomplete
termination_by s.length
decreasing_by
  have := scanPiece_leaves c rest piece after _h
  simp; omega

theorem scanValue_leaves (quote : Char) (s : List Char) :
    (scanValue quote s).Leaves s.length := by
  fun_induction scanValue quote s with
  | case1 => exact Scan.leaves_incomplete _
  | case2 rest => exact Scan.leaves_found (by simp)
  | case3 c rest _ piece after h ih =>
    have := scanPiece_leaves c rest piece after h
    exact Scan.leaves_map (ih.mono (by simp; omega))
  | case4 => exact Scan.leaves_invalid _ _
  | case5 => exact Scan.leaves_incomplete _

/-- Reads an attribute: name, equals sign and quoted value, with layout around the sign. -/
def scanAttribute (s : List Char) : Scan RawAttribute :=
  (scanName s).andThen fun name afterName =>
    (Scan.expect '=' () (skipSpace afterName)).andThen fun _ afterSign =>
      match skipSpace afterSign with
      | [] => .incomplete
      | quote :: rest =>
        if quote = '"' || quote = '\'' then (scanValue quote rest).map (⟨name, s.length, ·⟩)
        else .invalid (quote :: rest)

/-- An attribute takes at least one character. -/
theorem scanAttribute_leaves (s : List Char) : (scanAttribute s).Leaves (s.length - 1) := by
  unfold scanAttribute
  refine Scan.leaves_andThen fun name afterName h1 => ?_
  refine Scan.leaves_andThen fun _ afterSign h2 => ?_
  have l1 := scanName_leaves _ _ _ h1
  have l2 := Scan.leaves_expect _ _ _ _ _ h2
  have l3 := length_dropWhile_le isSpace afterName
  have l4 := length_dropWhile_le isSpace afterSign
  unfold skipSpace at *
  split
  · exact Scan.leaves_incomplete _
  · next quote rest h3 =>
    rw [h3] at l4
    simp only [List.length_cons] at l4
    split
    · exact Scan.leaves_map ((scanValue_leaves quote rest).mono (by omega))
    · exact Scan.leaves_invalid _ _

/-- Reads what follows the name of a start tag: attributes, each after layout, and the end of the
tag, which says whether the element is closed at once. -/
def scanAttributes (s : List Char) : Scan (List RawAttribute × Bool) :=
  match s with
  | [] => .incomplete
  | c :: rest =>
    if c = '>' then .found ([], false) rest
    else if c = '/' then Scan.expect '>' ([], true) rest
    else if isSpace c then
      match _hs : skipSpace rest with
      | [] => .incomplete
      | d :: after =>
        if d = '>' || d = '/' then scanAttributes (d :: after)
        else
          match _ha : scanAttribute (d :: after) with
          | .found given next =>
            (scanAttributes next).map fun (others, closed) => (given :: others, closed)
          | .invalid bad => .invalid bad
          | .incomplete => .incomplete
    else .invalid (c :: rest)
termination_by s.length
decreasing_by
  · have := length_dropWhile_le isSpace rest
    unfold skipSpace at _hs
    rw [_hs] at this
    simp at this ⊢; omega
  · have := length_dropWhile_le isSpace rest
    have := scanAttribute_leaves _ _ _ _ha
    unfold skipSpace at _hs
    grind

/-- The attributes of a tag and its end leave no more than is behind its name. -/
theorem scanAttributes_leaves (s : List Char) : (scanAttributes s).Leaves s.length := by
  fun_induction scanAttributes s with
  | case1 => exact Scan.leaves_incomplete _
  | case2 => exact Scan.leaves_found (by simp)
  | case3 c rest => exact (Scan.leaves_expect _ _ _).mono (by simp)
  | case4 => exact Scan.leaves_incomplete _
  | case5 c rest _ _ _ d after hs _ ih =>
    have := length_dropWhile_le isSpace rest
    unfold skipSpace at hs
    rw [hs] at this
    exact ih.mono (by simp at this ⊢; omega)
  | case6 c rest _ _ _ d after hs _ given next ha ih =>
    have := length_dropWhile_le isSpace rest
    have := scanAttribute_leaves _ _ _ ha
    unfold skipSpace at hs
    exact Scan.leaves_map (ih.mono (by grind))
  | case7 => exact Scan.leaves_invalid _ _
  | case8 => exact Scan.leaves_incomplete _
  | case9 => exact Scan.leaves_invalid _ _

/-! ## Lexemes -/

/-- A lexeme of content. -/
inductive Lexeme where
  | character (c : Char)
  | reference (target : Reference)
  | startTag (name : String) (attributes : List RawAttribute) (closed : Bool)
  | endTag (name : String)
  | comment (body : List Char)
  | instruction
  | declaration
  /-- The opening of a character section, whose body follows. -/
  | sectionOpen

/-- Reads a fixed word. -/
def scanWord : List Char → List Char → Scan Unit
  | [], s => .found () s
  | _ :: _, [] => .incomplete
  | w :: word, c :: s => if c = w then scanWord word s else .invalid (c :: s)

theorem scanWord_leaves (word s : List Char) : (scanWord word s).Leaves s.length := by
  induction word generalizing s with
  | nil => exact Scan.leaves_found (Nat.le_refl _)
  | cons w word ih =>
    cases s with
    | nil => exact Scan.leaves_incomplete _
    | cons c s => exact Scan.leaves_ite ((ih s).mono (by simp)) (Scan.leaves_invalid _ _)

/-- The number of bytes that a text takes. -/
def byteLength (s : List Char) : Nat :=
  s.foldr (fun c n => c.utf8Size + n) 0

/-- Reads the opening of a character section whose `<![` has been read; fewer than six more bytes
cannot hold it. -/
def scanSectionOpen (s : List Char) : Scan Lexeme :=
  if byteLength s < 6 then .incomplete
  else (scanWord "CDATA[".toList s).map fun _ => .sectionOpen

theorem scanSectionOpen_leaves (s : List Char) : (scanSectionOpen s).Leaves s.length := by
  unfold scanSectionOpen
  split
  · exact Scan.leaves_incomplete _
  · exact Scan.leaves_map (scanWord_leaves _ _)

/-- Reads an end tag whose `</` has been read. -/
def scanEndTag (s : List Char) : Scan Lexeme :=
  (scanName s).andThen fun name rest => Scan.expect '>' (.endTag name) (skipSpace rest)

theorem scanEndTag_leaves (s : List Char) : (scanEndTag s).Leaves s.length := by
  unfold scanEndTag
  refine Scan.leaves_andThen fun name rest h => ?_
  have := scanName_leaves _ _ _ h
  have := length_dropWhile_le isSpace rest
  unfold skipSpace
  exact (Scan.leaves_expect _ _ _).mono (by omega)

/-- Reads a start tag whose `<` has been read. -/
def scanStartTag (s : List Char) : Scan Lexeme :=
  (scanName s).andThen fun name rest =>
    (scanAttributes rest).map fun (attributes, closed) => .startTag name attributes closed

theorem scanStartTag_leaves (s : List Char) : (scanStartTag s).Leaves s.length := by
  unfold scanStartTag
  refine Scan.leaves_andThen fun name rest h => ?_
  have := scanName_leaves _ _ _ h
  exact Scan.leaves_map ((scanAttributes_leaves rest).mono (by omega))

/-- Reads the lexeme that an instruction is. -/
def scanInstructionLexeme (s : List Char) : Scan Lexeme :=
  (scanInstruction s).map fun
    | .declaration _ _ => .declaration
    | .other => .instruction

/-- Reads a lexeme that begins with `<`. -/
def scanMarkup : List Char → Scan Lexeme
  | '!' :: '-' :: rest =>
    (Scan.expect '-' () rest).andThen fun _ after => (scanComment after).map .comment
  | '!' :: '[' :: rest => scanSectionOpen rest
  | ['!'] => .incomplete
  | '!' :: rest => .invalid rest
  | '?' :: rest => scanInstructionLexeme rest
  | '/' :: rest => scanEndTag rest
  | s => scanStartTag s

/-- What an angle bracket begins leaves no more than is behind it. -/
theorem scanMarkup_leaves (s : List Char) : (scanMarkup s).Leaves s.length := by
  unfold scanMarkup
  split
  · next rest =>
    refine Scan.leaves_andThen fun _ after h => ?_
    have := Scan.leaves_expect _ _ _ _ _ h
    exact Scan.leaves_map ((scanComment_leaves after).mono (by simp; omega))
  · exact (scanSectionOpen_leaves _).mono (by simp; omega)
  · exact Scan.leaves_incomplete _
  · exact Scan.leaves_invalid _ _
  · exact Scan.leaves_map ((scanInstruction_leaves _).mono (by simp))
  · exact (scanEndTag_leaves _).mono (by simp)
  · exact scanStartTag_leaves _

/-- Reads the lexeme that begins with the given character. -/
def Lexeme.next (c : Char) (rest : List Char) : Scan Lexeme :=
  if c = '<' then scanMarkup rest
  else if c = '&' then (scanReference rest).map .reference
  else if c = ']' && "]>".toList.isPrefixOf rest then .invalid (rest.drop 1)
  else if isChar c then .found (.character c) rest
  else .invalid (c :: rest)

theorem Lexeme.next_leaves (c : Char) (rest : List Char) : (next c rest).Leaves rest.length := by
  unfold next
  refine Scan.leaves_ite (scanMarkup_leaves rest) ?_
  refine Scan.leaves_ite (Scan.leaves_map (scanReference_leaves rest)) ?_
  refine Scan.leaves_ite (Scan.leaves_invalid _ _) ?_
  exact Scan.leaves_ite (Scan.leaves_found (Nat.le_refl _)) (Scan.leaves_invalid _ _)

/-- Reads the body of a character section up to `]]>`; what is left then is no longer than what was
there. An unclosed section is found where its last brackets, two at most, begin. -/
def scanSection : List Char → Except Failure (List Char × List Char)
  | [] => .error ⟨.unclosedCData, 0⟩
  | [']'] => .error ⟨.unclosedCData, 1⟩
  | [']', ']'] => .error ⟨.unclosedCData, 2⟩
  | ']' :: ']' :: '>' :: rest => .ok ([], rest)
  | c :: rest =>
    if isChar c then
      match scanSection rest with
      | .ok (body, after) => .ok (c :: body, after)
      | .error failure => .error failure
    else .error ⟨.invalidToken, rest.length + 1⟩

/-- What follows a character section is no longer than the text that it is in. -/
theorem scanSection_length {s body rest : List Char} (h : scanSection s = .ok (body, rest)) :
    rest.length ≤ s.length := by
  fun_induction scanSection s generalizing body rest with
  | case1 => simp at h
  | case2 => simp at h
  | case3 => simp at h
  | case4 => simp at h; obtain ⟨_, rfl⟩ := h; simp; omega
  | case5 c tail _ _ _ _ b a hs ih => cases h; have := ih hs; simp; omega
  | case6 => simp at h
  | case7 => simp at h

end DocComment.Markup
