import DocComment.Markup.Scan

/-!
# Tokens outside the root element

What stands before and after the root element is cut into names, literals, marks, comments and
instructions.
-/

namespace DocComment.Markup.Doctype

open DocComment.Markup

/-- A token outside the root element. -/
inductive Token where
  | space
  /-- A quoted text; how much of the document is left after its closing quote is told by the rest.
  -/
  | literal (body : List Char)
  | name (value : String)
  | nameToken
  /-- A name with a mark that says how often it may occur. -/
  | repeatedName
  | hashName (value : String)
  | percent
  | parameterReference
  | openBracket
  | closeBracket
  | sectionOpen
  | sectionClose
  | openParen
  | closeParen
  /-- A closing parenthesis with a mark that says how often the group may occur. -/
  | closeParenRepeated (mark : Char)
  | choice
  | comma
  /-- `<!` and a keyword. -/
  | declarationOpen (keyword : String)
  | declarationClose
  | comment
  | instruction (value : Instruction)
  /-- The `<` of the root element. -/
  | rootStart

/-- Whether a character may follow a closed literal. -/
def endsLiteral (c : Char) : Bool :=
  isSpace c || c = '>' || c = '%' || c = '['

/-- Reads a literal up to its closing quote, which a blank or a mark must follow. -/
def scanLiteral (quote : Char) : List Char → Scan (List Char)
  | [] => .incomplete
  | c :: rest =>
    if c = quote then
      match rest with
      | [] => .found [] []
      | d :: _ => if endsLiteral d then .found [] rest else .invalid rest
    else if isChar c then (scanLiteral quote rest).map (c :: ·)
    else .invalid (c :: rest)

theorem scanLiteral_leaves (quote : Char) (s : List Char) :
    (scanLiteral quote s).Leaves s.length := by
  fun_induction scanLiteral quote s with
  | case1 => exact Scan.leaves_incomplete _
  | case2 => exact Scan.leaves_found (by simp)
  | case3 => exact Scan.leaves_found (by simp)
  | case4 => exact Scan.leaves_invalid _ _
  | case5 c rest _ _ ih => exact Scan.leaves_map (ih.mono (by simp))
  | case6 => exact Scan.leaves_invalid _ _

/-- Whether a character ends a name outside the root element. -/
def endsName (c : Char) : Bool :=
  isSpace c || c = '>' || c = ')' || c = ',' || c = '|' || c = '[' || c = '%'

/-- Whether a character says how often something may occur. -/
def isMark (c : Char) : Bool :=
  c = '*' || c = '?' || c = '+'

/-- Reads a name, or a token that continues a name without beginning one. -/
def scanNames (c : Char) (rest : List Char) : Scan Token :=
  if !isNameChar c then .invalid (c :: rest)
  else
    let token := if isNameStart c then .name (String.ofList (c :: rest.takeWhile isNameChar))
      else .nameToken
    match rest.dropWhile isNameChar with
    | [] => .found token []
    | d :: after =>
      if endsName d then .found token (d :: after)
      else if isMark d && isNameStart c then .found .repeatedName after
      else .invalid (d :: after)

/-- A token that begins with a name character takes that character. -/
theorem scanNames_leaves (c : Char) (rest : List Char) : (scanNames c rest).Leaves rest.length := by
  unfold scanNames
  have h := length_dropWhile_le isNameChar rest
  split
  · exact Scan.leaves_invalid _ _
  · dsimp only
    generalize rest.dropWhile isNameChar = tail at h
    cases tail with
    | nil => exact Scan.leaves_found (by simp)
    | cons d after =>
      dsimp only
      split
      · exact Scan.leaves_found h
      · split
        · exact Scan.leaves_found (by simp at h; omega)
        · exact Scan.leaves_invalid _ _

/-- Reads what a number sign begins. -/
def scanHashName (s : List Char) : Scan Token :=
  (scanName s).andThen fun name rest =>
    match rest with
    | [] => .found (.hashName name) []
    | c :: _ =>
      if isSpace c || c = ')' || c = '>' || c = '%' || c = '|' then .found (.hashName name) rest
      else .invalid rest

theorem scanHashName_leaves (s : List Char) : (scanHashName s).Leaves s.length := by
  unfold scanHashName
  refine Scan.leaves_andThen fun name rest h => ?_
  have := scanName_leaves _ _ _ h
  cases rest with
  | nil => exact Scan.leaves_found (by simp)
  | cons c after =>
    dsimp only
    split
    · exact Scan.leaves_found (by omega)
    · exact Scan.leaves_invalid _ _

/-- Reads what a percent sign begins: a reference to a parameter entity, or the sign alone. -/
def scanPercent (s : List Char) : Scan Token :=
  match s with
  | [] => .incomplete
  | c :: _ =>
    if isSpace c || c = '%' then .found .percent s
    else (scanName s).andThen fun _ rest => Scan.expect ';' .parameterReference rest

theorem scanPercent_leaves (s : List Char) : (scanPercent s).Leaves s.length := by
  cases s with
  | nil => exact Scan.leaves_incomplete _
  | cons c rest =>
    rw [scanPercent]
    split
    · exact Scan.leaves_found (Nat.le_refl _)
    · refine Scan.leaves_andThen fun name after h => ?_
      have := scanName_leaves _ _ _ h
      exact (Scan.leaves_expect _ _ _).mono (by omega)

/-- Whether a character may stand in the keyword of a declaration. -/
def isKeywordChar (c : Char) : Bool :=
  c.isAlpha || c = '_' || c = ':'

/-- Reads what `<!` begins. -/
def scanDeclaration (s : List Char) : Scan Token :=
  match s with
  | [] => .incomplete
  | '-' :: rest =>
    (Scan.expect '-' () rest).andThen fun _ after => (scanComment after).map fun _ => .comment
  | '[' :: rest => .found .sectionOpen rest
  | c :: rest =>
    if !isKeywordChar c then .invalid s
    else
      let token := Token.declarationOpen (String.ofList (c :: rest.takeWhile isKeywordChar))
      match rest.dropWhile isKeywordChar with
      | [] => .incomplete
      | ['%'] => .incomplete
      | '%' :: d :: after =>
        if isSpace d || d = '%' then .invalid ('%' :: d :: after)
        else .found token ('%' :: d :: after)
      | d :: after => if isSpace d then .found token (d :: after) else .invalid (d :: after)

/-- What `<!` begins leaves no more than is behind it. -/
theorem scanDeclaration_leaves (s : List Char) : (scanDeclaration s).Leaves s.length := by
  unfold scanDeclaration
  split
  · exact Scan.leaves_incomplete _
  · refine Scan.leaves_andThen fun _ after h => ?_
    have := Scan.leaves_expect _ _ _ _ _ h
    exact Scan.leaves_map ((scanComment_leaves after).mono (by simp; omega))
  · exact Scan.leaves_found (by simp)
  · next c rest _ _ =>
    split
    · exact Scan.leaves_invalid _ _
    · have h := length_dropWhile_le isKeywordChar rest
      dsimp only
      split
      · exact Scan.leaves_incomplete _
      · exact Scan.leaves_incomplete _
      · next d after hd =>
        rw [hd] at h
        split
        · exact Scan.leaves_invalid _ _
        · exact Scan.leaves_found (by simp at h ⊢; omega)
      · next d after _ hd =>
        rw [hd] at h
        split
        · exact Scan.leaves_found (by simp at h ⊢; omega)
        · exact Scan.leaves_invalid _ _

/-- Reads what a closing bracket begins. -/
def scanCloseBracket : List Char → Scan Token
  | [']'] => .incomplete
  | ']' :: '>' :: rest => .found .sectionClose rest
  | s => .found .closeBracket s

theorem scanCloseBracket_leaves (s : List Char) : (scanCloseBracket s).Leaves s.length := by
  unfold scanCloseBracket
  split
  · exact Scan.leaves_incomplete _
  · exact Scan.leaves_found (by simp; omega)
  · exact Scan.leaves_found (Nat.le_refl _)

/-- Reads what a closing parenthesis begins. -/
def scanCloseParen : List Char → Scan Token
  | [] => .found .closeParen []
  | c :: rest =>
    if isMark c then .found (.closeParenRepeated c) rest
    else if isSpace c || c = '>' || c = ',' || c = '|' || c = ')' then
      .found .closeParen (c :: rest)
    else .invalid (c :: rest)

theorem scanCloseParen_leaves (s : List Char) : (scanCloseParen s).Leaves s.length := by
  cases s with
  | nil => exact Scan.leaves_found (by simp)
  | cons c rest =>
    rw [scanCloseParen]
    split
    · exact Scan.leaves_found (by simp)
    · split
      · exact Scan.leaves_found (Nat.le_refl _)
      · exact Scan.leaves_invalid _ _

/-- Reads what `<` begins outside the root element. -/
def scanOpen (s : List Char) : Scan Token :=
  match s with
  | [] => .incomplete
  | '!' :: rest => scanDeclaration rest
  | '?' :: rest => (scanInstruction rest).map .instruction
  | c :: _ => if isKeywordChar c || c.toNat ≥ 0x80 then .found .rootStart s else .invalid s

theorem scanOpen_leaves (s : List Char) : (scanOpen s).Leaves s.length := by
  unfold scanOpen
  split
  · exact Scan.leaves_incomplete _
  · exact (scanDeclaration_leaves _).mono (by simp)
  · exact Scan.leaves_map ((scanInstruction_leaves _).mono (by simp))
  · split
    · exact Scan.leaves_found (Nat.le_refl _)
    · exact Scan.leaves_invalid _ _

/-- Reads the token that begins with the given character. -/
def Token.next (c : Char) (rest : List Char) : Scan Token :=
  if isSpace c then .found .space (skipSpace rest)
  else if c = '<' then scanOpen rest
  else if c = '"' || c = '\'' then (scanLiteral c rest).map .literal
  else if c = '%' then scanPercent rest
  else if c = ',' then .found .comma rest
  else if c = '[' then .found .openBracket rest
  else if c = ']' then scanCloseBracket rest
  else if c = '(' then .found .openParen rest
  else if c = ')' then scanCloseParen rest
  else if c = '|' then .found .choice rest
  else if c = '>' then .found .declarationClose rest
  else if c = '#' then scanHashName rest
  else scanNames c rest

/-- Every token takes its first character, so a document type is read in finitely many steps. -/
theorem Token.next_leaves (c : Char) (rest : List Char) : (next c rest).Leaves rest.length := by
  unfold next
  have self (token : Token) : (Scan.found token rest).Leaves rest.length :=
    Scan.leaves_found (Nat.le_refl _)
  refine Scan.leaves_ite (Scan.leaves_found (length_dropWhile_le _ _)) ?_
  refine Scan.leaves_ite (scanOpen_leaves rest) ?_
  refine Scan.leaves_ite (Scan.leaves_map (scanLiteral_leaves _ _)) ?_
  refine Scan.leaves_ite (scanPercent_leaves rest) ?_
  refine Scan.leaves_ite (self _) ?_
  refine Scan.leaves_ite (self _) ?_
  refine Scan.leaves_ite (scanCloseBracket_leaves rest) ?_
  refine Scan.leaves_ite (self _) ?_
  refine Scan.leaves_ite (scanCloseParen_leaves rest) ?_
  refine Scan.leaves_ite (self _) ?_
  refine Scan.leaves_ite (self _) ?_
  exact Scan.leaves_ite (scanHashName_leaves rest) (scanNames_leaves c rest)

end DocComment.Markup.Doctype
