import DocComment.Proofs.Markup.RootTag
import DocComment.Proofs.Text.Squeeze

/-!
# Documents that are a `member` element

A document whose root is a `member` element should be read as it stands. The decision to wrap looks
for the `member` tag behind white space, a declaration and comments; a byte order mark, another
instruction or a document type in front of the tag is not looked behind.

* `isRooted_congr`: the decision does not depend on how much white space stands where;
* `isRooted_of_isPlainProlog`: it is right when layout, comments and a declaration are all that
  stands before the tag.
-/

namespace DocComment.Markup

open DocComment.Text

/-! ## The amount of white space -/

lemma isPrefixOf_squeeze {w : List Char} (hw : ∀ c ∈ w, isBlank c = false) (s : List Char) :
    w.isPrefixOf (squeeze s) = w.isPrefixOf s := by
  rw [Bool.eq_iff_iff, List.isPrefixOf_iff_prefix, List.isPrefixOf_iff_prefix, prefix_squeeze hw]

/-- A `member` tag starts in the same places whatever the white space is. -/
lemma startsMember_squeeze (s : List Char) : startsMember (squeeze s) = startsMember s := by
  have htag : ∀ c ∈ "<member".toList, isBlank c = false := eq_false_of_any (by decide)
  rw [Bool.eq_iff_iff, startsMember_iff, startsMember_iff]
  constructor
  · rintro ⟨c, rest, hs, hc⟩
    obtain ⟨t, rfl⟩ := (prefix_squeeze htag).mp ⟨_, hs.symm⟩
    rw [squeeze_append_of_visible htag, List.append_cancel_left_eq] at hs
    cases t with
    | nil => cases hs
    | cons d t =>
      refine ⟨d, t, rfl, ?_⟩
      cases hd : isBlank d with
      | true => exact Or.inl rfl
      | false =>
        rw [squeeze_of_visible hd] at hs
        obtain ⟨rfl, -⟩ := List.cons.inj hs
        rwa [hd] at hc
  · rintro ⟨c, rest, rfl, hc⟩
    rw [squeeze_append_of_visible htag]
    cases hblank : isBlank c with
    | true => exact ⟨' ', _, by rw [squeeze_of_blank hblank], Or.inl (by decide)⟩
    | false => exact ⟨c, _, by rw [squeeze_of_visible hblank], hc⟩

/-- The end of a comment before a `member` tag cuts the text in two. -/
lemma memberAfterComment_iff {s : List Char} :
    memberAfterComment s = true ↔
      ∃ x y, s = x ++ '-' :: '-' :: '>' :: y ∧ startsMember (y.dropWhile isBlank) = true := by
  constructor
  · intro h
    induction s with
    | nil => cases h
    | cons c s ih =>
      rw [memberAfterComment, Bool.or_eq_true, Bool.and_eq_true] at h
      rcases h with ⟨hend, hstarts⟩ | h
      · obtain ⟨y, hy⟩ := List.isPrefixOf_iff_prefix.mp hend
        obtain ⟨rfl, rfl⟩ := List.cons.inj hy
        exact ⟨[], y, rfl, hstarts⟩
      · obtain ⟨x, y, rfl, hstarts⟩ := ih h
        exact ⟨c :: x, y, rfl, hstarts⟩
  · rintro ⟨x, y, rfl, hstarts⟩
    induction x with
    | nil =>
      rw [List.nil_append, memberAfterComment, Bool.or_eq_true, Bool.and_eq_true]
      exact Or.inl ⟨rfl, hstarts⟩
    | cons c x ih => rw [List.cons_append, memberAfterComment, ih, Bool.or_true]

lemma memberAfterComment_append (x : List Char) {s : List Char}
    (h : memberAfterComment s = true) : memberAfterComment (x ++ s) = true := by
  obtain ⟨y, z, rfl, hstarts⟩ := memberAfterComment_iff.mp h
  exact memberAfterComment_iff.mpr ⟨x ++ y, z, by rw [List.append_assoc], hstarts⟩

/-- Comments end before `member` tags in the same places whatever the white space is. -/
lemma memberAfterComment_squeeze (s : List Char) :
    memberAfterComment (squeeze s) = memberAfterComment s := by
  have hclose : ∀ c ∈ "->".toList, isBlank c = false := eq_false_of_any (by decide)
  rw [Bool.eq_iff_iff, memberAfterComment_iff, memberAfterComment_iff]
  constructor
  · rintro ⟨x, y, hs, hstarts⟩
    obtain ⟨x', y', rfl, -, hy⟩ := exists_cut_of_squeeze (by decide) hs
    obtain ⟨z, rfl⟩ := (prefix_squeeze hclose).mp ⟨y, hy.symm⟩
    rw [squeeze_append_of_visible hclose] at hy
    obtain rfl : squeeze z = y := List.append_cancel_left hy
    refine ⟨x', z, rfl, ?_⟩
    rwa [dropWhile_squeeze, startsMember_squeeze] at hstarts
  · rintro ⟨x, y, rfl, hstarts⟩
    refine ⟨squeeze x, squeeze y, ?_, ?_⟩
    · rw [squeeze_append_cons (by decide), squeeze_of_visible (by decide),
        squeeze_of_visible (by decide)]
    · rwa [dropWhile_squeeze, startsMember_squeeze]

/-- A declaration is split off in the same places whatever the white space is. -/
lemma splitDeclaration?_squeeze (s : List Char) :
    splitDeclaration? (squeeze s) = (splitDeclaration? s).map (Prod.map squeeze squeeze) := by
  have hopen : ∀ c ∈ "<?xml".toList, isBlank c = false := eq_false_of_any (by decide)
  cases h : splitDeclaration? s with
  | some parts =>
    obtain ⟨declaration, rest⟩ := parts
    obtain ⟨x, hx, rfl, rfl⟩ := splitDeclaration?_eq_some h
    have hx' : '>' ∉ squeeze x := fun hmem => hx ((mem_squeeze (by decide)).mp hmem)
    have hsqueeze : ∀ t, squeeze ("<?xml".toList ++ (x ++ ['?', '>']) ++ t)
        = "<?xml".toList ++ (squeeze x ++ ['?', '>']) ++ squeeze t := by
      intro t
      rw [List.append_assoc, squeeze_append_of_visible hopen, List.append_assoc, List.cons_append,
        squeeze_append_cons (by decide), List.cons_append, squeeze_of_visible (by decide)]
      simp
    have hdeclaration := hsqueeze []
    rw [List.append_nil, squeeze, List.append_nil] at hdeclaration
    rw [hsqueeze, splitDeclaration?_append hx', Option.map_some, Prod.map, hdeclaration]
  | none =>
    rw [Option.map_none, Option.eq_none_iff_forall_ne_some]
    rintro ⟨declaration, rest⟩ hsome
    obtain ⟨x, hx, rfl, hs⟩ := splitDeclaration?_eq_some hsome
    rw [List.append_assoc, List.append_assoc] at hs
    -- the brackets and the question mark stand in the text too
    obtain ⟨t, rfl⟩ := (prefix_squeeze hopen).mp ⟨_, hs.symm⟩
    rw [squeeze_append_of_visible hopen, List.append_cancel_left_eq] at hs
    obtain ⟨x', y, rfl, rfl, hy⟩ := exists_cut_of_squeeze (by decide) hs
    obtain ⟨z, rest', rfl, hz, -⟩ := exists_cut_of_squeeze (x := []) (by decide) hy
    obtain rfl := squeeze_eq_nil_iff.mp hz
    have hx' : '>' ∉ x' := fun hmem => hx ((mem_squeeze (by decide)).mpr hmem)
    have hsplit := splitDeclaration?_append hx' rest'
    rw [List.append_assoc, List.append_assoc] at hsplit
    cases h.symm.trans hsplit

lemma afterHeading_squeeze (s : List Char) : afterHeading (squeeze s) = squeeze (afterHeading s) := by
  rw [afterHeading, dropWhile_squeeze, splitDeclaration?_squeeze, afterHeading]
  cases splitDeclaration? (s.dropWhile isBlank) with
  | none => rfl
  | some parts => exact dropWhile_squeeze parts.2

/-- Whether a text is wrapped does not depend on how much white space stands where. -/
lemma isRooted_congr {s t : List Char} (h : squeeze s = squeeze t) : isRooted s = isRooted t := by
  have hopen : ∀ c ∈ "<!--".toList, isBlank c = false := eq_false_of_any (by decide)
  have hsqueeze : ∀ s, isRooted (squeeze s) = isRooted s := by
    intro s
    rw [isRooted_eq, isRooted_eq, afterHeading_squeeze, startsMember_squeeze,
      isPrefixOf_squeeze hopen]
    congr 1
    cases hstart : "<!--".toList.isPrefixOf (afterHeading s) with
    | false => rfl
    | true =>
      obtain ⟨t, ht⟩ := List.isPrefixOf_iff_prefix.mp hstart
      rw [← ht, squeeze_append_of_visible hopen]
      exact memberAfterComment_squeeze t
  rw [← hsqueeze s, h, hsqueeze t]

/-! ## Plain prologs -/

namespace Doctype

/-- Whether only layout, comments and declarations stand before the root element. -/
def isPlainProlog (s : List Char) : Bool :=
  match s with
  | [] => false
  | c :: rest =>
    if isSpace c then isPlainProlog (skipSpace rest)
    else if c = '<' then
      match _h : scanOpen rest with
      | .found .rootStart _ => true
      | .found .comment after => isPlainProlog after
      | .found (.instruction (.declaration _ _)) after => isPlainProlog after
      | _ => false
    else false
termination_by s.length
decreasing_by
  · have := length_dropWhile_le isSpace rest
    simp [skipSpace]; omega
  · have := scanOpen_leaves rest _ _ _h
    simp; omega
  · have := scanOpen_leaves rest _ _ _h
    simp; omega

variable {rest after : List Char}

/-- What `<!` begins is a comment, written as one, or the opening of something else. -/
lemma scanDeclaration_eq_found {token : Token} (h : scanDeclaration rest = .found token after) :
    (token = .comment ∧ ∃ r body, rest = '-' :: '-' :: r ∧ scanComment r = .found body after) ∨
      token = .sectionOpen ∨ ∃ keyword, token = .declarationOpen keyword := by
  rw [scanDeclaration.eq_def] at h
  split at h
  · cases h
  · obtain ⟨_, r, hexpect, h⟩ := Scan.andThen_eq_found.mp h
    obtain ⟨rfl, -⟩ := Scan.expect_eq_found.mp hexpect
    obtain ⟨body, hbody, htoken⟩ := Scan.map_eq_found.mp h
    exact Or.inl ⟨htoken.symm, r, body, rfl, hbody⟩
  · cases h
    exact Or.inr (Or.inl rfl)
  · refine Or.inr (Or.inr ?_)
    split at h
    · cases h
    · dsimp only at h
      split at h
      · cases h
      · cases h
      · split at h
        · cases h
        · exact ⟨_, (Scan.found.inj h).1.symm⟩
      · split at h
        · exact ⟨_, (Scan.found.inj h).1.symm⟩
        · cases h

/-- What is read as a comment is written as one. -/
lemma scanOpen_comment (h : scanOpen rest = .found .comment after) :
    ∃ r body, rest = '!' :: '-' :: '-' :: r ∧ scanComment r = .found body after := by
  rw [scanOpen.eq_def] at h
  split at h
  · cases h
  · rcases scanDeclaration_eq_found h with ⟨-, r, body, rfl, hbody⟩ | hsection | ⟨_, hkeyword⟩
    · exact ⟨r, body, rfl, hbody⟩
    · cases hsection
    · cases hkeyword
  · obtain ⟨_, -, h⟩ := Scan.map_eq_found.mp h
    cases h
  · split at h <;> cases h

/-- The rest of an instruction ends with the mark that ends it. -/
lemma scanInstructionBody_eq_found {s body : List Char}
    (h : scanInstructionBody s = .found body after) : s = body ++ '?' :: '>' :: after := by
  fun_induction scanInstructionBody s generalizing body with
  | case1 => cases h
  | case2 r =>
    cases h
    rfl
  | case3 c r _ _ ih =>
    obtain ⟨others, hothers, rfl⟩ := Scan.map_eq_found.mp h
    rw [ih hothers]
    rfl
  | case4 => cases h

/-- A declaration is written with the target `xml`, its body and the end of instructions. -/
lemma scanInstruction_declaration {s body : List Char} {remaining : Nat}
    (h : scanInstruction s = .found (.declaration body remaining) after) :
    s = "xml".toList ++ (body ++ '?' :: '>' :: after) := by
  obtain ⟨target, r, hname, hrest⟩ := Scan.andThen_eq_found.mp h
  obtain rfl := scanName_eq_found hname
  cases r with
  | nil => cases hrest
  | cons c r =>
    dsimp only at hrest
    by_cases htarget : target = "xml"
    · simp only [htarget, if_true] at hrest ⊢
      split_ifs at hrest with _ hspace hmark
      · obtain ⟨others, hothers, heq⟩ := Scan.map_eq_found.mp hrest
        cases heq
        rw [scanInstructionBody_eq_found hothers]
        rfl
      · obtain ⟨rfl, heq⟩ := Scan.expect_eq_found.mp hrest
        cases heq
        rw [hmark]
        rfl
    · simp only [htarget, if_false] at hrest
      split_ifs at hrest
      · obtain ⟨_, -, heq⟩ := Scan.map_eq_found.mp hrest
        cases heq
      · cases (Scan.expect_eq_found.mp hrest).2

/-- What is read as a declaration is written as one. -/
lemma scanOpen_declaration {body : List Char} {remaining : Nat}
    (h : scanOpen rest = .found (.instruction (.declaration body remaining)) after) :
    '<' :: rest = "<?xml".toList ++ (body ++ ['?', '>']) ++ after := by
  rw [scanOpen.eq_def] at h
  split at h
  · cases h
  · rcases scanDeclaration_eq_found h with ⟨hcomment, -⟩ | hsection | ⟨_, hkeyword⟩
    · cases hcomment
    · cases hsection
    · cases hkeyword
  · obtain ⟨_, hscan, heq⟩ := Scan.map_eq_found.mp h
    cases heq
    rw [scanInstruction_declaration hscan]
    simp
  · split at h <;> cases h

end Doctype

/-! ## Declarations hold no bracket -/

lemma exists_dropWhile {p : Char → Bool} (hp : p '>' = false) (s : List Char) :
    ∃ x, s = x ++ s.dropWhile p ∧ '>' ∉ x := by
  refine ⟨s.takeWhile p, List.takeWhile_append_dropWhile.symm, fun hmem => ?_⟩
  have hall := List.all_eq_true.mp (List.all_takeWhile (p := p) (l := s)) _ hmem
  rw [hp] at hall
  cases hall

namespace Declaration

/-- Up to the end of an item only its name can hold a bracket. -/
lemma next_eq_some {s : List Char} {item : Item} (h : next s = .ok (some item)) :
    ∃ x, s = x ++ item.rest ∧ ('>' ∈ x → '>' ∈ item.name) := by
  rw [next.eq_def] at h
  split at h
  · cases h
  rename_i c r
  dsimp only at h
  split at h
  · cases h
  split at h
  · cases h
  split at h
  · cases h
  rename_i d t hafterName
  split at h
  · cases h
  split at h
  swap
  · cases h
  rename_i afterSign hsign
  split at h
  · cases h
  split at h
  swap
  · cases h
  rename_i quote atValue hquote
  split at h
  swap
  · cases h
  rename_i hquoted
  split at h
  swap
  · cases h
  rename_i e rest hend
  split at h
  swap
  · cases h
  rename_i he
  cases h
  -- layout, the name, layout, the sign, layout, a quote, the value and the same quote
  obtain ⟨x₁, h₁, hx₁⟩ := exists_dropWhile (p := isSpace) (by decide) (c :: r)
  obtain ⟨x₂, h₂, hx₂⟩ := exists_dropWhile (p := isSpace) (by decide) (d :: t)
  obtain ⟨x₃, h₃, hx₃⟩ := exists_dropWhile (p := isSpace) (by decide) afterSign
  obtain ⟨x₄, h₄, hx₄⟩ := exists_dropWhile (p := isValueChar) (by decide) atValue
  have hname := List.takeWhile_append_dropWhile (p := isItemNameChar) (l := skipSpace (c :: r))
  have hquoteNe : '>' ≠ quote := by
    rintro rfl
    simp at hquoted
  refine ⟨x₁ ++ (skipSpace (c :: r)).takeWhile isItemNameChar ++ x₂ ++ '=' :: x₃ ++
    quote :: x₄ ++ [e], ?_, ?_⟩
  · rw [hafterName, skipSpace] at hsign
    rw [skipSpace] at hquote
    rw [hafterName, h₂, hsign, h₃, hquote, h₄, hend] at hname
    calc c :: r = x₁ ++ skipSpace (c :: r) := h₁
      _ = _ := by
        conv_lhs => rw [← hname]
        simp
  · subst he
    intro hmem
    simpa [hx₁, hx₂, hx₃, hx₄, hquoteNe] using hmem

/-- Where no item is left there is only layout. -/
lemma next_eq_none {s : List Char} (h : next s = .ok none) : '>' ∉ s := by
  rw [next.eq_def] at h
  split at h
  · simp
  rename_i c r
  dsimp only at h
  split at h
  · cases h
  split at h
  · rename_i hempty
    obtain ⟨x, hx, hbracket⟩ := exists_dropWhile (p := isSpace) (by decide) (c :: r)
    rw [show (c :: r).dropWhile isSpace = [] from List.isEmpty_iff.mp hempty,
      List.append_nil] at hx
    rwa [hx]
  repeat' split at h
  all_goals cases h

/-- A declaration that can be read holds no bracket. -/
lemma notMem_of_read {body : List Char} {answer : Bool} (h : read body = .ok answer) :
    '>' ∉ body := by
  -- an item with one of the known names holds no bracket, so none can come before its end
  have hitem : ∀ {s : List Char} {item : Item}, next s = .ok (some item) → '>' ∉ item.name →
      '>' ∉ item.rest → '>' ∉ s := by
    intro s item hnext hname hrest
    obtain ⟨x, rfl, hx⟩ := next_eq_some hnext
    exact fun hmem => (List.mem_append.mp hmem).elim (fun hmem => hname (hx hmem)) hrest
  have hlast : ∀ {item : Item}, standalone item = .ok answer → '>' ∉ item.name ∧ '>' ∉ item.rest := by
    intro item hstandalone
    rw [standalone] at hstandalone
    split_ifs at hstandalone with hname hvalue hrest
    obtain ⟨x, hx, hbracket⟩ := exists_dropWhile (p := isSpace) (by decide) item.rest
    have hempty : skipSpace item.rest = [] := by simpa using hrest
    rw [skipSpace] at hempty
    rw [hempty, List.append_nil] at hx
    rw [not_not.mp hname, hx]
    exact ⟨by decide, hbracket⟩
  rw [read] at h
  obtain ⟨found, hversion, h⟩ := bind_eq_ok.mp h
  cases found with
  | none => cases h
  | some version =>
    dsimp only at h
    split_ifs at h with hname
    refine hitem hversion (by rw [not_not.mp hname]; decide) ?_
    obtain ⟨found, hsecond, h⟩ := bind_eq_ok.mp h
    cases found with
    | none => exact next_eq_none hsecond
    | some item =>
      dsimp only at h
      split_ifs at h with hencoding halpha
      · refine hitem hsecond (by rw [hencoding]; decide) ?_
        obtain ⟨found, hthird, h⟩ := bind_eq_ok.mp h
        cases found with
        | none => exact next_eq_none hthird
        | some last => exact hitem hthird (hlast h).1 (hlast h).2
      · exact hitem hsecond (hlast h).1 (hlast h).2

end Declaration

/-! ## Where the decision is right -/

section

variable {doc : Doctype} {state : Doctype.Expect} {result : Doctype × List Char}

/-- A token before the root element is a step of the grammar. -/
lemma readProlog_step {c : Char} {rest after : List Char} {token : Doctype.Token}
    (hnext : Doctype.Token.next c rest = .found token after) (htoken : token ≠ .rootStart)
    (h : Doctype.readProlog doc state (c :: rest) = .ok result) :
    ∃ state' doc', Doctype.step doc state token (rest.length + 1) after.length
      = .ok (state', doc') ∧ Doctype.readProlog doc' state' after = .ok result := by
  rw [Doctype.readProlog] at h
  grind

/-- A declaration is accepted when it can be read, wherever it stands. -/
lemma step_declaration_iff {next : Doctype.Expect × Doctype} {body : List Char}
    {remaining here after : Nat} :
    Doctype.step doc .start (.instruction (.declaration body remaining)) here after = .ok next
      ↔ ∃ standalone, Declaration.read body = .ok standalone ∧
          next = (.heading, { doc with standalone }) := by
  unfold Doctype.step
  dsimp only
  cases Declaration.read body with
  | ok standalone => simp [eq_comm]
  | error bad => simp

/-- A declaration that is accepted holds no bracket. -/
lemma step_declaration {state' : Doctype.Expect} {doc' : Doctype} {body : List Char}
    {remaining here after : Nat}
    (h : Doctype.step doc .start (.instruction (.declaration body remaining)) here after
      = .ok (state', doc')) :
    state' = .heading ∧ '>' ∉ body := by
  obtain ⟨standalone, hread, hnext⟩ := step_declaration_iff.mp h
  obtain ⟨rfl, -⟩ := Prod.mk.inj hnext
  exact ⟨rfl, Declaration.notMem_of_read hread⟩

lemma next_of_isSpace {c : Char} (hc : isSpace c = true) (rest : List Char) :
    Doctype.Token.next c rest = .found .space (skipSpace rest) := by
  rw [Doctype.Token.next, if_pos hc]

lemma next_open (rest : List Char) : Doctype.Token.next '<' rest = Doctype.scanOpen rest :=
  rfl

/-- The root element is what is left of a prolog. -/
lemma readProlog_eq_rootStart {rest after : List Char}
    (hopen : Doctype.scanOpen rest = .found .rootStart after)
    (h : Doctype.readProlog doc state ('<' :: rest) = .ok result) : result.2 = '<' :: rest := by
  rw [Doctype.readProlog] at h
  grind [next_open]

/-- Whether a text opens with a `member` tag, or with a comment and somewhere the end of a comment
before such a tag. -/
def OpensMember (s : List Char) : Prop :=
  startsMember (s.dropWhile isBlank) = true ∨
    ∃ t, s.dropWhile isBlank = "<!--".toList ++ t ∧ memberAfterComment t = true

lemma OpensMember.space {c : Char} (hc : isSpace c = true) {rest : List Char}
    (h : OpensMember (skipSpace rest)) : OpensMember (c :: rest) := by
  rw [OpensMember, dropWhile_skipSpace] at h
  rw [OpensMember, List.dropWhile_cons_of_pos (isBlank_of_isSpace hc)]
  exact h

/-- A comment may stand before what opens with a member. -/
lemma OpensMember.comment {rest after : List Char}
    (hopen : Doctype.scanOpen rest = .found .comment after) (h : OpensMember after) :
    OpensMember ('<' :: rest) := by
  obtain ⟨r, body, rfl, hbody⟩ := Doctype.scanOpen_comment hopen
  obtain ⟨rfl, -⟩ := scanComment_eq_found hbody
  rw [OpensMember, List.dropWhile_cons_of_neg (by decide)]
  refine Or.inr ⟨body ++ '-' :: '-' :: '>' :: after, rfl, ?_⟩
  rcases h with hstarts | ⟨t, ht, hmore⟩
  · exact memberAfterComment_iff.mpr ⟨body, after, rfl, hstarts⟩
  · -- another comment follows, and the one before the tag comes after its opening
    have hcut := List.takeWhile_append_dropWhile (p := isBlank) (l := after)
    rw [ht] at hcut
    rw [← hcut]
    have hlater := memberAfterComment_append
      (body ++ '-' :: '-' :: '>' :: (after.takeWhile isBlank ++ "<!--".toList)) hmore
    simpa using hlater

lemma opensMember_of_rootStart {rest after : List Char}
    (hopen : Doctype.scanOpen rest = .found .rootStart after)
    (h : Doctype.readProlog doc state ('<' :: rest) = .ok result)
    (hmember : startsMember result.2 = true) : OpensMember ('<' :: rest) := by
  rw [OpensMember, List.dropWhile_cons_of_neg (by decide), ← readProlog_eq_rootStart hopen h]
  exact Or.inl hmember

/-- Behind its declaration a plain prolog opens with the `member` tag or with a comment. -/
lemma opensMember_of_isPlainProlog {s : List Char} (hplain : Doctype.isPlainProlog s = true)
    (h : Doctype.readProlog doc .heading s = .ok result)
    (hmember : startsMember result.2 = true) : OpensMember s := by
  fun_induction Doctype.isPlainProlog s with
  | case1 => cases hplain
  | case2 c rest hspace ih =>
    obtain ⟨state', doc', hstep, hafter⟩ := readProlog_step (next_of_isSpace hspace rest) (by simp) h
    obtain ⟨rfl, rfl⟩ := Prod.mk.inj (Except.ok.inj hstep)
    exact OpensMember.space hspace (ih hplain hafter)
  | case3 rest after hopen _ => exact opensMember_of_rootStart hopen h hmember
  | case4 rest after hopen _ ih =>
    obtain ⟨state', doc', hstep, hafter⟩ :=
      readProlog_step ((next_open rest).trans hopen) (by simp) h
    obtain ⟨rfl, rfl⟩ := Prod.mk.inj (Except.ok.inj hstep)
    exact OpensMember.comment hopen (ih hplain hafter)
  | case5 rest body remaining after hopen _ ih =>
    -- a declaration may stand only at the start
    obtain ⟨state', doc', hstep, -⟩ :=
      readProlog_step ((next_open rest).trans hopen) (by simp) h
    cases hstep
  | case6 => cases hplain
  | case7 => cases hplain

/-- A text is not wrapped if a `member` tag or comments before one follow its heading. -/
lemma isRooted_iff {s : List Char} :
    isRooted s = true ↔ startsMember (afterHeading s) = true ∨
      ∃ t, afterHeading s = "<!--".toList ++ t ∧ memberAfterComment t = true := by
  rw [isRooted_eq, Bool.or_eq_true, Bool.and_eq_true]
  refine or_congr_right ⟨?_, ?_⟩
  · rintro ⟨hopen, hmember⟩
    obtain ⟨t, ht⟩ := List.isPrefixOf_iff_prefix.mp hopen
    rw [← ht] at hmember
    exact ⟨t, ht.symm, hmember⟩
  · rintro ⟨t, ht, hmember⟩
    rw [ht]
    exact ⟨rfl, hmember⟩

/-- A text that opens so has no declaration and is not wrapped. -/
lemma OpensMember.isRooted {s : List Char} (h : OpensMember s) : isRooted s = true := by
  have hnone : splitDeclaration? (s.dropWhile isBlank) = none := by
    rcases h with hstarts | ⟨t, ht, -⟩
    · obtain ⟨c, rest, hs, -⟩ := startsMember_iff.mp hstarts
      rw [hs]
      rfl
    · rw [ht]
      rfl
  rw [isRooted_iff, afterHeading, hnone]
  exact h

/-- A declaration in front of a text that opens so is looked behind. -/
lemma OpensMember.isRooted_declaration {body after : List Char} (hbody : '>' ∉ body)
    (h : OpensMember after) :
    Markup.isRooted ("<?xml".toList ++ (body ++ ['?', '>']) ++ after) = true := by
  have hblank : ("<?xml".toList ++ (body ++ ['?', '>']) ++ after).dropWhile isBlank
      = "<?xml".toList ++ (body ++ ['?', '>']) ++ after := rfl
  rw [isRooted_iff, afterHeading, hblank, splitDeclaration?_append hbody]
  exact h

/-- The decision is right when the prolog is plain. -/
lemma isRooted_of_isPlainProlog {s : List Char} (hplain : Doctype.isPlainProlog s = true)
    (h : Doctype.readProlog doc .start s = .ok result) (hmember : startsMember result.2 = true) :
    isRooted s = true := by
  rw [Doctype.isPlainProlog.eq_def] at hplain
  split at hplain
  · cases hplain
  rename_i c rest
  split at hplain
  · rename_i hspace
    obtain ⟨state', doc', hstep, hafter⟩ := readProlog_step (next_of_isSpace hspace rest) (by simp) h
    obtain ⟨rfl, rfl⟩ := Prod.mk.inj (Except.ok.inj hstep)
    exact (OpensMember.space hspace (opensMember_of_isPlainProlog hplain hafter hmember)).isRooted
  split at hplain
  · rename_i hc
    subst hc
    split at hplain
    · rename_i after hopen
      exact (opensMember_of_rootStart hopen h hmember).isRooted
    · rename_i after hopen
      obtain ⟨state', doc', hstep, hafter⟩ :=
        readProlog_step ((next_open rest).trans hopen) (by simp) h
      obtain ⟨rfl, rfl⟩ := Prod.mk.inj (Except.ok.inj hstep)
      exact (OpensMember.comment hopen
        (opensMember_of_isPlainProlog hplain hafter hmember)).isRooted
    · rename_i body remaining after hopen
      obtain ⟨state', doc', hstep, hafter⟩ :=
        readProlog_step ((next_open rest).trans hopen) (by simp) h
      obtain ⟨rfl, hbody⟩ := step_declaration hstep
      rw [Doctype.scanOpen_declaration hopen]
      exact OpensMember.isRooted_declaration hbody
        (opensMember_of_isPlainProlog hplain hafter hmember)
    · cases hplain
  · cases hplain

end

/-- Whether a text begins with no byte order mark and has a plain prolog. -/
def isPlain (s : List Char) : Bool :=
  s.head? ≠ some '\uFEFF' && Doctype.isPlainProlog (toLineFeeds s)

/-- No plain prolog begins with a zero or has one for its second character. -/
lemma byteOrder?_of_isPlainProlog {s : List Char} (h : Doctype.isPlainProlog s = true) :
    byteOrder? s = none := by
  have hnul (rest : List Char) : Doctype.isPlainProlog ('\x00' :: rest) = false := by
    rw [Doctype.isPlainProlog.eq_def]
    rfl
  by_contra hzero
  rcases exists_nul_of_byteOrder? hzero with ⟨rest, rfl⟩ | ⟨c, rest, rfl⟩
  · rw [hnul] at h
    cases h
  · rw [Doctype.isPlainProlog.eq_def] at h
    dsimp only at h
    split at h
    · have hskip : skipSpace ('\x00' :: rest) = '\x00' :: rest := rfl
      rw [hskip, hnul] at h
      cases h
    · split at h
      · have hopen : Doctype.scanOpen ('\x00' :: rest) = .invalid ('\x00' :: rest) := rfl
        rw [hopen] at h
        cases h
      · cases h

lemma byteOrder?_of_isPlain {s : List Char} (h : isPlain s = true) : byteOrder? s = none := by
  rw [isPlain, Bool.and_eq_true] at h
  exact byteOrder?_of_toLineFeeds (byteOrder?_of_isPlainProlog h.2)

/-- A document whose root is a `member` element is read as it stands if a plain prolog is all that
comes before the root, and in general if and only if behind the heading it opens with the tag or
with comments before one. -/
theorem parse_member_root {text : String} {tree : Tree} (h : parse text false = .ok tree)
    (hroot : tree.root.tag = rootTag) :
    (isPlain text.toList = true → parse text = .ok tree) ∧
      (parse text = .ok tree ↔ startsMember (afterHeading text.toList) = true ∨
        ∃ t, afterHeading text.toList = "<!--".toList ++ t ∧ memberAfterComment t = true) := by
  have hdocument : parseDocument text.toList 0 = .ok tree := h
  have hiff : parse text = .ok tree ↔ isRooted text.toList = true := by
    rw [parse, Bool.true_and]
    cases isRooted text.toList with
    | true => exact iff_of_true hdocument rfl
    | false =>
      -- a wrapped text says so in its line offset
      refine iff_of_false (fun hwrapped => ?_) Bool.false_ne_true
      have hoffset := (readLines_of_parseDocument hwrapped).2.symm.trans
        (readLines_of_parseDocument hdocument).2
      cases hoffset
  refine ⟨fun hplain => hiff.mpr ?_, hiff.trans isRooted_iff⟩
  have hread := ((parseDocument_eq_ok (byteOrder?_of_isPlain hplain)).mp hdocument).1
  obtain ⟨doc, body, hprolog, htag⟩ := readLines_root_tag hread
  obtain ⟨hmark, hplain⟩ : text.toList.head? ≠ some '\uFEFF' ∧
      Doctype.isPlainProlog (toLineFeeds text.toList) = true := by
    simpa [isPlain] using hplain
  rw [dropMark_of_head? fun hhead => hmark (head?_of_head?_toLineFeeds (by decide) hhead)] at hprolog
  rw [← isRooted_congr (squeeze_toLineFeeds text.toList)]
  exact isRooted_of_isPlainProlog hplain hprolog (htag.mpr hroot)

/-- A `member` element behind a declaration, line breaks of two kinds and two comments. -/
def memberAfterDeclaration : String :=
  "<?xml version=\"1.0\"?>\r\n<!--a--> <!-- <doc> -->\n<member/>"

/-- A declaration may stand in front of the member; the text is read as it is. -/
theorem parse_member_root_memberAfterDeclaration :
    ∃ tree, parse memberAfterDeclaration false = .ok tree ∧ tree.root.tag = rootTag ∧
      isPlain memberAfterDeclaration.toList = true ∧ parse memberAfterDeclaration = .ok tree := by
  have hread : (parse memberAfterDeclaration false).toOption.map (·.root.tag) = some rootTag := by
    decide +kernel
  have hplain : isPlain memberAfterDeclaration.toList = true := by decide +kernel
  obtain ⟨tree, hparse, htag⟩ := exists_ok_of_map hread
  exact ⟨tree, hparse, htag, hplain, (parse_member_root hparse htag).1 hplain⟩

/-- An instruction before a `member` element. -/
def instructionBeforeMember : String :=
  "<?pi?><member><summary>x</summary></member>"

/-- The `member` element of `instructionBeforeMember` is wrapped in another, so that its summary is
no child of the root any more. -/
theorem parse_member_root_instructionBeforeMember :
    ∃ tree wrapped, parse instructionBeforeMember false = .ok tree ∧ tree.root.tag = rootTag ∧
      (tree.children "summary").length = 1 ∧ parse instructionBeforeMember = .ok wrapped ∧
      wrapped.lineOffset = 1 ∧ wrapped.children "summary" = [] := by
  have hread : (parse instructionBeforeMember false).toOption.map
      (fun tree => (tree.root.tag, (tree.children "summary").length)) = some (rootTag, 1) := by
    decide +kernel
  have hwrapped : (parse instructionBeforeMember).toOption.map
      (fun tree => (tree.lineOffset, (tree.children "summary").length)) = some (1, 0) := by
    decide +kernel
  obtain ⟨tree, hparse, htree⟩ := exists_ok_of_map hread
  obtain ⟨wrapped, hparse', hwrapped⟩ := exists_ok_of_map hwrapped
  obtain ⟨htag, hlength⟩ := Prod.mk.inj htree
  obtain ⟨hoffset, hnone⟩ := Prod.mk.inj hwrapped
  exact ⟨tree, wrapped, hparse, htag, hlength, hparse', hoffset, List.length_eq_zero_iff.mp hnone⟩

end DocComment.Markup
