import DocComment.Proofs.Markup.Locality

/-!
# What a token of the prolog depends on

A token outside the root element, too, depends only on the text that it takes up and on the character
or two that follow it (`Doctype.Token.next_local`).
-/

namespace DocComment.Markup

open DocComment.Text

namespace Doctype

/-- A token without how much text is left. -/
def Token.bare : Token → Token
  | .instruction value => .instruction value.bare
  | token => token

/-- A literal ends with the quote that it begins with. -/
lemma scanLiteral_local (quote : Char) : Scan.Local (scanLiteral quote) id := by
  intro s body after h
  fun_induction scanLiteral quote s generalizing body with
  | case1 => cases h
  | case2 =>
    cases h
    refine ⟨[quote], rfl, fun t ht => ⟨[], ?_, rfl⟩⟩
    rw [ht.eq_nil, List.append_nil, scanLiteral, if_pos rfl]
  | case3 d r hd =>
    cases h
    refine ⟨[quote], rfl, fun t ht => ⟨[], ?_, rfl⟩⟩
    obtain ⟨t, rfl, -⟩ := ht.exists_cons
    rw [List.singleton_append, scanLiteral.eq_def]
    simp [hd]
  | case4 => cases h
  | case5 c r hc hchar ih =>
    obtain ⟨others, hothers, rfl⟩ := Scan.map_eq_found.mp h
    obtain ⟨p, rfl, hp⟩ := ih others hothers
    refine ⟨c :: p, rfl, fun t ht => ?_⟩
    obtain ⟨others', hothers', hbare⟩ := hp t ht
    obtain rfl : others' = others := hbare
    refine ⟨_, ?_, rfl⟩
    rw [List.cons_append, scanLiteral.eq_def]
    simp [hc, hchar, hothers', Scan.map]
  | case6 => cases h

/-- What `scanNames` makes of the characters that continue a name and of what follows them. -/
def endNames (c : Char) (run : List Char) : List Char → Scan Token
  | [] => .found (if isNameStart c then .name (String.ofList (c :: run)) else .nameToken) []
  | d :: after =>
    if endsName d then
      .found (if isNameStart c then .name (String.ofList (c :: run)) else .nameToken) (d :: after)
    else if isMark d && isNameStart c then .found .repeatedName after
    else .invalid (d :: after)

/-- What follows a run of name characters decides which token it is, and one character tells. -/
lemma endNames_local (c : Char) (run : List Char) : Scan.Local (endNames c run) Token.bare := by
  intro s value after h
  cases s with
  | nil =>
    cases h
    exact ⟨[], rfl, fun t ht => ⟨_, by rw [ht.eq_nil]; rfl, rfl⟩⟩
  | cons d r =>
    rw [endNames] at h
    split at h
    · rename_i hd
      cases h
      refine ⟨[], rfl, fun t ht => ?_⟩
      obtain ⟨t, rfl, -⟩ := ht.exists_cons
      exact ⟨_, if_pos hd, rfl⟩
    · rename_i hd
      split at h
      · rename_i hmark
        cases h
        exact ⟨[d], rfl, fun t _ => ⟨.repeatedName, (if_neg hd).trans (if_pos hmark), rfl⟩⟩
      · cases h

lemma scanNames_local (c : Char) : Scan.Local (scanNames c) Token.bare :=
  Scan.local_ite (fun _ => Scan.local_invalid (c :: ·)) fun _ =>
    Scan.local_span isNameChar (endNames_local c)

/-- A keyword behind a number sign is read as a name is. -/
lemma scanHashName_local : Scan.Local scanHashName Token.bare := by
  refine Scan.local_andThen scanName_local fun name => Scan.local_of_peek ?_
  intro s value after h
  cases s with
  | nil =>
    cases h
    exact ⟨rfl, fun t ht => by rw [ht.eq_nil]⟩
  | cons c r =>
    dsimp only at h
    split at h
    · rename_i hc
      cases h
      refine ⟨rfl, fun t ht => ?_⟩
      obtain ⟨t, rfl, -⟩ := ht.exists_cons
      exact if_pos hc
    · cases h

/-- Whether a per cent sign begins a reference shows in the character behind it. -/
lemma scanPercent_local : Scan.Local scanPercent Token.bare := by
  have hname : Scan.Local (fun s => (scanName s).andThen fun _ rest =>
      Scan.expect ';' Token.parameterReference rest) Token.bare :=
    Scan.local_andThen scanName_local fun _ => Scan.local_expect _ (fun _ _ => rfl) ';'
  intro s value after h
  cases s with
  | nil => cases h
  | cons c r =>
    rw [scanPercent] at h
    split at h
    · rename_i hc
      cases h
      refine ⟨[], rfl, fun t ht => ⟨_, ?_, rfl⟩⟩
      obtain ⟨t, rfl, -⟩ := ht.exists_cons
      rw [List.nil_append, scanPercent, if_pos hc]
    · rename_i hc
      obtain ⟨p, hs, hp⟩ := hname (c :: r) value after h
      refine ⟨p, hs, fun t ht => ?_⟩
      obtain ⟨value', hvalue', hbare⟩ := hp t ht
      obtain ⟨t', ht', -⟩ := (hs ▸ ht.append p).exists_cons
      refine ⟨value', ?_, hbare⟩
      rw [ht'] at hvalue' ⊢
      rw [scanPercent, if_neg hc]
      exact hvalue'

/-- What `scanDeclaration` makes of a keyword and of what follows it. -/
def endKeyword (token : Token) : List Char → Scan Token
  | [] => .incomplete
  | ['%'] => .incomplete
  | '%' :: d :: after =>
    if isSpace d || d = '%' then .invalid ('%' :: d :: after)
    else .found token ('%' :: d :: after)
  | d :: after => if isSpace d then .found token (d :: after) else .invalid (d :: after)

/-- What follows a keyword is only looked at. -/
lemma endKeyword_local (token : Token) : Scan.Local (endKeyword token) Token.bare := by
  refine Scan.local_of_peek fun s value after h => ?_
  rw [endKeyword.eq_def] at h
  split at h
  · cases h
  · cases h
  · rename_i d r
    split at h
    · cases h
    · rename_i hd
      cases h
      refine ⟨rfl, fun t ht => ?_⟩
      obtain ⟨t, rfl, hnext⟩ := ht.exists_cons
      obtain ⟨t, rfl⟩ := List.head?_eq_some_iff.mp (hnext (by decide)).symm
      exact if_neg hd
  · rename_i d r hpercent1 hpercent2
    split at h
    · rename_i hd
      cases h
      refine ⟨rfl, fun t ht => ?_⟩
      obtain ⟨t, rfl, -⟩ := ht.exists_cons
      have hne : d ≠ '%' := by
        rintro rfl
        cases hd
      rw [endKeyword.eq_4 _ _ _ (fun h _ => hne h) fun _ _ h _ => hne h, if_pos hd]
    · cases h

/-- A keyword ends with white space or before a per cent sign, and two characters tell which. -/
lemma scanDeclaration_local : Scan.Local scanDeclaration Token.bare := by
  have hcomment : Scan.Local (fun s => (Scan.expect '-' () s).andThen fun _ after =>
      (scanComment after).map fun _ => Token.comment) Token.bare := by
    refine Scan.local_andThen (Scan.local_expect (fun _ => ()) (fun _ _ => rfl) '-')
      fun _ => ?_
    exact Scan.local_map (g := fun _ _ => Token.comment) scanComment_local fun _ _ _ _ _ => rfl
  intro s value after h
  rw [scanDeclaration.eq_def] at h
  split at h
  · cases h
  · rename_i rest
    obtain ⟨p, rfl, hp⟩ := hcomment rest value after h
    exact ⟨'-' :: p, rfl, hp⟩
  · rename_i rest
    cases h
    exact ⟨['['], rfl, fun t _ => ⟨.sectionOpen, rfl, rfl⟩⟩
  · rename_i c rest hhyphen hbracket
    split at h
    · cases h
    · rename_i hc
      obtain ⟨p, rfl, hp⟩ := Scan.local_span isKeywordChar
        (fun run => endKeyword_local (.declarationOpen (String.ofList (c :: run)))) rest value
        after h
      refine ⟨c :: p, rfl, fun t ht => ?_⟩
      obtain ⟨value', hvalue', hbare⟩ := hp t ht
      refine ⟨value', ?_, hbare⟩
      rw [List.cons_append, scanDeclaration.eq_4 _ _ (by simp_all) (by simp_all), if_neg hc]
      exact hvalue'

/-- A closing bracket stands alone unless another one and an angle bracket follow. -/
lemma scanCloseBracket_local : Scan.Local scanCloseBracket Token.bare := by
  intro s value after h
  rw [scanCloseBracket.eq_def] at h
  split at h
  · cases h
  · cases h
    exact ⟨[']', '>'], rfl, fun t _ => ⟨.sectionClose, rfl, rfl⟩⟩
  · rename_i hshort hclose
    cases h
    refine ⟨[], rfl, fun t ht => ⟨.closeBracket, ?_, rfl⟩⟩
    rw [List.nil_append, scanCloseBracket.eq_3]
    · rintro rfl
      obtain ⟨r, rfl, hnext⟩ := ht.symm.exists_cons
      obtain rfl := List.head?_eq_none_iff.mp (hnext (by decide)).symm
      exact hshort rfl
    · rintro t rfl
      obtain ⟨r, rfl, hnext⟩ := ht.symm.exists_cons
      obtain ⟨r, rfl⟩ := List.head?_eq_some_iff.mp (hnext (by decide)).symm
      exact hclose r rfl

/-- One character behind a closing parenthesis tells how often the group may stand. -/
lemma scanCloseParen_local : Scan.Local scanCloseParen Token.bare := by
  intro s value after h
  cases s with
  | nil =>
    cases h
    exact ⟨[], rfl, fun t ht => ⟨.closeParen, by rw [ht.eq_nil]; rfl, rfl⟩⟩
  | cons c r =>
    rw [scanCloseParen] at h
    split at h
    · rename_i hmark
      cases h
      refine ⟨[c], rfl, fun t _ => ⟨.closeParenRepeated c, ?_, rfl⟩⟩
      rw [List.singleton_append, scanCloseParen, if_pos hmark]
    · rename_i hmark
      split at h
      · rename_i hc
        cases h
        refine ⟨[], rfl, fun t ht => ⟨.closeParen, ?_, rfl⟩⟩
        obtain ⟨t, rfl, -⟩ := ht.exists_cons
        rw [List.nil_append, scanCloseParen, if_neg hmark, if_pos hc]
      · cases h

/-- Whether an angle bracket begins a declaration, an instruction or the root shows in the character
behind it. -/
lemma scanOpen_local : Scan.Local scanOpen Token.bare := by
  intro s value after h
  rw [scanOpen.eq_def] at h
  split at h
  · cases h
  · rename_i rest
    obtain ⟨p, rfl, hp⟩ := scanDeclaration_local rest value after h
    exact ⟨'!' :: p, rfl, hp⟩
  · rename_i rest
    have hinstruction : Scan.Local (fun s => (scanInstruction s).map Token.instruction)
        Token.bare := by
      refine Scan.local_map (g := fun _ value => Token.instruction value) scanInstruction_local ?_
      intro s s' value value' hbare
      simp only [Token.bare, hbare]
    obtain ⟨p, rfl, hp⟩ := hinstruction rest value after h
    exact ⟨'?' :: p, rfl, hp⟩
  · rename_i c rest hbang hquestion
    split at h
    · rename_i hc
      cases h
      refine ⟨[], rfl, fun t ht => ⟨.rootStart, ?_, rfl⟩⟩
      obtain ⟨t, rfl, -⟩ := ht.exists_cons
      rw [List.nil_append, scanOpen.eq_4 _ _ (by simp_all) (by simp_all), if_pos hc]
    · cases h

/-- A token depends on itself and on what follows it. -/
theorem Token.next_local (c : Char) : Scan.Local (next c) Token.bare := by
  have hself (token : Token) : Scan.Local (fun rest => .found token rest) Token.bare :=
    Scan.local_found token
  have hliteral : Scan.Local (fun rest => (scanLiteral c rest).map Token.literal) Token.bare := by
    refine Scan.local_map (g := fun _ body => Token.literal body) (scanLiteral_local c) ?_
    rintro s s' body body' (rfl : body = body')
    rfl
  refine Scan.local_ite (fun _ => Scan.local_span isSpace fun _ => hself .space) fun _ => ?_
  refine Scan.local_ite (fun _ => scanOpen_local) fun _ => ?_
  refine Scan.local_ite (fun _ => hliteral) fun _ => ?_
  refine Scan.local_ite (fun _ => scanPercent_local) fun _ => ?_
  refine Scan.local_ite (fun _ => hself _) fun _ => ?_
  refine Scan.local_ite (fun _ => hself _) fun _ => ?_
  refine Scan.local_ite (fun _ => scanCloseBracket_local) fun _ => ?_
  refine Scan.local_ite (fun _ => hself _) fun _ => ?_
  refine Scan.local_ite (fun _ => scanCloseParen_local) fun _ => ?_
  refine Scan.local_ite (fun _ => hself _) fun _ => ?_
  refine Scan.local_ite (fun _ => hself _) fun _ => ?_
  exact Scan.local_ite (fun _ => scanHashName_local) fun _ => scanNames_local c

end Doctype

end DocComment.Markup
