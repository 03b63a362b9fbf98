import DocComment.Proofs.Markup.MemberRoot

/-!
# What a token depends on

Whether a token is found depends on the text that it takes up and on the character or two that follow
it, and on nothing else. So a token is found again when the text behind it is replaced by another
that begins in the same way. What a token remembers of how much text is left is set aside:

* `Scan.Local` says this of a reader, with a rule for each way in which readers are put together;
* `Lexeme.next_local` says it of the lexemes of content, and `scanSection_append` of the body of a
  character section.
-/

namespace DocComment.Markup

open DocComment.Text

/-! ## Looking ahead -/

/-- Whether two texts begin with the same character, and unless that is a line feed go on with the
same one. -/
def Peek (s t : List Char) : Prop :=
  s.head? = t.head? ∧ (s.head? ≠ some '\n' → s.tail.head? = t.tail.head?)

namespace Peek

variable {s t : List Char}

lemma eq_nil (h : Peek [] t) : t = [] :=
  List.head?_eq_none_iff.mp h.1.symm

lemma exists_cons {c : Char} (h : Peek (c :: s) t) :
    ∃ t', t = c :: t' ∧ (c ≠ '\n' → s.head? = t'.head?) := by
  obtain ⟨t', rfl⟩ := List.head?_eq_some_iff.mp h.1.symm
  exact ⟨t', rfl, fun hc => h.2 (by simpa using hc)⟩

lemma symm (h : Peek s t) : Peek t s :=
  ⟨h.1.symm, fun ht => (h.2 (by rwa [h.1])).symm⟩

lemma cons (h : Peek s t) (c : Char) : Peek (c :: s) (c :: t) :=
  ⟨rfl, fun _ => h.1⟩

lemma append (h : Peek s t) (p : List Char) : Peek (p ++ s) (p ++ t) := by
  induction p with
  | nil => exact h
  | cons c p ih => exact ih.cons c

/-- Two characters of which the first is no line feed stand in front of both texts or of none. -/
lemma isPrefixOf_pair (h : Peek s t) {c : Char} (hc : c ≠ '\n') (d : Char) :
    [c, d].isPrefixOf s = [c, d].isPrefixOf t := by
  cases s with
  | nil => rw [h.eq_nil]
  | cons e s =>
    obtain ⟨t, rfl, hnext⟩ := h.exists_cons
    by_cases he : c = e
    · subst he
      have hheads := hnext hc
      cases s <;> cases t <;> simp_all [List.isPrefixOf]
    · have hfalse : (c == e) = false := beq_false_of_ne he
      simp [List.isPrefixOf, hfalse]

end Peek

/-- A run of characters ends in the same place if what follows it begins in the same way. -/
lemma span_append {p : Char → Bool} {s t : List Char}
    (h : (s.dropWhile p).head? = t.head?) :
    (s.takeWhile p ++ t).takeWhile p = s.takeWhile p ∧
      (s.takeWhile p ++ t).dropWhile p = t := by
  have hall : ∀ c ∈ s.takeWhile p, p c = true := List.all_eq_true.mp List.all_takeWhile
  rw [List.takeWhile_append_of_pos hall, List.dropWhile_append_of_pos hall]
  cases t with
  | nil => simp
  | cons c t =>
    have hc : p c = false := by
      have hstop := List.head?_dropWhile_not p s
      rw [h] at hstop
      simpa using hstop
    rw [List.takeWhile_cons_of_neg (by simp [hc]), List.dropWhile_cons_of_neg (by simp [hc]),
      List.append_nil]
    exact ⟨rfl, rfl⟩

/-! ## Readers -/

/-- A token that is found is found again before any text that begins in the same way as the one that
is left, as far as `bare` can see. -/
def Scan.Local {α β : Type} (f : List Char → Scan α) (bare : α → β) : Prop :=
  ∀ s value after, f s = .found value after →
    ∃ p, s = p ++ after ∧
      ∀ t, Peek after t → ∃ value', f (p ++ t) = .found value' t ∧ bare value' = bare value

namespace Scan

variable {α β γ δ : Type} {f : List Char → Scan α} {bare : α → β}

lemma local_found (value : α) : Local (fun s => found value s) bare := by
  intro s _ after h
  cases h
  exact ⟨[], rfl, fun t _ => ⟨value, rfl, rfl⟩⟩

lemma local_invalid (g : List Char → List Char) : Local (fun s => invalid (g s)) bare := by
  intro s _ after h
  cases h

lemma Local.congr {g : List Char → Scan α} (hf : Local f bare) (h : ∀ s, g s = f s) :
    Local g bare := by
  obtain rfl : g = f := funext h
  exact hf

/-- The value may make use of the text, if that does not show. -/
lemma local_expect (value : List Char → α) (hvalue : ∀ s s', bare (value s) = bare (value s'))
    (c : Char) : Local (fun s => expect c (value s) s) bare := by
  intro s _ after h
  obtain ⟨rfl, rfl⟩ := expect_eq_found.mp h
  exact ⟨[c], rfl, fun t _ => ⟨_, expect_eq_found.mpr ⟨rfl, rfl⟩, hvalue _ _⟩⟩

/-- The change may make use of the text, if that does not show. -/
lemma local_map {bare' : γ → δ} {g : List Char → α → γ} (hf : Local f bare)
    (hg : ∀ s s' a a', bare a = bare a' → bare' (g s a) = bare' (g s' a')) :
    Local (fun s => (f s).map (g s)) bare' := by
  intro s _ after h
  obtain ⟨a, ha, rfl⟩ := map_eq_found.mp h
  obtain ⟨p, rfl, hp⟩ := hf s a after ha
  refine ⟨p, rfl, fun t ht => ?_⟩
  obtain ⟨a', ha', hbare⟩ := hp t ht
  exact ⟨_, map_eq_found.mpr ⟨a', ha', rfl⟩, hg _ _ a' a hbare⟩

lemma map_map {g : γ → δ} {h : α → γ} (scan : Scan α) :
    (scan.map h).map g = scan.map (g ∘ h) := by
  cases scan <;> rfl

lemma map_andThen {g : γ → δ} {next : α → List Char → Scan γ} (scan : Scan α) :
    (scan.andThen next).map g = scan.andThen fun a rest => (next a rest).map g := by
  cases scan <;> rfl

/-- Where a value is read alike before any text and so is what follows it, both are read alike
together. -/
lemma local_andThen {bare' : γ → δ} {g : α → List Char → Scan γ} (hf : Local f id)
    (hg : ∀ a, Local (g a) bare') : Local (fun s => (f s).andThen g) bare' := by
  intro s value after h
  obtain ⟨a, mid, ha, hvalue⟩ := andThen_eq_found.mp h
  obtain ⟨p, rfl, hp⟩ := hf s a mid ha
  obtain ⟨q, rfl, hq⟩ := hg a mid value after hvalue
  refine ⟨p ++ q, by rw [List.append_assoc], fun t ht => ?_⟩
  obtain ⟨value', hvalue', hbare⟩ := hq t ht
  obtain ⟨a', ha', rfl⟩ := hp (q ++ t) (ht.append q)
  refine ⟨value', ?_, hbare⟩
  rw [List.append_assoc]
  exact andThen_eq_found.mpr ⟨_, _, ha', hvalue'⟩

lemma local_ite {c : Prop} [Decidable c] {g : List Char → Scan α} (hf : c → Local f bare)
    (hg : ¬ c → Local g bare) : Local (fun s => if c then f s else g s) bare := by
  by_cases hc : c
  · simpa only [if_pos hc] using hf hc
  · simpa only [if_neg hc] using hg hc

/-- The first character may decide how to go on. -/
lemma local_cons {g : Char → List Char → Scan α} (hg : ∀ c, Local (g c) bare) :
    Local (fun s => match s with
      | [] => .incomplete
      | c :: rest => g c rest) bare := by
  intro s value after h
  cases s with
  | nil => cases h
  | cons c rest =>
    obtain ⟨p, rfl, hp⟩ := hg c rest value after h
    exact ⟨c :: p, rfl, hp⟩

/-- A run of characters may be taken first. -/
lemma local_span {g : List Char → List Char → Scan α} (p : Char → Bool)
    (hg : ∀ run, Local (g run) bare) :
    Local (fun s => g (s.takeWhile p) (s.dropWhile p)) bare := by
  intro s value after h
  obtain ⟨q, hq, hlocal⟩ := hg (s.takeWhile p) (s.dropWhile p) value after h
  refine ⟨s.takeWhile p ++ q, ?_, fun t ht => ?_⟩
  · rw [List.append_assoc, ← hq, List.takeWhile_append_dropWhile]
  · have hhead : (s.dropWhile p).head? = (q ++ t).head? := by
      rw [hq]
      exact (ht.append q).1
    obtain ⟨htake, hdrop⟩ := span_append hhead
    obtain ⟨value', hvalue', hbare⟩ := hlocal t ht
    refine ⟨value', ?_, hbare⟩
    show g ((s.takeWhile p ++ q ++ t).takeWhile p) ((s.takeWhile p ++ q ++ t).dropWhile p) = _
    rw [List.append_assoc, htake, hdrop, hvalue']

/-- Layout may be skipped first. -/
lemma local_skipSpace (hf : Local f bare) : Local (fun s => f (skipSpace s)) bare :=
  local_span isSpace fun _ => hf

/-- Characters that follow may be looked at without being taken. -/
lemma local_of_peek
    (h : ∀ s value after, f s = found value after →
      after = s ∧ ∀ t, Peek s t → f t = found value t) : Local f bare := by
  intro s value after hfound
  obtain ⟨rfl, hpeek⟩ := h s value after hfound
  exact ⟨[], rfl, fun t ht => ⟨value, hpeek t ht, rfl⟩⟩

end Scan

/-! ## Names, references, comments and instructions -/

lemma scanName_local : Scan.Local scanName id := by
  refine (Scan.local_cons (g := fun c rest => if isNameStart c then
    .found (String.ofList (c :: rest.takeWhile isNameChar)) (rest.dropWhile isNameChar)
    else .invalid (c :: rest)) fun c => ?_).congr fun s => ?_
  · refine Scan.local_ite (fun _ => ?_) fun _ => Scan.local_invalid (c :: ·)
    exact Scan.local_span isNameChar
      fun run => Scan.local_found (String.ofList (c :: run))
  · cases s <;> rfl

/-- What `scanNumber` makes of digits and of what follows them. -/
def endNumber (base : Nat) : List Char → List Char → Scan Reference
  | [], [] => .incomplete
  | [], rest => .invalid rest
  | digits, rest => Scan.expect ';' (.character (charOfCode? (numberOf base digits))) rest

lemma endNumber_local (base : Nat) (digits : List Char) : Scan.Local (endNumber base digits) id := by
  cases digits with
  | nil =>
    refine (Scan.local_cons fun c => Scan.local_invalid (c :: ·)).congr fun s => ?_
    cases s <;> rfl
  | cons c digits => exact Scan.local_expect _ (fun _ _ => rfl) ';'

lemma scanNumber_local (base : Nat) (isDigit : Char → Bool) :
    Scan.Local (scanNumber base isDigit) id :=
  Scan.local_span isDigit (endNumber_local base)

/-- A reference ends with its semicolon, and whether it is a number shows in its first two
characters. -/
lemma scanReference_local : Scan.Local scanReference id := by
  intro s value after h
  have hname : Scan.Local (fun s => (scanName s).andThen fun name rest =>
      Scan.expect ';' (Reference.entity name) rest) id :=
    Scan.local_andThen scanName_local fun _ => Scan.local_expect _ (fun _ _ => rfl) ';'
  rw [scanReference.eq_def] at h
  split at h
  · rename_i rest
    obtain ⟨p, rfl, hp⟩ := scanNumber_local 16 isHexDigit rest value after h
    exact ⟨'#' :: 'x' :: p, rfl, hp⟩
  · rename_i rest hx
    obtain ⟨p, rfl, hp⟩ := scanNumber_local 10 Char.isDigit rest value after h
    refine ⟨'#' :: p, rfl, fun t ht => ?_⟩
    obtain ⟨value', hvalue', hbare⟩ := hp t ht
    refine ⟨value', ?_, hbare⟩
    rw [List.cons_append, scanReference.eq_2 _ ?_, hvalue']
    intro r hr
    obtain ⟨r', hr', -⟩ := (hr ▸ (ht.append p).symm).exists_cons
    exact hx r' hr'
  · rename_i hhex hdec
    obtain ⟨p, rfl, hp⟩ := hname s value after h
    refine ⟨p, rfl, fun t ht => ?_⟩
    obtain ⟨value', hvalue', hbare⟩ := hp t ht
    refine ⟨value', ?_, hbare⟩
    have hdec' : ∀ r, p ++ t = '#' :: r → False := by
      intro r hr
      obtain ⟨r', hr', -⟩ := (hr ▸ (ht.append p).symm).exists_cons
      exact hdec r' hr'
    rw [scanReference.eq_3 _ (fun r => hdec' _) hdec']
    exact hvalue'

lemma scanComment_local : Scan.Local scanComment id := by
  intro s body after h
  obtain ⟨rfl, hchars, hsafe⟩ := scanComment_eq_found h
  refine ⟨body ++ ['-', '-', '>'], by simp, fun t _ => ⟨body, ?_, rfl⟩⟩
  rw [List.append_assoc]
  exact scanComment_append hchars hsafe t

/-- The body of an instruction ends where the first question mark stands before an angle bracket. -/
lemma scanInstructionBody_local : Scan.Local scanInstructionBody id := by
  intro s body after h
  fun_induction scanInstructionBody s generalizing body with
  | case1 => cases h
  | case2 rest =>
    cases h
    exact ⟨['?', '>'], rfl, fun t _ => ⟨[], rfl, rfl⟩⟩
  | case3 c rest hopen hchar ih =>
    obtain ⟨others, hothers, rfl⟩ := Scan.map_eq_found.mp h
    obtain ⟨p, rfl, hp⟩ := ih others hothers
    refine ⟨c :: p, rfl, fun t ht => ?_⟩
    obtain ⟨others', hothers', hbare⟩ := hp t ht
    obtain rfl : others' = others := hbare
    refine ⟨_, ?_, rfl⟩
    have hopen' : ∀ r, c = '?' → p ++ t = '>' :: r → False := by
      intro r hc hr
      obtain ⟨r', hr', -⟩ := (hr ▸ (ht.append p).symm).exists_cons
      exact hopen r' hc hr'
    rw [List.cons_append, scanInstructionBody.eq_3 _ _ hopen', if_pos hchar, hothers']
    rfl
  | case4 => cases h

/-- An instruction without how much text is left. -/
def Instruction.bare : Instruction → Instruction
  | .declaration body _ => .declaration body 0
  | .other => .other

/-- An instruction is read alike before any text; a declaration also knows how much is left. -/
lemma scanInstruction_local : Scan.Local scanInstruction Instruction.bare := by
  refine Scan.local_andThen scanName_local fun target => ?_
  let made (body : List Char) (n : Nat) : Instruction :=
    if target = "xml" then .declaration body n else .other
  have hmade : ∀ body m n, (made body m).bare = (made body n).bare := by
    intro body m n
    simp only [made]
    split <;> rfl
  have hcases : Scan.Local (fun s => match s with
      | [] => .incomplete
      | c :: after =>
        if isReservedTarget target then .invalid (c :: after)
        else if isSpace c then
          (scanInstructionBody after).map fun body => made (c :: body) (after.length + 1)
        else if c = '?' then Scan.expect '>' (made [] (after.length + 1)) after
        else .invalid (c :: after)) Instruction.bare := by
    refine Scan.local_cons fun c => ?_
    refine Scan.local_ite (fun _ => Scan.local_invalid (c :: ·)) fun _ => ?_
    refine Scan.local_ite (fun _ => ?_) fun _ => ?_
    · refine Scan.local_map scanInstructionBody_local ?_
      rintro s s' body body' (rfl : body = body')
      exact hmade _ _ _
    · exact Scan.local_ite (fun _ => Scan.local_expect _ (fun s s' => hmade _ _ _) '>')
        fun _ => Scan.local_invalid (c :: ·)
  refine hcases.congr fun s => ?_
  cases s <;> rfl

/-! ## Attributes -/

/-- A piece of an attribute value without how much text is left. -/
def Piece.bare : Piece → Piece
  | .character c => .character c
  | .reference target _ => .reference target 0

/-- An attribute without how much text is left. -/
def RawAttribute.bare (a : RawAttribute) : RawAttribute :=
  ⟨a.name, 0, a.value.map Piece.bare⟩

lemma scanPiece_local (c : Char) : Scan.Local (scanPiece c) Piece.bare := by
  refine Scan.local_ite (fun _ => ?_) fun _ => ?_
  · refine Scan.local_map scanReference_local ?_
    rintro s s' target target' (rfl : target = target')
    rfl
  · exact Scan.local_ite (fun _ => Scan.local_invalid (c :: ·)) fun _ => Scan.local_found _

lemma scanValue_piece {quote c : Char} (hc : c ≠ quote) {rest after : List Char} {piece : Piece}
    (h : scanPiece c rest = .found piece after) :
    scanValue quote (c :: rest) = (scanValue quote after).map (piece :: ·) := by
  rw [scanValue]
  grind

/-- A value ends with the first quote of its kind, and how much text is left shows in its pieces
only. -/
lemma scanValue_local (quote : Char) : Scan.Local (scanValue quote) (List.map Piece.bare) := by
  intro s value after h
  fun_induction scanValue quote s generalizing value with
  | case1 => cases h
  | case2 rest =>
    cases h
    exact ⟨[quote], rfl, fun t _ => ⟨[], by simp [scanValue], rfl⟩⟩
  | case3 c rest hc piece mid hpiece ih =>
    obtain ⟨others, hothers, rfl⟩ := Scan.map_eq_found.mp h
    obtain ⟨p, rfl, hp⟩ := scanPiece_local c rest piece mid hpiece
    obtain ⟨q, rfl, hq⟩ := ih others hothers
    refine ⟨c :: (p ++ q), by simp, fun t ht => ?_⟩
    obtain ⟨piece', hpiece', hbare⟩ := hp (q ++ t) (ht.append q)
    obtain ⟨others', hothers', hbares⟩ := hq t ht
    refine ⟨piece' :: others', ?_, by rw [List.map_cons, List.map_cons, hbare, hbares]⟩
    rw [List.cons_append, List.append_assoc, scanValue_piece hc hpiece', hothers']
    rfl
  | case4 => cases h
  | case5 => cases h

/-- An attribute is read by its parts: its name, the sign of equality, a quote and the value. -/
lemma scanAttribute_local : Scan.Local scanAttribute RawAttribute.bare := by
  -- a name and a value; how much text is left is added at the end
  have hquoted : ∀ name, Scan.Local (fun s => match s with
      | [] => .incomplete
      | quote :: rest =>
        if quote = '"' || quote = '\'' then (scanValue quote rest).map (name, ·)
        else .invalid (quote :: rest)) (Prod.map (@id String) (List.map Piece.bare)) := by
    intro name
    refine Scan.local_cons fun quote => ?_
    refine Scan.local_ite (fun _ => ?_) fun _ => Scan.local_invalid (quote :: ·)
    refine Scan.local_map (scanValue_local quote) ?_
    intro s s' value value' hbare
    exact Prod.ext rfl hbare
  have hparts := Scan.local_andThen scanName_local fun name =>
    Scan.local_andThen (g := fun _ rest => _)
      (Scan.local_skipSpace (Scan.local_expect (fun _ => ()) (fun _ _ => rfl) '='))
      fun _ => Scan.local_skipSpace (hquoted name)
  have hmake : ∀ (s s' : List Char) (parts parts' : String × List Piece),
      parts.map id (List.map Piece.bare) = parts'.map id (List.map Piece.bare) →
      RawAttribute.bare ⟨parts.1, s.length, parts.2⟩
        = RawAttribute.bare ⟨parts'.1, s'.length, parts'.2⟩ := by
    rintro s s' ⟨name, value⟩ ⟨name', value'⟩ hbare
    obtain ⟨rfl, hvalue⟩ := Prod.mk.inj hbare
    simp only [RawAttribute.bare, RawAttribute.mk.injEq]
    exact ⟨rfl, trivial, hvalue⟩
  refine (Scan.local_map hparts hmake).congr fun s => ?_
  rw [scanAttribute, Scan.map_andThen]
  congr 1
  funext name afterName
  rw [Scan.map_andThen]
  congr 1
  funext _ afterSign
  cases skipSpace afterSign with
  | nil => rfl
  | cons quote rest =>
    dsimp only
    split
    · rw [Scan.map_map]
      rfl
    · rfl

section

variable {c d : Char} {rest after : List Char}

lemma scanAttributes_end (hc : isSpace c = true) (hrest : skipSpace rest = d :: after)
    (hd : (d = '>' || d = '/') = true) :
    scanAttributes (c :: rest) = scanAttributes (d :: after) := by
  have hgt : c ≠ '>' := by rintro rfl; cases hc
  have hslash : c ≠ '/' := by rintro rfl; cases hc
  rw [scanAttributes.eq_def]
  grind

/-- Behind white space that does not end the tag stands an attribute. -/
lemma scanAttributes_attribute (hc : isSpace c = true) (hrest : skipSpace rest = d :: after)
    (hd : (d = '>' || d = '/') = false) {given : RawAttribute} {next : List Char}
    (hgiven : scanAttribute (d :: after) = .found given next) :
    scanAttributes (c :: rest)
      = (scanAttributes next).map fun (others, closed) => (given :: others, closed) := by
  have hgt : c ≠ '>' := by rintro rfl; cases hc
  have hslash : c ≠ '/' := by rintro rfl; cases hc
  rw [scanAttributes.eq_def]
  grind

end

/-- The attributes of a tag are read one by one until the tag ends. Whether a blank stands before an
attribute is part of it. -/
lemma scanAttributes_local :
    Scan.Local scanAttributes (Prod.map (List.map RawAttribute.bare) (@id Bool)) := by
  intro s value after h
  fun_induction scanAttributes s generalizing value with
  | case1 => cases h
  | case2 rest =>
    cases h
    exact ⟨['>'], rfl, fun t _ => ⟨_, by rw [List.singleton_append, scanAttributes, if_pos rfl], rfl⟩⟩
  | case3 rest _ =>
    obtain ⟨rfl, rfl⟩ := Scan.expect_eq_found.mp h
    refine ⟨['/', '>'], rfl, fun t _ => ⟨_, ?_, rfl⟩⟩
    rw [List.cons_append, List.singleton_append, scanAttributes, if_neg (by decide), if_pos rfl]
    rfl
  | case4 => cases h
  -- white space before the end of the tag
  | case5 c rest _ _ hc d r hrest hd ih =>
    obtain ⟨p, hr, hp⟩ := ih value h
    refine ⟨c :: (rest.takeWhile isSpace ++ p), ?_, fun t ht => ?_⟩
    · rw [List.cons_append, List.append_assoc, ← hr, ← hrest, skipSpace,
        List.takeWhile_append_dropWhile]
    · obtain ⟨value', hvalue', hbare⟩ := hp t ht
      obtain ⟨r', hr', -⟩ := (hr ▸ ht.append p).exists_cons
      refine ⟨value', ?_, hbare⟩
      have hskip : skipSpace (rest.takeWhile isSpace ++ (p ++ t)) = d :: r' := by
        rw [hr']
        refine (span_append ?_).2
        rw [← skipSpace, hrest]
        rfl
      rw [List.cons_append, List.append_assoc, scanAttributes_end hc hskip hd, ← hr', hvalue']
  -- white space before an attribute; what follows it begins alike in both texts
  | case6 c rest _ _ hc d r hrest hd given next hgiven ih =>
    obtain ⟨⟨others, closed⟩, hothers, rfl⟩ := Scan.map_eq_found.mp h
    obtain ⟨p, hr, hp⟩ := scanAttribute_local (d :: r) given next hgiven
    obtain ⟨q, rfl, hq⟩ := ih _ hothers
    refine ⟨c :: (rest.takeWhile isSpace ++ (p ++ q)), ?_, fun t ht => ?_⟩
    · rw [List.cons_append, List.append_assoc, List.append_assoc, ← hr, ← hrest, skipSpace,
        List.takeWhile_append_dropWhile]
    · obtain ⟨given', hgiven', hbare⟩ := hp (q ++ t) (ht.append q)
      obtain ⟨⟨others', closed'⟩, hothers', hbares⟩ := hq t ht
      obtain ⟨r', hr', -⟩ := (hr ▸ (ht.append q).append p).exists_cons
      have hskip : skipSpace (rest.takeWhile isSpace ++ (p ++ (q ++ t))) = d :: r' := by
        rw [hr']
        refine (span_append ?_).2
        rw [← skipSpace, hrest]
        rfl
      refine ⟨(given' :: others', closed'), ?_, ?_⟩
      · rw [List.cons_append, List.append_assoc, List.append_assoc,
          scanAttributes_attribute hc hskip (by simpa using hd) (hr' ▸ hgiven'), hothers']
        rfl
      · obtain ⟨hmap, hclosed⟩ := Prod.mk.inj hbares
        rw [Prod.map, List.map_cons, hbare, hmap]
        exact Prod.ext rfl hclosed
  | case7 => cases h
  | case8 => cases h
  | case9 => cases h

/-! ## Lexemes -/

/-- A lexeme without how much text is left. -/
def Lexeme.bare : Lexeme → Lexeme
  | .startTag name attributes closed => .startTag name (attributes.map RawAttribute.bare) closed
  | lexeme => lexeme

/-- A keyword that is found was written in front. -/
lemma scanWord_eq_found {word s after : List Char} (h : scanWord word s = .found () after) :
    s = word ++ after := by
  induction word generalizing s with
  | nil =>
    cases h
    rfl
  | cons w word ih =>
    cases s with
    | nil => cases h
    | cons c s =>
      rw [scanWord] at h
      split at h
      · rename_i hc
        rw [hc, ih h]
        rfl
      · cases h

/-- The opening of a character section is the same few characters in any document. -/
lemma scanSectionOpen_local : Scan.Local scanSectionOpen Lexeme.bare := by
  intro s value after h
  rw [scanSectionOpen] at h
  split at h
  · cases h
  · obtain ⟨_, hword, rfl⟩ := Scan.map_eq_found.mp h
    obtain rfl := scanWord_eq_found hword
    refine ⟨"CDATA[".toList, rfl, fun t _ => ⟨.sectionOpen, ?_, rfl⟩⟩
    have hlength : byteLength ("CDATA[".toList ++ t) = 6 + byteLength t := by
      show 1 + (1 + (1 + (1 + (1 + (1 + byteLength t))))) = _
      omega
    rw [scanSectionOpen, if_neg (by omega)]
    rfl

lemma scanEndTag_local : Scan.Local scanEndTag Lexeme.bare :=
  Scan.local_andThen scanName_local fun _ =>
    Scan.local_skipSpace (Scan.local_expect _ (fun _ _ => rfl) '>')

/-- A start tag is read as its name and its attributes are. -/
lemma scanStartTag_local : Scan.Local scanStartTag Lexeme.bare := by
  refine Scan.local_andThen scanName_local fun name => ?_
  refine Scan.local_map (g := fun _ (attributes, closed) => Lexeme.startTag name attributes closed)
    scanAttributes_local ?_
  rintro s s' ⟨attributes, closed⟩ ⟨attributes', closed'⟩ hbare
  obtain ⟨hmap, hclosed⟩ := Prod.mk.inj hbare
  obtain rfl : closed = closed' := hclosed
  simp only [Lexeme.bare, hmap]

lemma scanInstructionLexeme_local : Scan.Local scanInstructionLexeme Lexeme.bare := by
  refine Scan.local_map (g := fun _ instruction => match instruction with
    | .declaration _ _ => Lexeme.declaration
    | .other => Lexeme.instruction) scanInstruction_local ?_
  intro s s' instruction instruction' hbare
  cases instruction <;> cases instruction' <;> first | rfl | cases hbare

/-- Whether a tag may begin depends on one character. -/
lemma Doctype.StartsTag.of_head? {s t : List Char} (h : StartsTag s) (hhead : s.head? = t.head?) :
    StartsTag t := by
  cases s with
  | nil => exact h.elim
  | cons c s =>
    obtain ⟨t, rfl⟩ := List.head?_eq_some_iff.mp hhead.symm
    exact h

/-- Markup is no single character and no reference, a comment stands between its hyphens, and a start
tag begins with its name. -/
lemma scanMarkup_eq_found {s after : List Char} {lexeme : Lexeme}
    (h : scanMarkup s = .found lexeme after) :
    ((∀ e, lexeme ≠ .character e) ∧ ∀ target, lexeme ≠ .reference target) ∧
    (∀ body, lexeme = .comment body →
      s = '!' :: '-' :: '-' :: (body ++ '-' :: '-' :: '>' :: after)) ∧
    ∀ tag raw closed, lexeme = .startTag tag raw closed → tag.toList <+: s := by
  rw [scanMarkup.eq_def] at h
  split at h
  · obtain ⟨_, rest, hhyphen, h⟩ := Scan.andThen_eq_found.mp h
    obtain ⟨body, hbody, rfl⟩ := Scan.map_eq_found.mp h
    obtain ⟨rfl, -⟩ := Scan.expect_eq_found.mp hhyphen
    obtain ⟨rfl, -⟩ := scanComment_eq_found hbody
    refine ⟨by simp, fun body' hbody' => ?_, by simp⟩
    rw [Lexeme.comment.inj hbody']
  · rw [scanSectionOpen] at h
    split at h
    · cases h
    · obtain ⟨_, -, rfl⟩ := Scan.map_eq_found.mp h
      simp
  · cases h
  · cases h
  · obtain ⟨instruction, -, rfl⟩ := Scan.map_eq_found.mp h
    cases instruction <;> simp
  · obtain ⟨_, _, -, h⟩ := Scan.andThen_eq_found.mp h
    obtain ⟨-, rfl⟩ := Scan.expect_eq_found.mp h
    simp
  · obtain ⟨name, behind, hname, h⟩ := Scan.andThen_eq_found.mp h
    obtain ⟨_, -, rfl⟩ := Scan.map_eq_found.mp h
    refine ⟨by simp, by simp, fun tag raw closed htag => ?_⟩
    obtain ⟨rfl, -, -⟩ := Lexeme.startTag.inj htag
    exact ⟨behind, (scanName_eq_found hname).symm⟩

/-- What begins with none of the marks begins with a name. -/
lemma scanMarkup_startTag {s t : List Char} {lexeme : Lexeme} {after : List Char}
    (h : scanStartTag s = .found lexeme after) (ht : s.head? = t.head?) :
    scanMarkup t = scanStartTag t := by
  obtain ⟨name, rest, hname, -⟩ := Scan.andThen_eq_found.mp h
  have hstart : Doctype.StartsTag s := by
    rw [scanName_eq_found hname]
    exact startsTag_of_isName (scanName_finds _ _ _ hname) rest
  exact scanMarkup_of_startsTag (hstart.of_head? ht)

/-- What is behind an angle bracket is read by its kind, which at most two characters tell. -/
lemma scanMarkup_local : Scan.Local scanMarkup Lexeme.bare := by
  intro s value after h
  rw [scanMarkup.eq_def] at h
  split at h
  · rename_i rest
    have hcomment : Scan.Local (fun s => (Scan.expect '-' () s).andThen fun _ after =>
        (scanComment after).map Lexeme.comment) Lexeme.bare := by
      refine Scan.local_andThen (Scan.local_expect (fun _ => ()) (fun _ _ => rfl) '-')
        fun _ => ?_
      refine Scan.local_map (g := fun _ body => Lexeme.comment body) scanComment_local ?_
      rintro s s' body body' (rfl : body = body')
      rfl
    obtain ⟨p, rfl, hp⟩ := hcomment rest value after h
    exact ⟨'!' :: '-' :: p, rfl, hp⟩
  · rename_i rest
    obtain ⟨p, rfl, hp⟩ := scanSectionOpen_local rest value after h
    exact ⟨'!' :: '[' :: p, rfl, hp⟩
  · cases h
  · cases h
  · rename_i rest
    obtain ⟨p, rfl, hp⟩ := scanInstructionLexeme_local rest value after h
    exact ⟨'?' :: p, rfl, hp⟩
  · rename_i rest
    obtain ⟨p, rfl, hp⟩ := scanEndTag_local rest value after h
    exact ⟨'/' :: p, rfl, hp⟩
  · obtain ⟨p, rfl, hp⟩ := scanStartTag_local s value after h
    refine ⟨p, rfl, fun t ht => ?_⟩
    rw [scanMarkup_startTag h (ht.append p).1]
    exact hp t ht

/-- A lexeme depends on itself and on what follows it. -/
theorem Lexeme.next_local (c : Char) : Scan.Local (next c) Lexeme.bare := by
  refine Scan.local_ite (fun _ => scanMarkup_local) fun _ => ?_
  refine Scan.local_ite (fun _ => ?_) fun _ => ?_
  · refine Scan.local_map (g := fun _ target => Lexeme.reference target) scanReference_local ?_
    rintro s s' target target' (rfl : target = target')
    rfl
  · intro s value after h
    dsimp only at h ⊢
    split at h
    · cases h
    rename_i hsection
    split at h
    · rename_i hchar
      cases h
      refine ⟨[], rfl, fun t ht => ⟨_, ?_, rfl⟩⟩
      have hends : "]>".toList.isPrefixOf t = "]>".toList.isPrefixOf s :=
        ht.symm.isPrefixOf_pair (by decide) '>'
      rw [List.nil_append, hends, if_neg hsection, if_pos hchar]
    · cases h

/-- The body of a character section ends at the first end of a section. -/
lemma scanSection_append {s body rest : List Char} (h : scanSection s = .ok (body, rest)) :
    s = body ++ ']' :: ']' :: '>' :: rest ∧
      ∀ t, scanSection (body ++ ']' :: ']' :: '>' :: t) = .ok (body, t) := by
  fun_induction scanSection s generalizing body rest with
  | case1 => cases h
  | case2 => cases h
  | case3 => cases h
  | case4 r =>
    cases h
    exact ⟨rfl, fun t => rfl⟩
  | case5 c tail h1 h2 h3 hchar others after hothers ih =>
    cases h
    obtain ⟨rfl, hrest⟩ := ih hothers
    refine ⟨rfl, fun t => ?_⟩
    have hopen : ∀ r, c = ']' → others ++ ']' :: ']' :: '>' :: t = ']' :: '>' :: r → False := by
      rintro r rfl hr
      rcases others with _ | ⟨e, _ | ⟨e', more⟩⟩
      · simp at hr
      · simp at hr
      · obtain ⟨rfl, rfl, -⟩ : e = ']' ∧ e' = '>' ∧ _ := by simpa using hr
        exact h3 _ rfl rfl
    have hlong : ∀ e, others ++ ']' :: ']' :: '>' :: t ≠ [e] := by
      intro e hshort
      have hlength := congrArg List.length hshort
      simp at hlength
      omega
    rw [List.cons_append, scanSection.eq_5 _ _ (by simp) (fun _ => hlong _) hopen, if_pos hchar,
      hrest]
  | case6 => cases h
  | case7 => cases h

end DocComment.Markup
