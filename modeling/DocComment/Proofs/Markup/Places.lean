import DocComment.Proofs.Markup.PrologLocality

/-!
# Results that do not depend on places

How much text is left at a token matters only for the place of a failure. What succeeds therefore
succeeds with the same result wherever it stands:

* `Doctype.attributes_bare`: the attributes of a start tag;
* `Doctype.step_bare`: one step of the grammar of the prolog.
-/

namespace DocComment.Markup

lemma forall₂_of_map_eq {α β γ : Type} {R : α → β → Prop} {g : α → γ} {l l' : List α} {r : List β}
    (h : List.Forall₂ R l r) (hmap : l'.map g = l.map g)
    (hR : ∀ a a' b, g a' = g a → R a b → R a' b) : List.Forall₂ R l' r := by
  induction h generalizing l' with
  | nil =>
    rw [List.map_eq_nil_iff.mp hmap]
    exact .nil
  | @cons a b l r hab _ ih =>
    obtain ⟨a', l', rfl, ha, hl⟩ := List.map_eq_cons_iff.mp hmap
    exact .cons (hR a a' b ha hab) (ih hl)

/-! ## Attributes -/

namespace Doctype

variable {doc : Doctype}

/-- What the pieces of an attribute value stand for does not depend on where they stand. -/
lemma expand_bare {depth : Nat} {opened : List String} {pieces pieces' : List Piece}
    {chars : List Char} (hbare : pieces'.map Piece.bare = pieces.map Piece.bare)
    (h : doc.expand depth opened pieces = .ok chars) :
    doc.expand depth opened pieces' = .ok chars := by
  cases depth with
  | zero => cases h
  | succ depth =>
    rw [Doctype.expand] at h ⊢
    obtain ⟨parts, hparts, hchars⟩ := bind_eq_ok.mp h
    refine bind_eq_ok.mpr ⟨parts, ?_, hchars⟩
    rw [mapM_eq_ok_iff] at hparts ⊢
    refine forall₂_of_map_eq hparts hbare fun piece piece' part hpiece hpart => ?_
    cases piece with
    | character c =>
      cases piece' with
      | character c' =>
        obtain rfl : c' = c := Piece.character.inj hpiece
        exact hpart
      | reference target' remaining' => cases hpiece
    | reference target remaining =>
      cases piece' with
      | character c' => cases hpiece
      | reference target' remaining' =>
        -- the place shows only in failures
        obtain ⟨rfl, -⟩ := Piece.reference.inj hpiece
        rcases target' with (_ | c) | name
        · cases hpart
        · exact hpart
        · dsimp only at hpart ⊢
          cases hpredefined : predefined? name with
          | some c => simpa only [hpredefined] using hpart
          | none =>
            cases hentity : doc.entity? name with
            | none => simpa only [hpredefined, hentity] using hpart
            | some body =>
              simp only [hpredefined, hentity] at hpart ⊢
              split at hpart
              · cases hpart
              · rename_i hopened
                rw [if_neg hopened]
                cases body with
                | unparsed => cases hpart
                | external => cases hpart
                | text value => exact hpart

lemma attributeValue_bare {opened : List String} {tokenized : Bool} {pieces pieces' : List Piece}
    {value : String} (hbare : pieces'.map Piece.bare = pieces.map Piece.bare)
    (h : doc.attributeValue opened tokenized pieces = .ok value) :
    doc.attributeValue opened tokenized pieces' = .ok value := by
  rw [attributeValue] at h ⊢
  obtain ⟨chars, hchars, hvalue⟩ := bind_eq_ok.mp h
  exact bind_eq_ok.mpr ⟨chars, expand_bare hbare hchars, hvalue⟩

/-- The attributes that are given in a tag do not depend on how much text is left behind their
pieces. -/
lemma givenAttributes_bare {opened : List String} {tag : String} {seen : List String}
    {raw raw' : List RawAttribute} {attrs : Attributes}
    (hbare : raw'.map RawAttribute.bare = raw.map RawAttribute.bare)
    (h : doc.givenAttributes opened tag seen raw = .ok attrs) :
    doc.givenAttributes opened tag seen raw' = .ok attrs := by
  induction raw generalizing raw' seen attrs with
  | nil =>
    rw [List.map_eq_nil_iff.mp hbare]
    exact h
  | cons a raw ih =>
    obtain ⟨a', raw', rfl, ha, hraw⟩ := List.map_eq_cons_iff.mp hbare
    obtain ⟨hname, -, hvalue⟩ := RawAttribute.mk.inj ha
    rw [givenAttributes] at h ⊢
    rw [hname]
    split at h
    · cases h
    · rename_i hseen
      rw [if_neg hseen]
      obtain ⟨value, hgiven, hrest⟩ := bind_eq_ok.mp h
      obtain ⟨others, hothers, hattrs⟩ := bind_eq_ok.mp hrest
      exact bind_eq_ok.mpr ⟨value, attributeValue_bare hvalue hgiven,
        bind_eq_ok.mpr ⟨others, ih hraw hothers, hattrs⟩⟩

/-- The attributes of an element do not depend on where they stand. -/
theorem attributes_bare {opened : List String} {tag : String} {raw raw' : List RawAttribute}
    {attrs : Attributes} (hbare : raw'.map RawAttribute.bare = raw.map RawAttribute.bare)
    (h : doc.attributes opened tag raw = .ok attrs) :
    doc.attributes opened tag raw' = .ok attrs := by
  rw [attributes] at h ⊢
  obtain ⟨given, hgiven, hattrs⟩ := bind_eq_ok.mp h
  exact bind_eq_ok.mpr ⟨given, givenAttributes_bare hbare hgiven, hattrs⟩

/-! ## The grammar of the prolog -/

lemma checkPublicId_ok {m n : Nat} {s : List Char} {u : Unit} (h : checkPublicId m s = .ok u) :
    checkPublicId n s = .ok u := by
  induction s with
  | nil => exact h
  | cons c s ih =>
    rw [checkPublicId] at h ⊢
    split at h
    · rename_i hc
      rw [if_pos hc]
      exact ih h
    · cases h

/-- The value of an entity does not depend on where it is read, as long as it can be read. -/
lemma entityValue_ok {m n : Nat} {s value : List Char} (h : entityValue m s = .ok value) :
    entityValue n s = .ok value := by
  fun_induction entityValue m s generalizing value with
  | case1 => rw [entityValue]; exact h
  | case2 rest d next hnext ih =>
    rw [entityValue]
    grind
  | case3 => cases h
  | case4 rest name next hnext ih =>
    rw [entityValue]
    grind
  | case5 => cases h
  | case6 => cases h
  | case7 => cases h
  | case8 => cases h
  | case9 => cases h
  | case10 => cases h
  | case11 c rest hamp hpercent ih =>
    rw [entityValue]
    grind

/-- A piece that is found is the first one, wherever the text is. -/
lemma piecesOf_found {c : Char} {rest next : List Char} {piece : Piece}
    (h : scanPiece c rest = .found piece next) (after : Nat) :
    (piecesOf after (c :: rest)).1.map Piece.bare
        = piece.bare :: (piecesOf after next).1.map Piece.bare ∧
      (piecesOf after (c :: rest)).2 = (piecesOf after next).2 := by
  rw [piecesOf]
  split
  · rename_i piece' next' hpiece
    obtain ⟨rfl, rfl⟩ := Scan.found.inj (h.symm.trans hpiece)
    cases piece <;> exact ⟨rfl, rfl⟩
  · simp_all
  · simp_all

/-- The pieces of a text, and whether all of it is pieces, do not depend on what follows. -/
lemma piecesOf_bare (m n : Nat) (s : List Char) :
    (piecesOf n s).1.map Piece.bare = (piecesOf m s).1.map Piece.bare ∧
      ((piecesOf m s).2 = none → (piecesOf n s).2 = none) := by
  match s with
  | [] => rw [piecesOf, piecesOf]; exact ⟨rfl, id⟩
  | c :: rest =>
    cases hpiece : scanPiece c rest with
    | found piece next =>
      have hlength := scanPiece_leaves c rest piece next hpiece
      obtain ⟨hm, hm'⟩ := piecesOf_found hpiece m
      obtain ⟨hn, hn'⟩ := piecesOf_found hpiece n
      obtain ⟨ih, ih'⟩ := piecesOf_bare m n next
      rw [hm, hn, hm', hn', ih]
      exact ⟨rfl, ih'⟩
    | invalid bad =>
      rw [piecesOf, piecesOf]
      grind
    | incomplete =>
      rw [piecesOf, piecesOf]
      grind
termination_by s.length

/-- A default value does not depend on where it is declared, as long as it can be read. -/
lemma defaultValue_ok {attr : Declaring} {here after here' after' : Nat} {body : List Char}
    {value : String} (h : defaultValue doc attr here after body = .ok value) :
    defaultValue doc attr here' after' body = .ok value := by
  obtain ⟨hpieces, hcomplaint⟩ := piecesOf_bare (after + 1) (after' + 1) body
  rw [defaultValue] at h ⊢
  dsimp only at h ⊢
  split at h
  · cases h
  · cases h
  · rename_i value' hvalue hnone
    cases h
    rw [attributeValue_bare hpieces hvalue, hcomplaint hnone]

/-- What a declaration records does not depend on where it stands, as long as it can be read. -/
lemma recordDefault_ok {attr : Declaring} {here after here' after' : Nat} {body : List Char}
    {result : Doctype} (h : recordDefault doc attr here after body = .ok result) :
    recordDefault doc attr here' after' body = .ok result := by
  rw [recordDefault] at h ⊢
  split at h
  · rename_i hignoring
    rw [if_pos hignoring]
    exact h
  · rename_i hignoring
    rw [if_neg hignoring]
    obtain ⟨value, hvalue, hresult⟩ := bind_eq_ok.mp h
    exact bind_eq_ok.mpr ⟨value, defaultValue_ok hvalue, hresult⟩

/-- A step that succeeds does so wherever its token stands. -/
lemma step_ok {state : Expect} {token : Token} {here after here' after' : Nat}
    {result : Expect × Doctype} (h : step doc state token here after = .ok result) :
    step doc state token here' after' = .ok result := by
  unfold step at h ⊢
  dsimp only at h ⊢
  split at h
  all_goals first
    | exact h
    | cases h
    | grind [checkPublicId_ok, entityValue_ok, recordDefault_ok]

lemma Token.bare_of_ne {token : Token} (h : ∀ value, token ≠ .instruction value) :
    token.bare = token := by
  rw [Token.bare.eq_def]
  split
  · exact absurd rfl (h _)
  · rfl

/-- A declaration is accepted at the start only. -/
lemma state_of_declaration {state : Expect} {body : List Char} {remaining here after : Nat}
    {result : Expect × Doctype}
    (h : step doc state (.instruction (.declaration body remaining)) here after = .ok result) :
    state = .start := by
  cases state with
  | start => rfl
  | _ => cases h

/-- A step that succeeds does so for the same token at another place. -/
theorem step_bare {state : Expect} {token token' : Token} {here after here' after' : Nat}
    {result : Expect × Doctype} (hbare : token'.bare = token.bare)
    (h : step doc state token here after = .ok result) :
    step doc state token' here' after' = .ok result := by
  by_cases htoken : ∃ value, token = .instruction value
  · obtain ⟨value, rfl⟩ := htoken
    obtain ⟨value', rfl⟩ : ∃ value', token' = .instruction value' := by
      by_contra hne
      rw [Token.bare_of_ne (by simpa using hne)] at hbare
      exact hne ⟨_, hbare⟩
    have hvalue : value'.bare = value.bare := Token.instruction.inj hbare
    cases value with
    | other =>
      cases value' with
      | other => exact step_ok h
      | declaration body' remaining' => cases hvalue
    | declaration body remaining =>
      cases value' with
      | other => cases hvalue
      | declaration body' remaining' =>
        obtain ⟨rfl, -⟩ := Instruction.declaration.inj hvalue
        obtain rfl := state_of_declaration h
        exact step_declaration_iff.mpr (step_declaration_iff.mp h)
  · rw [Token.bare_of_ne fun value heq => htoken ⟨value, heq⟩] at hbare
    have hne : ∀ value, token' ≠ .instruction value := by
      rintro value rfl
      exact htoken ⟨_, hbare.symm⟩
    rw [Token.bare_of_ne hne] at hbare
    rw [hbare]
    exact step_ok h

end Doctype

end DocComment.Markup
