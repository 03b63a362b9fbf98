import DocComment.Markup.Printer
import DocComment.Proofs.Markup.WellFormed

/-!
# Written tokens are read back

What the printer writes for a name, an attribute, a tag, a comment or a character is read as one
lexeme that stands for the same, whatever follows it.

* `scanName_append`: a name ends at the first character that cannot continue it;
* `scanValue_escapeAttr`: an attribute value, in which `Piece.char?` says what a piece stands for;
* `next_startTag`, `next_endTag`, `next_comment` and `next_escapeTextChar`: whole lexemes.
-/

namespace DocComment.Markup

/-! ## Names -/

/-- A name is read back before anything that cannot go on with it. -/
lemma scanName_append {name : List Char} (hname : isName name = true) {rest : List Char}
    (hrest : ∀ c ∈ rest.head?, isNameChar c = false) :
    scanName (name ++ rest) = .found (String.ofList name) rest := by
  -- the name stops in front of the rest
  have hstop : rest.takeWhile isNameChar = [] ∧ rest.dropWhile isNameChar = rest := by
    cases rest with
    | nil => exact ⟨rfl, rfl⟩
    | cons c rest =>
      have hc : ¬ isNameChar c = true := by simp [hrest c rfl]
      exact ⟨List.takeWhile_cons_of_neg hc, List.dropWhile_cons_of_neg hc⟩
  cases name with
  | nil => cases hname
  | cons d name =>
    obtain ⟨hd, hall⟩ := Bool.and_eq_true_iff.mp hname
    have hmem := List.all_eq_true.mp hall
    rw [List.cons_append, scanName, if_pos hd, List.takeWhile_append_of_pos hmem,
      List.dropWhile_append_of_pos hmem, hstop.1, hstop.2, List.append_nil]

/-- A character that can begin a name below U+0080 is a letter, an underscore or a colon. -/
lemma isKeywordChar_of_isNameStart {c : Char} (hc : isNameStart c = true) :
    Doctype.isKeywordChar c = true ∨ 0x80 ≤ c.toNat := by
  have hascii : ∀ n : Fin 0x80, isNameStart (Char.ofNat n) = true →
      Doctype.isKeywordChar (Char.ofNat n) = true := by decide
  rcases Nat.lt_or_ge c.toNat 0x80 with hlt | hge
  · left
    have h := hascii ⟨c.toNat, hlt⟩
    rw [Char.ofNat_toNat] at h
    exact h hc
  · exact Or.inr hge

lemma startsTag_of_isName {name : List Char} (hname : isName name = true) (rest : List Char) :
    Doctype.StartsTag (name ++ rest) := by
  cases name with
  | nil => cases hname
  | cons c name => exact isKeywordChar_of_isNameStart (Bool.and_eq_true_iff.mp hname).1

/-! ## References -/

/-- A reference to an entity by name. -/
lemma scanReference_entity (name : List Char) (hname : isName name = true) (rest : List Char) :
    scanReference (name ++ ';' :: rest) = .found (.entity (String.ofList name)) rest := by
  have hscan : scanName (name ++ ';' :: rest) = .found (String.ofList name) (';' :: rest) :=
    scanName_append hname (by simp; decide)
  cases name with
  | nil => cases hname
  | cons c name =>
    have hc : c ≠ '#' := by
      rintro rfl
      rw [isName, Bool.and_eq_true] at hname
      exact absurd hname.1 (by decide)
    rw [scanReference.eq_def]
    split
    · simp_all
    · simp_all
    · rw [hscan]
      rfl

/-! ## Attribute values -/

/-- The character that a piece of an attribute value stands for where no entities are declared. -/
def Piece.char? : Piece → Option Char
  | .character c => some (if isSpace c then ' ' else c)
  | .reference (.character value) _ => value
  | .reference (.entity name) _ => predefined? name

/-- A reference in an attribute value is one piece of it. -/
lemma scanValue_reference {quote : Char} (hquote : quote ≠ '&') {s rest : List Char}
    {target : Reference} (h : scanReference s = .found target rest) :
    scanValue quote ('&' :: s)
      = (scanValue quote rest).map (.reference target (s.length + 1) :: ·) := by
  have hpiece : scanPiece '&' s = .found (.reference target (s.length + 1)) rest := by
    rw [scanPiece, if_pos rfl, h]
    rfl
  rw [scanValue, if_neg hquote.symm]
  split
  all_goals simp_all

/-- A character in an attribute value is one piece of it. -/
lemma scanValue_character {quote c : Char} (hquote : c ≠ quote) (hamp : c ≠ '&') (hlt : c ≠ '<')
    (hc : isChar c = true) (rest : List Char) :
    scanValue quote (c :: rest) = (scanValue quote rest).map (.character c :: ·) := by
  have hpiece : scanPiece c rest = .found (.character c) rest := by
    rw [scanPiece, if_neg hamp, if_neg (by simp [hlt, hc])]
  rw [scanValue, if_neg hquote]
  split
  all_goals simp_all

/-- A character as written in an attribute value is read as one piece that stands for it. -/
lemma scanValue_escapeAttrChar {c : Char} (hc : isChar c = true) (rest : List Char) :
    ∃ piece, piece.char? = some c ∧
      scanValue '"' (escapeAttrChar c ++ rest) = (scanValue '"' rest).map (piece :: ·) := by
  -- an escaped character is written as a reference that stands for it
  have hreference : ∀ (s : List Char) (target : Reference), scanReference s = .found target rest →
      (∀ remaining, (Piece.reference target remaining).char? = some c) →
      ∃ piece, piece.char? = some c ∧
        scanValue '"' ('&' :: s) = (scanValue '"' rest).map (piece :: ·) := by
    intro s target hs htarget
    exact ⟨_, htarget _, scanValue_reference (by decide) hs⟩
  rw [escapeAttrChar.eq_def]
  split
  · exact hreference _ _ (scanReference_entity "amp".toList (by decide) rest) fun _ => rfl
  · exact hreference _ _ (scanReference_entity "lt".toList (by decide) rest) fun _ => rfl
  · exact hreference _ _ (scanReference_entity "gt".toList (by decide) rest) fun _ => rfl
  · exact hreference _ _ (scanReference_entity "quot".toList (by decide) rest) fun _ => rfl
  · exact hreference _ (.character (some '\r')) rfl fun _ => rfl
  · exact hreference _ (.character (some '\n')) rfl fun _ => rfl
  · exact hreference _ (.character (some '\t')) rfl fun _ => rfl
  · -- the layout characters but the blank are written as references
    rename_i hamp hlt _ hquote hreturn hfeed htab
    refine ⟨.character c, ?_, scanValue_character hquote hamp hlt hc rest⟩
    have hspace : isSpace c = true → c = ' ' := by
      simp only [isSpace, Bool.or_eq_true, decide_eq_true_eq]
      tauto
    rw [Piece.char?]
    split
    · rw [hspace ‹_›]
    · rfl

/-- A written attribute value is read as pieces that stand for its characters. -/
lemma scanValue_escapeAttr {value : List Char} (hvalue : ∀ c ∈ value, isChar c = true)
    (rest : List Char) :
    ∃ pieces, List.Forall₂ (fun piece c => piece.char? = some c) pieces value ∧
      scanValue '"' (escapeAttr value ++ '"' :: rest) = .found pieces rest := by
  induction value with
  | nil =>
    refine ⟨[], .nil, ?_⟩
    show scanValue '"' ('"' :: rest) = _
    rw [scanValue, if_pos rfl]
  | cons c value ih =>
    obtain ⟨hc, hvalue⟩ := List.forall_mem_cons.mp hvalue
    obtain ⟨pieces, hpieces, hscan⟩ := ih hvalue
    obtain ⟨piece, hpiece, hfirst⟩ :=
      scanValue_escapeAttrChar hc (escapeAttr value ++ '"' :: rest)
    refine ⟨piece :: pieces, .cons hpiece hpieces, ?_⟩
    have hcons : escapeAttr (c :: value) = escapeAttrChar c ++ escapeAttr value := rfl
    rw [hcons, List.append_assoc, hfirst, hscan]
    rfl

/-- Pieces that stand for characters are expanded to them where no entities are declared. -/
lemma attributeValue_of_char? {pieces : List Piece} {chars : List Char}
    (h : List.Forall₂ (fun piece c => piece.char? = some c) pieces chars) (opened : List String) :
    ({} : Doctype).attributeValue opened false pieces = .ok (String.ofList chars) := by
  refine bind_eq_ok.mpr ⟨chars, ?_, rfl⟩
  show ({} : Doctype).expand 1 opened pieces = _
  rw [Doctype.expand]
  refine bind_eq_ok.mpr ⟨chars.map fun c => [c], mapM_eq_ok_iff.mpr ?_, ?_⟩
  · refine List.forall₂_map_right_iff.mpr (h.imp ?_)
    intro piece c hpiece
    cases piece with
    | character d =>
      obtain rfl := Option.some.inj hpiece
      rfl
    | reference target remaining =>
      cases target with
      | character value =>
        obtain rfl : value = some c := hpiece
        rfl
      | entity name =>
        have hname : predefined? name = some c := hpiece
        simp only [hname]
  · rw [pure_eq_ok]
    exact List.flatMap_singleton' chars

/-! ## Attributes -/

/-- Whether an attribute as written stands for a name and a value where nothing is declared. -/
def RawAttribute.Spells (raw : RawAttribute) (a : String × String) : Prop :=
  raw.name = a.1 ∧ List.Forall₂ (fun piece c => piece.char? = some c) raw.value a.2.toList

lemma renderAttrs_cons (a : String × String) (attrs : Attributes) (rest : List Char) :
    renderAttrs (a :: attrs) ++ rest
      = ' ' :: (a.1.toList ++ '=' :: '"' :: (escapeAttr a.2.toList ++
          '"' :: (renderAttrs attrs ++ rest))) := by
  simp [renderAttrs]

/-- A written attribute is read up to its closing quote. -/
lemma scanAttribute_written {a : String × String} (hname : isName a.1.toList = true)
    (hvalue : ∀ c ∈ a.2.toList, isChar c = true) (rest : List Char) :
    ∃ raw : RawAttribute, raw.Spells a ∧
      scanAttribute (a.1.toList ++ '=' :: '"' :: (escapeAttr a.2.toList ++ '"' :: rest))
        = .found raw rest := by
  obtain ⟨pieces, hpieces, hscan⟩ := scanValue_escapeAttr hvalue rest
  generalize escapeAttr a.2.toList ++ '"' :: rest = s at hscan
  refine ⟨⟨a.1, (a.1.toList ++ '=' :: '"' :: s).length, pieces⟩, ⟨rfl, hpieces⟩, ?_⟩
  rw [scanAttribute, scanName_append hname (by simp; decide), String.ofList_toList]
  show (scanValue '"' s).map _ = _
  rw [hscan]
  rfl

/-- A blank and a name go on a start tag with an attribute. -/
lemma scanAttributes_blank {c : Char} (hc : isNameStart c = true) {s next : List Char}
    {given : RawAttribute} (h : scanAttribute (c :: s) = .found given next) :
    scanAttributes (' ' :: c :: s)
      = (scanAttributes next).map fun (others, closed) => (given :: others, closed) := by
  -- what begins a name is neither layout nor the end of a tag
  have hne : ∀ d : Char, isNameStart d = false → c ≠ d := by
    rintro d hd rfl
    exact absurd hc (by simp [hd])
  have hspace : isSpace c = false := by
    simp [isSpace, hne ' ' (by decide), hne '\t' (by decide), hne '\n' (by decide),
      hne '\r' (by decide)]
  have hskip : skipSpace (c :: s) = c :: s := List.dropWhile_cons_of_neg (by simp [hspace])
  rw [scanAttributes, if_neg (by decide), if_neg (by decide), if_pos (by decide)]
  split
  · simp_all
  · rename_i d after hd
    obtain ⟨rfl, rfl⟩ := List.cons.inj (hskip.symm.trans hd)
    rw [if_neg (by simp [hne '>' (by decide), hne '/' (by decide)])]
    split
    · simp_all
    · simp_all
    · simp_all

/-- Written attributes are read up to the end of the tag. -/
lemma scanAttributes_renderAttrs {attrs : Attributes} (hattrs : attrs.WellFormed)
    {tail rest : List Char} {closed : Bool}
    (htail : scanAttributes tail = .found ([], closed) rest) :
    ∃ raw, List.Forall₂ RawAttribute.Spells raw attrs ∧
      scanAttributes (renderAttrs attrs ++ tail) = .found (raw, closed) rest := by
  induction attrs with
  | nil => exact ⟨[], .nil, htail⟩
  | cons a attrs ih =>
    obtain ⟨hname, hvalue, hwf⟩ := hattrs.of_cons
    obtain ⟨others, hothers, hscan⟩ := ih hwf
    obtain ⟨raw, hraw, hgiven⟩ := scanAttribute_written hname hvalue (renderAttrs attrs ++ tail)
    refine ⟨raw :: others, .cons hraw hothers, ?_⟩
    rw [renderAttrs_cons]
    cases hlist : a.1.toList with
    | nil =>
      rw [hlist] at hname
      cases hname
    | cons c chars =>
      rw [hlist, isName, Bool.and_eq_true] at hname
      rw [hlist, List.cons_append] at hgiven
      rw [List.cons_append, scanAttributes_blank hname.1 hgiven, hscan]
      rfl

/-- What written attributes stand for is what an element gets. -/
lemma givenAttributes_of_spells {raw : List RawAttribute} {attrs : Attributes}
    (h : List.Forall₂ RawAttribute.Spells raw attrs) (hattrs : attrs.WellFormed)
    (opened : List String) (tag : String) {seen : List String} (hseen : ∀ a ∈ attrs, a.1 ∉ seen) :
    ({} : Doctype).givenAttributes opened tag seen raw = .ok attrs := by
  induction h generalizing seen with
  | nil => rfl
  | cons hspells _ ih =>
    rename_i raw a rest attrs _
    obtain ⟨hname, hvalue⟩ := hspells
    obtain ⟨ha, hseen⟩ := List.forall_mem_cons.mp hseen
    have hnodup := List.nodup_cons.mp hattrs.nodup
    -- no later name has been seen either, since no name occurs twice
    have hothers : ∀ b ∈ attrs, b.1 ∉ a.1 :: seen := by
      intro b hb hmem
      rcases List.mem_cons.mp hmem with heq | hmem
      · exact hnodup.1 (heq ▸ List.mem_map_of_mem hb)
      · exact hseen b hb hmem
    rw [Doctype.givenAttributes, hname, if_neg (by simpa using ha)]
    refine bind_eq_ok.mpr ⟨_, attributeValue_of_char? hvalue opened, ?_⟩
    refine bind_eq_ok.mpr ⟨attrs, ih hattrs.of_cons.2.2 hothers, ?_⟩
    rw [pure_eq_ok, String.ofList_toList]

/-- What written attributes stand for is what an element gets. -/
lemma attributes_of_spells {raw : List RawAttribute} {attrs : Attributes}
    (h : List.Forall₂ RawAttribute.Spells raw attrs) (hattrs : attrs.WellFormed)
    (opened : List String) (tag : String) :
    ({} : Doctype).attributes opened tag raw = .ok attrs := by
  refine bind_eq_ok.mpr ⟨attrs, givenAttributes_of_spells h hattrs opened tag (by simp), ?_⟩
  rw [pure_eq_ok]
  exact List.append_nil attrs

/-! ## Tags -/

/-- The end of a start tag as written. -/
def tagEnd (closed : Bool) : List Char :=
  if closed then " />".toList else ['>']

lemma render_element_nil (tag : String) (attrs : Attributes) (place : Option Position)
    (rest : List Char) :
    (Node.element tag attrs place []).render ++ rest
      = '<' :: (tag.toList ++ (renderAttrs attrs ++ (tagEnd true ++ rest))) := by
  simp [Node.render, tagEnd]

lemma render_element_cons (tag : String) (attrs : Attributes) (place : Option Position) (n : Node)
    (others : List Node) (rest : List Char) :
    (Node.element tag attrs place (n :: others)).render ++ rest
      = '<' :: (tag.toList ++ (renderAttrs attrs ++ (tagEnd false ++
          (renderNodes (n :: others) ++ '<' :: '/' :: (tag.toList ++ '>' :: rest))))) := by
  simp [Node.render, renderNodes, tagEnd]

/-- The end of a tag is read back as no attributes. -/
lemma scanAttributes_tagEnd (closed : Bool) (rest : List Char) :
    scanAttributes (tagEnd closed ++ rest) = .found ([], closed) rest := by
  cases closed with
  | false =>
    show scanAttributes ('>' :: rest) = _
    rw [scanAttributes, if_pos rfl]
  | true =>
    have hslash : scanAttributes ('/' :: '>' :: rest) = .found ([], true) rest := by
      rw [scanAttributes, if_neg (by decide), if_pos rfl]
      rfl
    have hskip : skipSpace ('/' :: '>' :: rest) = '/' :: '>' :: rest := rfl
    show scanAttributes (' ' :: '/' :: '>' :: rest) = _
    rw [scanAttributes, if_neg (by decide), if_neg (by decide), if_pos (by decide)]
    split
    · simp_all
    · rename_i d after hd
      obtain ⟨rfl, rfl⟩ := List.cons.inj (hskip.symm.trans hd)
      rw [if_pos (by decide), hslash]

/-- A written start tag is read as one lexeme. -/
lemma next_startTag {tag : String} (htag : isName tag.toList = true) {attrs : Attributes}
    (hattrs : attrs.WellFormed) (closed : Bool) (rest : List Char) :
    ∃ raw, List.Forall₂ RawAttribute.Spells raw attrs ∧
      Lexeme.next '<' (tag.toList ++ (renderAttrs attrs ++ (tagEnd closed ++ rest)))
        = .found (.startTag tag raw closed) rest := by
  obtain ⟨raw, hraw, hscan⟩ :=
    scanAttributes_renderAttrs hattrs (scanAttributes_tagEnd closed rest)
  refine ⟨raw, hraw, ?_⟩
  -- a blank or a bracket ends the name of the tag
  have hhead : ∀ c ∈ (renderAttrs attrs ++ (tagEnd closed ++ rest)).head?,
      isNameChar c = false := by
    cases attrs with
    | nil => cases closed <;> simp [renderAttrs, tagEnd] <;> decide
    | cons a attrs =>
      rw [renderAttrs_cons]
      simp
      decide
  show scanMarkup _ = _
  rw [scanMarkup_of_startsTag (startsTag_of_isName htag _), scanStartTag,
    scanName_append htag hhead, String.ofList_toList]
  show (scanAttributes _).map _ = _
  rw [hscan]
  rfl

/-- A written end tag is read as one lexeme. -/
lemma next_endTag {tag : String} (htag : isName tag.toList = true) (rest : List Char) :
    Lexeme.next '<' ('/' :: (tag.toList ++ '>' :: rest)) = .found (.endTag tag) rest := by
  show scanEndTag _ = _
  rw [scanEndTag, scanName_append htag (by simp; decide), String.ofList_toList]
  rfl

/-! ## Comments and characters -/

/-- The body of a comment is read back if it does not hold the end of a comment. -/
lemma scanComment_append {body : List Char} (hchars : ∀ c ∈ body, isChar c = true)
    (hsafe : HyphenSafe body) (rest : List Char) :
    scanComment (body ++ '-' :: '-' :: '>' :: rest) = .found body rest := by
  induction body with
  | nil => rfl
  | cons c body ih =>
    obtain ⟨hc, hchars⟩ := List.forall_mem_cons.mp hchars
    obtain ⟨hfirst, hsafe⟩ := List.isChain_cons.mp hsafe
    -- two hyphens in front would stand inside the body or at its end
    have hopen : ∀ after, c = '-' → body ++ '-' :: '-' :: '>' :: rest = '-' :: after → False := by
      rintro after rfl hafter
      refine hfirst '-' ?_ ⟨rfl, rfl⟩
      cases body with
      | nil => rfl
      | cons d body => exact congrArg some (List.cons.inj hafter).1
    rw [List.cons_append, scanComment.eq_3 _ _ hopen, if_pos hc, ih hchars hsafe]
    rfl

/-- A written comment is read as one lexeme. -/
lemma next_comment {body : List Char} (hchars : ∀ c ∈ body, isChar c = true)
    (hsafe : HyphenSafe body) (rest : List Char) :
    Lexeme.next '<' ('!' :: '-' :: '-' :: (body ++ '-' :: '-' :: '>' :: rest))
      = .found (.comment body) rest := by
  show (scanComment _).map _ = _
  rw [scanComment_append hchars hsafe]
  rfl

/-- The character that a lexeme of content stands for where no entities are declared. -/
def Lexeme.char? : Lexeme → Option Char
  | .character c => some c
  | .reference (.character value) => value
  | .reference (.entity name) => predefined? name
  | _ => none

/-- A written character is read as one lexeme that stands for it, unless a closing bracket and what
follows it look like the end of a character section. -/
lemma next_escapeTextChar {c : Char} (hc : isChar c = true) {rest : List Char}
    (hrest : c = ']' → "]>".toList.isPrefixOf rest = false) :
    ∃ d s lexeme, escapeTextChar c ++ rest = d :: s ∧ lexeme.char? = some c ∧
      Lexeme.next d s = .found lexeme rest := by
  have hreference : ∀ (s : List Char) (target : Reference), scanReference s = .found target rest →
      Lexeme.next '&' s = .found (.reference target) rest := by
    intro s target hs
    show (scanReference s).map _ = _
    rw [hs]
    rfl
  rw [escapeTextChar.eq_def]
  split
  · have hamp := hreference _ _ (scanReference_entity "amp".toList (by decide) rest)
    exact ⟨_, _, _, rfl, by rfl, hamp⟩
  · have hlt := hreference _ _ (scanReference_entity "lt".toList (by decide) rest)
    exact ⟨_, _, _, rfl, by rfl, hlt⟩
  · have hgt := hreference _ _ (scanReference_entity "gt".toList (by decide) rest)
    exact ⟨_, _, _, rfl, by rfl, hgt⟩
  · rename_i hamp hlt _
    refine ⟨c, rest, .character c, rfl, rfl, ?_⟩
    have hsection : ¬ ((c = ']') && "]>".toList.isPrefixOf rest) = true := by
      simp only [Bool.and_eq_true, decide_eq_true_eq, not_and]
      intro hbracket
      rw [hrest hbracket]
      exact Bool.false_ne_true
    rw [Lexeme.next, if_neg hlt, if_neg hamp, if_neg hsection, if_pos hc]

/-- No tag ends in an escaped text. -/
lemma notMem_escapeText (value : List Char) : '>' ∉ escapeText value := by
  intro h
  obtain ⟨c, -, hc⟩ := List.mem_flatMap.mp h
  rw [escapeTextChar.eq_def] at hc
  split at hc
  · exact absurd hc (by decide)
  · exact absurd hc (by decide)
  · exact absurd hc (by decide)
  · rename_i hgt
    exact hgt (List.mem_singleton.mp hc).symm

/-- Written character data before a tag or a comment never looks like the end of a character
section. -/
lemma isPrefixOf_escapeText (value rest : List Char) :
    "]>".toList.isPrefixOf (escapeText value ++ '<' :: rest) = false := by
  rw [Bool.eq_false_iff]
  intro h
  obtain ⟨t, ht⟩ : [']', '>'] <+: escapeText value ++ '<' :: rest :=
    List.isPrefixOf_iff_prefix.mp h
  have hgt := notMem_escapeText value
  -- the second character would have to be a written `>`
  match hwritten : escapeText value with
  | [] => simp [hwritten] at ht
  | [c] => simp [hwritten] at ht
  | c :: d :: written =>
    rw [hwritten] at ht hgt
    obtain ⟨-, hrest⟩ := List.cons.inj ht
    obtain ⟨rfl, -⟩ := List.cons.inj hrest
    exact hgt (by simp)

end DocComment.Markup
