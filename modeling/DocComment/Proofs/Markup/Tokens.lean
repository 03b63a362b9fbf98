import DocComment.Markup.Doctype.Token
import DocComment.Markup.Lexeme
import Mathlib.Data.List.Chain
import Mathlib.Tactic.Common

/-!
# What the readers of tokens find

Each reader accepts only characters that may stand in a document, and names only where a name may
stand. Here this is said once for every reader whose finds end up in a tree:

* `Scan.Finds` is what holds of every token that a reader finds, with a rule for each way in which
  readers are put together;
* `isName` and `HyphenSafe` say what a name and the body of a comment look like;
* `Lexeme.next_finds` and `Doctype.Token.next_finds` collect the finds of all readers.
-/

namespace DocComment.Markup

/-! ## Taking outcomes apart -/

namespace Scan

variable {α β : Type}

lemma map_eq_found {f : α → β} {scan : Scan α} {value : β} {rest : List Char} :
    scan.map f = found value rest ↔ ∃ a, scan = found a rest ∧ f a = value := by
  cases scan with
  | found a after =>
    simp only [map, found.injEq]
    constructor
    · rintro ⟨rfl, rfl⟩
      exact ⟨a, ⟨rfl, rfl⟩, rfl⟩
    · rintro ⟨_, ⟨rfl, rfl⟩, rfl⟩
      exact ⟨rfl, rfl⟩
  | invalid _ => simp [map]
  | incomplete => simp [map]

/-- What is read in two steps has been read in each. -/
lemma andThen_eq_found {scan : Scan α} {next : α → List Char → Scan β} {value : β}
    {rest : List Char} :
    scan.andThen next = found value rest
      ↔ ∃ a after, scan = found a after ∧ next a after = found value rest := by
  cases scan with
  | found a after => simp [andThen]
  | invalid _ => simp [andThen]
  | incomplete => simp [andThen]

/-- A character that is required is the next one. -/
lemma expect_eq_found {c : Char} {value value' : α} {s rest : List Char} :
    expect c value s = found value' rest ↔ s = c :: rest ∧ value = value' := by
  cases s with
  | nil => simp [expect]
  | cons d after =>
    rw [expect]
    by_cases hd : d = c
    · rw [if_pos hd, found.injEq, hd, List.cons.injEq]
      tauto
    · rw [if_neg hd]
      simp [hd]

/-- Whether a token that is found has a property. -/
def Finds (scan : Scan α) (P : α → Prop) : Prop :=
  ∀ value rest, scan = found value rest → P value

variable {P : α → Prop}

lemma finds_found {value : α} {rest : List Char} (h : P value) : (found value rest).Finds P := by
  intro _ _ heq
  obtain ⟨rfl, -⟩ := found.inj heq
  exact h

lemma finds_invalid (rest : List Char) : (invalid rest : Scan α).Finds P := by
  intro _ _ heq
  cases heq

lemma finds_incomplete : (incomplete : Scan α).Finds P := by
  intro _ _ heq
  cases heq

lemma finds_map {Q : β → Prop} {f : α → β} {scan : Scan α} (h : scan.Finds fun a => Q (f a)) :
    (scan.map f).Finds Q := by
  intro value rest heq
  obtain ⟨a, hfound, rfl⟩ := map_eq_found.mp heq
  exact h a rest hfound

lemma finds_andThen {Q : β → Prop} {scan : Scan α} {next : α → List Char → Scan β}
    (hscan : scan.Finds P) (hnext : ∀ a rest, P a → (next a rest).Finds Q) :
    (scan.andThen next).Finds Q := by
  intro value rest heq
  obtain ⟨a, after, hfound, heq⟩ := andThen_eq_found.mp heq
  exact hnext a after (hscan a after hfound) value rest heq

lemma finds_expect {c : Char} {value : α} {s : List Char} (h : P value) :
    (expect c value s).Finds P := by
  intro _ rest heq
  obtain ⟨-, rfl⟩ := expect_eq_found.mp heq
  exact h

lemma finds_ite {p : Prop} [Decidable p] {a b : Scan α} (ha : p → a.Finds P)
    (hb : ¬ p → b.Finds P) : (if p then a else b).Finds P := by
  split
  · exact ha ‹_›
  · exact hb ‹_›

lemma finds_true (scan : Scan α) : scan.Finds fun _ => True :=
  fun _ _ _ => trivial

end Scan

/-! ## Names -/

/-- Whether a text is a name. -/
def isName : List Char → Bool
  | [] => false
  | c :: rest => isNameStart c && rest.all isNameChar

/-- A character that can neither begin nor continue a name stands in none. -/
lemma notMem_of_isName {c : Char} (hstart : isNameStart c = false) (hchar : isNameChar c = false)
    {name : List Char} (h : isName name = true) : c ∉ name := by
  cases name with
  | nil => exact List.not_mem_nil
  | cons d rest =>
    obtain ⟨hd, hrest⟩ := Bool.and_eq_true_iff.mp h
    intro hmem
    rcases List.mem_cons.mp hmem with rfl | hmem
    · rw [hstart] at hd
      cases hd
    · have hc := List.all_eq_true.mp hrest c hmem
      rw [hchar] at hc
      cases hc

lemma isName_cons_takeWhile {c : Char} (hc : isNameStart c = true) (s : List Char) :
    isName (String.ofList (c :: s.takeWhile isNameChar)).toList = true := by
  rw [String.toList_ofList, isName, hc, List.all_takeWhile]
  rfl

/-- What is read as a name is one. -/
lemma scanName_finds (s : List Char) :
    (scanName s).Finds fun name => isName name.toList = true := by
  cases s with
  | nil => exact Scan.finds_incomplete
  | cons c after =>
    refine Scan.finds_ite (fun hc => ?_) fun _ => Scan.finds_invalid _
    exact Scan.finds_found (isName_cons_takeWhile hc after)

/-! ## References and attribute values -/

/-- A numeric reference stands for a character that may stand in a document. -/
lemma isChar_of_charOfCode? {code : Nat} {c : Char} (h : charOfCode? code = some c) :
    isChar c = true := by
  rw [charOfCode?, Option.dite_none_right_eq_some] at h
  obtain ⟨hvalid, h⟩ := h
  obtain ⟨hchar, h⟩ := Option.ite_none_right_eq_some.mp h
  obtain rfl := Option.some.inj h
  exact hchar

/-- A reference to a character is to one that may stand in a document. -/
def Reference.Proper : Reference → Prop
  | .character (some c) => isChar c = true
  | _ => True

lemma scanNumber_finds (base : Nat) (isDigit : Char → Bool) (s : List Char) :
    (scanNumber base isDigit s).Finds Reference.Proper := by
  rw [scanNumber]
  split
  · exact Scan.finds_incomplete
  · exact Scan.finds_invalid _
  · apply Scan.finds_expect
    generalize Text.numberOf base _ = code
    cases hcode : charOfCode? code with
    | none => trivial
    | some c => exact isChar_of_charOfCode? hcode

lemma scanReference_finds (s : List Char) : (scanReference s).Finds Reference.Proper := by
  rw [scanReference.eq_def]
  split
  · exact scanNumber_finds _ _ _
  · exact scanNumber_finds _ _ _
  · exact Scan.finds_andThen (Scan.finds_true _) fun _ _ _ => Scan.finds_expect trivial

/-- A piece of an attribute value holds only characters that may stand in a document. -/
def Piece.Proper : Piece → Prop
  | .character c => isChar c = true
  | .reference target _ => target.Proper

lemma scanPiece_finds (c : Char) (rest : List Char) : (scanPiece c rest).Finds Piece.Proper := by
  refine Scan.finds_ite (fun _ => Scan.finds_map (scanReference_finds rest)) fun _ => ?_
  refine Scan.finds_ite (fun _ => Scan.finds_invalid _) fun hchar => ?_
  simp only [Bool.or_eq_true, Bool.not_eq_true', not_or, Bool.not_eq_false] at hchar
  exact Scan.finds_found hchar.2

lemma scanValue_finds (quote : Char) (s : List Char) :
    (scanValue quote s).Finds fun pieces => ∀ piece ∈ pieces, piece.Proper := by
  fun_induction scanValue quote s with
  | case1 => exact Scan.finds_incomplete
  | case2 => exact Scan.finds_found (by simp)
  | case3 c rest _ piece after hpiece ih =>
    have hproper := scanPiece_finds c rest piece after hpiece
    apply Scan.finds_map
    intro others _ hothers
    exact List.forall_mem_cons.mpr ⟨hproper, ih others _ hothers⟩
  | case4 => exact Scan.finds_invalid _
  | case5 => exact Scan.finds_incomplete

/-- An attribute as written has a name and a value of proper pieces. -/
def RawAttribute.Proper (a : RawAttribute) : Prop :=
  isName a.name.toList = true ∧ ∀ piece ∈ a.value, piece.Proper

/-- An attribute that is found is proper. -/
lemma scanAttribute_finds (s : List Char) : (scanAttribute s).Finds RawAttribute.Proper := by
  refine Scan.finds_andThen (scanName_finds s) fun name afterName hname => ?_
  refine Scan.finds_andThen (Scan.finds_true _) fun _ afterSign _ => ?_
  split
  · exact Scan.finds_incomplete
  · refine Scan.finds_ite (fun _ => Scan.finds_map ?_) fun _ => Scan.finds_invalid _
    intro pieces _ hpieces
    exact ⟨hname, scanValue_finds _ _ pieces _ hpieces⟩

/-- All attributes of a tag that is found are proper. -/
lemma scanAttributes_finds (s : List Char) :
    (scanAttributes s).Finds fun found => ∀ a ∈ found.1, a.Proper := by
  fun_induction scanAttributes s with
  | case1 => exact Scan.finds_incomplete
  | case2 => exact Scan.finds_found (by simp)
  | case3 => exact Scan.finds_expect (by simp)
  | case4 => exact Scan.finds_incomplete
  | case5 c rest _ _ _ d after _ _ ih => exact ih
  | case6 c rest _ _ _ d after _ _ given next hgiven ih =>
    have hproper := scanAttribute_finds _ given next hgiven
    apply Scan.finds_map
    rintro ⟨others, closed⟩ _ hothers
    exact List.forall_mem_cons.mpr ⟨hproper, ih _ _ hothers⟩
  | case7 => exact Scan.finds_invalid _
  | case8 => exact Scan.finds_incomplete
  | case9 => exact Scan.finds_invalid _

/-! ## Comments -/

/-- A text that can stand in a comment as far as its hyphens go: no two stand next to each other,
and the last character is none. -/
def HyphenSafe (s : List Char) : Prop :=
  (s ++ ['-']).IsChain fun a b => ¬ (a = '-' ∧ b = '-')

/-- What is read as a comment ends at the first two hyphens. -/
lemma scanComment_eq_found {s rest body : List Char} (h : scanComment s = .found body rest) :
    s = body ++ '-' :: '-' :: '>' :: rest ∧ (∀ c ∈ body, isChar c = true) ∧ HyphenSafe body := by
  fun_induction scanComment s generalizing body rest with
  | case1 => cases h
  | case2 after =>
    obtain ⟨rfl, rfl⟩ := Scan.expect_eq_found.mp h
    exact ⟨rfl, by simp, List.isChain_singleton _⟩
  | case3 c after hhyphens hchar ih =>
    obtain ⟨others, hothers, rfl⟩ := Scan.map_eq_found.mp h
    obtain ⟨rfl, hchars, hsafe⟩ := ih hothers
    refine ⟨rfl, ?_, ?_⟩
    · intro d hd
      rcases List.mem_cons.mp hd with rfl | hd
      · exact hchar
      · exact hchars d hd
    · -- two hyphens at the front would have ended the comment
      rw [HyphenSafe, List.cons_append]
      refine List.isChain_cons.mpr ⟨?_, hsafe⟩
      rintro d hd ⟨rfl, rfl⟩
      cases others with
      | nil => exact hhyphens _ rfl rfl
      | cons e others =>
        obtain rfl : e = '-' := by simpa using hd
        exact hhyphens _ rfl rfl
  | case4 => cases h

/-! ## Lexemes -/

/-- A lexeme of content holds only names where names stand and characters of documents elsewhere. -/
def Lexeme.Proper : Lexeme → Prop
  | .character c => isChar c = true
  | .reference target => target.Proper
  | .startTag name attributes _ => isName name.toList = true ∧ ∀ a ∈ attributes, a.Proper
  | .comment body => (∀ c ∈ body, isChar c = true) ∧ HyphenSafe body
  | _ => True

/-- What is found behind an angle bracket is proper, whatever its kind. -/
lemma scanMarkup_finds (s : List Char) : (scanMarkup s).Finds Lexeme.Proper := by
  rw [scanMarkup.eq_def]
  split
  · refine Scan.finds_andThen (Scan.finds_true _) fun _ after _ => Scan.finds_map ?_
    intro body _ hbody
    exact (scanComment_eq_found hbody).2
  · refine Scan.finds_ite (fun _ => Scan.finds_incomplete) fun _ => ?_
    exact Scan.finds_map fun _ _ _ => trivial
  · exact Scan.finds_incomplete
  · exact Scan.finds_invalid _
  · apply Scan.finds_map
    intro instruction _ _
    cases instruction <;> trivial
  · exact Scan.finds_andThen (Scan.finds_true _) fun _ _ _ => Scan.finds_expect trivial
  · refine Scan.finds_andThen (scanName_finds _) fun name after hname => Scan.finds_map ?_
    rintro ⟨attributes, closed⟩ _ hattributes
    exact ⟨hname, scanAttributes_finds _ _ _ hattributes⟩

/-- What is read as a lexeme is proper. -/
theorem Lexeme.next_finds (c : Char) (rest : List Char) : (next c rest).Finds Lexeme.Proper := by
  refine Scan.finds_ite (fun _ => scanMarkup_finds rest) fun _ => ?_
  refine Scan.finds_ite (fun _ => Scan.finds_map (scanReference_finds rest)) fun _ => ?_
  refine Scan.finds_ite (fun _ => Scan.finds_invalid _) fun _ => ?_
  exact Scan.finds_ite (fun hchar => Scan.finds_found hchar) fun _ => Scan.finds_invalid _

/-- The body of a character section holds characters of documents. -/
lemma isChar_of_scanSection {s body rest : List Char} (h : scanSection s = .ok (body, rest)) :
    ∀ c ∈ body, isChar c = true := by
  fun_induction scanSection s generalizing body rest with
  | case1 => cases h
  | case2 => cases h
  | case3 => cases h
  | case4 => cases h; simp
  | case5 c tail _ _ _ hchar others after hothers ih =>
    cases h
    intro d hd
    rcases List.mem_cons.mp hd with rfl | hd
    · exact hchar
    · exact ih hothers d hd
  | case6 => cases h
  | case7 => cases h

/-! ## Tokens outside the root element -/

namespace Doctype

/-- A token that does not begin the root element; if it is a name it holds one. -/
def Token.Plain : Token → Prop
  | .name value => isName value.toList = true
  | .rootStart => False
  | _ => True

/-- Whether a text begins as a tag may go on after its `<`. -/
def StartsTag : List Char → Prop
  | [] => False
  | c :: _ => isKeywordChar c = true ∨ 0x80 ≤ c.toNat

lemma scanNames_finds (c : Char) (rest : List Char) : (scanNames c rest).Finds Token.Plain := by
  refine Scan.finds_ite (fun _ => Scan.finds_invalid _) fun _ => ?_
  have htoken : Token.Plain (if isNameStart c then
      .name (String.ofList (c :: rest.takeWhile isNameChar)) else .nameToken) := by
    split
    · exact isName_cons_takeWhile ‹_› rest
    · trivial
  dsimp only
  split
  · exact Scan.finds_found htoken
  · refine Scan.finds_ite (fun _ => Scan.finds_found htoken) fun _ => ?_
    exact Scan.finds_ite (fun _ => Scan.finds_found trivial) fun _ => Scan.finds_invalid _

/-- The opening of a declaration is a plain token. -/
lemma scanDeclaration_finds (s : List Char) : (scanDeclaration s).Finds Token.Plain := by
  rw [scanDeclaration.eq_def]
  split
  · exact Scan.finds_incomplete
  · exact Scan.finds_andThen (Scan.finds_true _) fun _ _ _ => Scan.finds_map fun _ _ _ => trivial
  · exact Scan.finds_found trivial
  · refine Scan.finds_ite (fun _ => Scan.finds_invalid _) fun _ => ?_
    dsimp only
    split
    · exact Scan.finds_incomplete
    · exact Scan.finds_incomplete
    · exact Scan.finds_ite (fun _ => Scan.finds_invalid _) fun _ => Scan.finds_found trivial
    · exact Scan.finds_ite (fun _ => Scan.finds_found trivial) fun _ => Scan.finds_invalid _

/-- What an angle bracket begins is a plain token, or the start tag of the root. -/
lemma scanOpen_finds (s : List Char) :
    (scanOpen s).Finds fun token => token.Plain ∨ token = .rootStart ∧ StartsTag s := by
  rw [scanOpen.eq_def]
  split
  · exact Scan.finds_incomplete
  · rename_i rest
    exact fun token after h => Or.inl (scanDeclaration_finds rest token after h)
  · exact Scan.finds_map fun _ _ _ => Or.inl trivial
  · refine Scan.finds_ite (fun hstart => Scan.finds_found (Or.inr ⟨rfl, ?_⟩))
      fun _ => Scan.finds_invalid _
    simpa [StartsTag] using hstart

lemma scanPercent_finds (s : List Char) : (scanPercent s).Finds Token.Plain := by
  cases s with
  | nil => exact Scan.finds_incomplete
  | cons c rest =>
    refine Scan.finds_ite (fun _ => Scan.finds_found trivial) fun _ => ?_
    exact Scan.finds_andThen (Scan.finds_true _) fun _ _ _ => Scan.finds_expect trivial

lemma scanCloseBracket_finds (s : List Char) : (scanCloseBracket s).Finds Token.Plain := by
  rw [scanCloseBracket.eq_def]
  split
  · exact Scan.finds_incomplete
  · exact Scan.finds_found trivial
  · exact Scan.finds_found trivial

lemma scanCloseParen_finds (s : List Char) : (scanCloseParen s).Finds Token.Plain := by
  cases s with
  | nil => exact Scan.finds_found trivial
  | cons c rest =>
    refine Scan.finds_ite (fun _ => Scan.finds_found trivial) fun _ => ?_
    exact Scan.finds_ite (fun _ => Scan.finds_found trivial) fun _ => Scan.finds_invalid _

lemma scanHashName_finds (s : List Char) : (scanHashName s).Finds Token.Plain := by
  refine Scan.finds_andThen (Scan.finds_true _) fun name rest _ => ?_
  cases rest with
  | nil => exact Scan.finds_found trivial
  | cons c after =>
    exact Scan.finds_ite (fun _ => Scan.finds_found trivial) fun _ => Scan.finds_invalid _

/-- What is read as a token outside the root element is plain or begins the root element. -/
theorem Token.next_finds (c : Char) (rest : List Char) :
    (next c rest).Finds fun token =>
      token.Plain ∨ token = .rootStart ∧ c = '<' ∧ StartsTag rest := by
  have plain {scan : Scan Token} (h : scan.Finds Token.Plain) :
      scan.Finds fun token => token.Plain ∨ token = .rootStart ∧ c = '<' ∧ StartsTag rest :=
    fun token after hfound => Or.inl (h token after hfound)
  refine Scan.finds_ite (fun _ => plain (Scan.finds_found trivial)) fun _ => ?_
  refine Scan.finds_ite (fun hc => ?_) fun _ => ?_
  · intro token after hfound
    exact (scanOpen_finds rest token after hfound).imp_right fun ⟨h, hstart⟩ => ⟨h, hc, hstart⟩
  refine Scan.finds_ite (fun _ => plain (Scan.finds_map fun _ _ _ => trivial)) fun _ => ?_
  refine Scan.finds_ite (fun _ => plain (scanPercent_finds rest)) fun _ => ?_
  refine Scan.finds_ite (fun _ => plain (Scan.finds_found trivial)) fun _ => ?_
  refine Scan.finds_ite (fun _ => plain (Scan.finds_found trivial)) fun _ => ?_
  refine Scan.finds_ite (fun _ => plain (scanCloseBracket_finds rest)) fun _ => ?_
  refine Scan.finds_ite (fun _ => plain (Scan.finds_found trivial)) fun _ => ?_
  refine Scan.finds_ite (fun _ => plain (scanCloseParen_finds rest)) fun _ => ?_
  refine Scan.finds_ite (fun _ => plain (Scan.finds_found trivial)) fun _ => ?_
  refine Scan.finds_ite (fun _ => plain (Scan.finds_found trivial)) fun _ => ?_
  refine Scan.finds_ite (fun _ => plain (scanHashName_finds rest)) fun _ => ?_
  exact plain (scanNames_finds c rest)

end Doctype

end DocComment.Markup
