import DocComment.CommentId
import Mathlib.Computability.Language
import Mathlib.Data.List.TFAE
import Mathlib.Tactic.TFAE

/-!
# The language of comment ids

Comment ids are described by a pattern: a kind letter, a colon, a run of characters that may begin an
identifier, and a run of characters that may stand in one. The two runs overlap, so the pattern can
match a text in many ways. Reading a comment id looks at the first three characters and then at each
of the others once, and still accepts the same texts.

* `ofString?_eq_some_iff`: reading undoes writing, and accepts nothing else;
* `mem_pattern_iff`: the pattern matches a text if it can be cut into its runs somewhere;
* `exists_cut_iff`: whether it can is told without looking for the cut;
* `ofString?_recognizes`: reading accepts exactly the texts of the pattern, and loses nothing.
-/

namespace DocComment.CommentId

open scoped Computability

/-! ## Reading and writing -/

/-- Whether a text is an identifier. -/
def IsIdentifier (s : List Char) : Prop :=
  ∃ head tail, s = head :: tail ∧ isHead head = true ∧ ∀ c ∈ tail, isTail c = true

lemma toList_raw (id : CommentId) :
    id.raw.toList = id.kind.letter :: ':' :: id.identifier.toList := by
  rw [raw, String.toList_ofList]

/-- Each kind has a letter of its own. -/
lemma ofLetter?_eq_some_iff {c : Char} {kind : Kind} :
    Kind.ofLetter? c = some kind ↔ c = kind.letter := by
  constructor
  · intro h
    unfold Kind.ofLetter? at h
    split at h <;> cases h <;> rfl
  · rintro rfl
    cases kind <;> rfl

/-- A text is read as a comment id if the id is written so and has an identifier. -/
theorem ofString?_eq_some_iff {s : String} {id : CommentId} :
    ofString? s = some id ↔ id.raw = s ∧ IsIdentifier id.identifier.toList := by
  constructor
  · intro h
    unfold ofString? at h
    split at h
    · rename_i letter head tail hs
      split at h
      · rename_i kind hkind
        split at h
        · rename_i hchars
          obtain ⟨hhead, htail⟩ := Bool.and_eq_true_iff.mp hchars
          obtain rfl := Option.some.inj h
          refine ⟨?_, head, tail, String.toList_ofList, hhead, List.all_eq_true.mp htail⟩
          rw [← String.toList_inj, toList_raw, hs, ofLetter?_eq_some_iff.mp hkind,
            String.toList_ofList]
        · cases h
      · cases h
    · cases h
  · rintro ⟨rfl, head, tail, hidentifier, hhead, htail⟩
    have hraw : id.raw.toList = id.kind.letter :: ':' :: head :: tail := by
      rw [toList_raw, hidentifier]
    have hchars : (isHead head && tail.all isTail) = true := by
      rw [hhead, List.all_eq_true.mpr htail]
      rfl
    have hkind : Kind.ofLetter? id.kind.letter = some id.kind := ofLetter?_eq_some_iff.mpr rfl
    simp only [ofString?, hraw, hkind, hchars, if_true]
    rw [← hidentifier, String.ofList_toList]

/-! ## Characters -/

/-- What may begin an identifier may also go on with it. -/
lemma isTail_of_isHead {c : Char} (h : isHead c = true) : isTail c = true := by
  unfold isHead at h
  unfold isTail
  rw [(Bool.and_eq_true_iff.mp h).1, Bool.true_or]

lemma isTail_of_isIdentifier {s : List Char} (h : IsIdentifier s) : ∀ c ∈ s, isTail c = true := by
  obtain ⟨head, tail, rfl, hhead, htail⟩ := h
  exact List.forall_mem_cons.mpr ⟨isTail_of_isHead hhead, htail⟩

/-- A comment id has no character that could not stand in an identifier. -/
lemma isTail_of_ofString? {s : String} {id : CommentId} (h : ofString? s = some id) :
    ∀ c ∈ s.toList, isTail c = true := by
  obtain ⟨rfl, hidentifier⟩ := ofString?_eq_some_iff.mp h
  have hletter : isTail id.kind.letter = true := by
    cases id.kind <;> decide
  rw [toList_raw]
  refine List.forall_mem_cons.mpr ⟨hletter, List.forall_mem_cons.mpr ⟨by decide, ?_⟩⟩
  exact isTail_of_isIdentifier hidentifier

/-! ## The pattern -/

/-- The texts of one character that passes a test. -/
def oneOf (p : Char → Bool) : Language Char :=
  {w | ∃ c, p c = true ∧ w = [c]}

/-- The letters that stand for kinds. -/
def kindLetters : List Char :=
  ['N', 'T', 'M', 'P', 'F', 'E']

/-- The texts that the pattern of comment ids matches. -/
def pattern : Language Char :=
  oneOf kindLetters.contains * oneOf (· == ':') * (oneOf isHead * (oneOf isHead)∗ * (oneOf isTail)∗)

lemma mem_oneOf {p : Char → Bool} {w : List Char} :
    w ∈ oneOf p ↔ ∃ c, p c = true ∧ w = [c] := Iff.rfl

/-- A repeated test passes for all characters of a text. -/
lemma mem_kstar_oneOf {p : Char → Bool} {w : List Char} :
    w ∈ (oneOf p)∗ ↔ ∀ c ∈ w, p c = true := by
  rw [Language.mem_kstar]
  constructor
  · rintro ⟨parts, rfl, hparts⟩ c hc
    obtain ⟨part, hpart, hc⟩ := List.mem_flatten.mp hc
    obtain ⟨d, hd, rfl⟩ := mem_oneOf.mp (hparts part hpart)
    obtain rfl := List.mem_singleton.mp hc
    exact hd
  · intro h
    refine ⟨w.map fun c => [c], by rw [← List.flatMap_def, List.flatMap_singleton'], ?_⟩
    intro part hpart
    obtain ⟨c, hc, rfl⟩ := List.mem_map.mp hpart
    exact ⟨c, h c hc, rfl⟩

/-- The pattern matches a text that can be cut into a letter, a colon and two runs. -/
lemma mem_pattern_iff {w : List Char} :
    w ∈ pattern ↔ ∃ letter u v, w = letter :: ':' :: (u ++ v) ∧ letter ∈ kindLetters ∧ u ≠ [] ∧
      (∀ c ∈ u, isHead c = true) ∧ ∀ c ∈ v, isTail c = true := by
  simp only [pattern, Language.mem_mul, mem_kstar_oneOf]
  constructor
  · rintro ⟨_, ⟨_, ⟨letter, hletter, rfl⟩, _, ⟨colon, hcolon, rfl⟩, rfl⟩, _,
      ⟨_, ⟨_, ⟨head, hhead, rfl⟩, more, hmore, rfl⟩, v, hv, rfl⟩, rfl⟩
    obtain rfl := beq_iff_eq.mp hcolon
    refine ⟨letter, head :: more, v, rfl, List.contains_iff_mem.mp hletter, by simp, ?_, hv⟩
    exact List.forall_mem_cons.mpr ⟨hhead, hmore⟩
  · rintro ⟨letter, u, v, rfl, hletter, hne, hu, hv⟩
    obtain ⟨head, more, rfl⟩ := List.exists_cons_of_ne_nil hne
    obtain ⟨hhead, hmore⟩ := List.forall_mem_cons.mp hu
    refine ⟨[letter, ':'], ⟨[letter], ⟨letter, List.contains_iff_mem.mpr hletter, rfl⟩,
      [':'], ⟨':', rfl, rfl⟩, rfl⟩, head :: more ++ v, ?_, rfl⟩
    exact ⟨head :: more, ⟨[head], ⟨head, hhead, rfl⟩, more, hmore, rfl⟩, v, hv, rfl⟩

/-- A text can be cut into the two runs exactly if its first character may begin an identifier and
all others may stand in one: behind the first character a cut is as good as any other. -/
lemma exists_cut_iff {s : List Char} :
    (∃ u v, s = u ++ v ∧ u ≠ [] ∧ (∀ c ∈ u, isHead c = true) ∧ ∀ c ∈ v, isTail c = true) ↔
      IsIdentifier s := by
  constructor
  · rintro ⟨u, v, rfl, hne, hu, hv⟩
    obtain ⟨head, more, rfl⟩ := List.exists_cons_of_ne_nil hne
    obtain ⟨hhead, hmore⟩ := List.forall_mem_cons.mp hu
    refine ⟨head, more ++ v, rfl, hhead, List.forall_mem_append.mpr ⟨?_, hv⟩⟩
    intro c hc
    exact isTail_of_isHead (hmore c hc)
  · rintro ⟨head, tail, rfl, hhead, htail⟩
    exact ⟨[head], tail, rfl, by simp, by simpa using hhead, htail⟩

lemma mem_kindLetters_iff {c : Char} : c ∈ kindLetters ↔ ∃ kind : Kind, kind.letter = c := by
  constructor
  · intro h
    have hall : kindLetters.all (fun letter => (Kind.ofLetter? letter).isSome) = true := by decide
    obtain ⟨kind, hkind⟩ := Option.isSome_iff_exists.mp (List.all_eq_true.mp hall c h)
    exact ⟨kind, (ofLetter?_eq_some_iff.mp hkind).symm⟩
  · rintro ⟨kind, rfl⟩
    cases kind <;> decide

/-- A text is read as a comment id if it is a kind letter, a colon and an identifier. -/
lemma isSome_ofString?_iff {s : String} :
    (ofString? s).isSome = true ↔
      ∃ letter identifier, s.toList = letter :: ':' :: identifier ∧ letter ∈ kindLetters ∧
        IsIdentifier identifier := by
  rw [Option.isSome_iff_exists]
  constructor
  · rintro ⟨id, h⟩
    obtain ⟨rfl, hidentifier⟩ := ofString?_eq_some_iff.mp h
    exact ⟨_, _, toList_raw id, mem_kindLetters_iff.mpr ⟨id.kind, rfl⟩, hidentifier⟩
  · rintro ⟨letter, identifier, hs, hletter, hidentifier⟩
    obtain ⟨kind, rfl⟩ := mem_kindLetters_iff.mp hletter
    refine ⟨⟨kind, String.ofList identifier⟩, ofString?_eq_some_iff.mpr ⟨?_, ?_⟩⟩
    · rw [← String.toList_inj, toList_raw, hs, String.toList_ofList]
    · rw [String.toList_ofList]
      exact hidentifier

/-! ## Comment ids -/

/-- **Reading recognizes the language of comment ids and loses nothing.** A text is accepted exactly
if the pattern matches it, that is if behind a kind letter and a colon it can be cut somewhere into a
run of heads, which is not empty, and a run of tails; and exactly if its third character is a head
and all later ones are tails. What is read has the kind of the first letter and the rest behind the
colon for its identifier; written again it is the text, and is read as before. No text that ends in a
line feed is accepted, and no two texts are read as the same comment id. -/
theorem ofString?_recognizes (s : String) :
    [(ofString? s).isSome = true,
      s.toList ∈ pattern,
      ∃ letter u v, s.toList = letter :: ':' :: (u ++ v) ∧ letter ∈ kindLetters ∧ u ≠ [] ∧
        (∀ c ∈ u, isHead c = true) ∧ ∀ c ∈ v, isTail c = true,
      ∃ letter head tail, s.toList = letter :: ':' :: head :: tail ∧ letter ∈ kindLetters ∧
        isHead head = true ∧ ∀ c ∈ tail, isTail c = true].TFAE ∧
    (∀ id, ofString? s = some id →
      s.toList.head? = some id.kind.letter ∧ id.identifier.toList = s.toList.drop 2 ∧
      id.raw = s ∧ ofString? id.raw = some id) ∧
    ofString? (s ++ "\n") = none ∧
    ∀ t, (ofString? s).isSome = true → ofString? t = ofString? s → t = s := by
  refine ⟨?_, fun id h => ?_, ?_, fun t hs ht => ?_⟩
  · tfae_have 2 ↔ 3 := mem_pattern_iff
    -- every head is a tail, so a cut behind the first head is as good as any other
    tfae_have 3 ↔ 4 := by
      constructor
      · rintro ⟨letter, u, v, hs, hletter, hcut⟩
        obtain ⟨head, tail, htext, hchars⟩ := exists_cut_iff.mp ⟨u, v, rfl, hcut⟩
        exact ⟨letter, head, tail, htext ▸ hs, hletter, hchars⟩
      · rintro ⟨letter, head, tail, hs, hletter, hchars⟩
        obtain ⟨u, v, htext, hcut⟩ := exists_cut_iff.mpr ⟨head, tail, rfl, hchars⟩
        exact ⟨letter, u, v, htext ▸ hs, hletter, hcut⟩
    tfae_have 1 ↔ 4 := by
      rw [isSome_ofString?_iff]
      constructor
      · rintro ⟨letter, _, hs, hletter, head, tail, rfl, hchars⟩
        exact ⟨letter, head, tail, hs, hletter, hchars⟩
      · rintro ⟨letter, head, tail, hs, hletter, hchars⟩
        exact ⟨letter, _, hs, hletter, head, tail, rfl, hchars⟩
    tfae_finish
  · obtain ⟨rfl, -⟩ := ofString?_eq_some_iff.mp h
    rw [toList_raw]
    exact ⟨rfl, rfl, rfl, h⟩
  · rw [Option.eq_none_iff_forall_ne_some]
    intro id h
    -- the line feed would be a tail
    have hfeed : isTail '\n' = true :=
      isTail_of_ofString? h '\n' (by simp [String.toList_append])
    exact absurd hfeed (by decide)
  · obtain ⟨id, hid⟩ := Option.isSome_iff_exists.mp hs
    obtain ⟨hraw, -⟩ := ofString?_eq_some_iff.mp hid
    obtain ⟨hraw', -⟩ := ofString?_eq_some_iff.mp (ht.trans hid)
    exact hraw'.symm.trans hraw

/-- The identifier of a generic method that begins with a numeral and holds a colon. -/
theorem ofString?_recognizes_genericMethod :
    "M:½.Map``1(C:D[])".toList ∈ pattern ∧
      ∀ id, ofString? "M:½.Map``1(C:D[])" = some id → id.raw = "M:½.Map``1(C:D[])" := by
  obtain ⟨hlanguage, hread, -⟩ := ofString?_recognizes "M:½.Map``1(C:D[])"
  exact ⟨(hlanguage.out 0 1).mp (by decide +kernel), fun id hid => (hread id hid).2.2.1⟩

end DocComment.CommentId
