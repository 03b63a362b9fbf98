import DocComment.Proofs.Steps
import DocComment.Yaml.Token.Scalars
import Mathlib.Algebra.Group.Nat.Defs
import Mathlib.Data.List.Induction
import Mathlib.Data.List.Infix
import Mathlib.Data.List.TakeWhile

/-!
# How reading a token can end

What is read at a place ends at a place behind it. If it cannot be read, the text is no document, or
it holds a number that is larger or longer than numbers may be: an escape beyond all code points or
too many decimal digits in a row. The bytes of the text play no part any longer.

* `hasExcess`: whether a text holds such a number;
* `ReadsIn`: how reading in a text ends;
* `endsBehindToken_tagToken`, `readsIn_anchorName`, `endsBehindToken_directiveToken`,
  `endsBehindToken_quotedScalar`, `endsBehindToken_blockScalar`: how the tokens are read.
-/

namespace DocComment.Yaml

open Text

/-! ## Places -/

namespace Cursor

variable {c c' c'' : Cursor}

/-- Whether a place lies behind another one, or is the same. -/
def Behind (c' c : Cursor) : Prop :=
  c'.rest <:+ c.rest

lemma Behind.refl (c : Cursor) : c.Behind c :=
  List.suffix_refl c.rest

lemma Behind.trans (h : c''.Behind c') (h' : c'.Behind c) : c''.Behind c :=
  List.IsSuffix.trans h h'

/-- Stepping on takes a character from the text, whatever it does to line and column. -/
lemma rest_next (c : Cursor) : c.next.rest = c.rest.tail := by
  rw [next]
  split
  · rename_i hrest
    rw [hrest]
    rfl
  · rename_i ch rest hrest
    rw [hrest]
    split
    · rfl
    · split
      · rfl
      · rfl

lemma behind_next (c : Cursor) : c.next.Behind c := by
  rw [Behind, rest_next]
  exact List.tail_suffix c.rest

lemma rest_advance (c : Cursor) (n : Nat) : (c.advance n).rest = c.rest.drop n := by
  induction n generalizing c with
  | zero => rfl
  | succ n ih => rw [advance, ih, rest_next, List.drop_tail]

lemma behind_advance (c : Cursor) (n : Nat) : (c.advance n).Behind c := by
  rw [Behind, rest_advance]
  exact List.drop_suffix n c.rest

lemma behind_takeWhile (c : Cursor) (p : Char → Bool) : (c.takeWhile p).2.Behind c :=
  behind_advance c _

lemma behind_skipWhile (c : Cursor) (p : Char → Bool) : (c.skipWhile p).Behind c :=
  behind_advance c _

/-- A line break is taken whole or not at all. -/
lemma behind_takeBreak (c : Cursor) : c.takeBreak.2.Behind c := by
  rw [takeBreak]
  split
  · exact behind_advance c 2
  · split
    · exact behind_next c
    · split
      · exact behind_next c
      · exact Behind.refl c
  · exact Behind.refl c

/-- The character ahead begins what is left, unless it is the one beyond the end. -/
lemma exists_rest_eq_cons {ch : Char} (h : c.peek 0 = ch) (hch : ch ≠ endChar) :
    c.rest = ch :: c.next.rest := by
  rw [peek, List.drop_zero] at h
  rw [rest_next]
  cases hrest : c.rest with
  | nil =>
    rw [hrest] at h
    exact absurd h.symm hch
  | cons d rest =>
    rw [hrest] at h
    exact congrArg (· :: rest) h

/-- Before the end of a printable text, the character ahead is not the one beyond the end. -/
lemma peek_ne_endChar (hprintable : ∀ ch ∈ c.rest, isPrintable ch = true) (hrest : c.rest ≠ []) :
    c.peek 0 ≠ endChar := by
  intro hend
  rw [peek, List.drop_zero] at hend
  cases hcons : c.rest with
  | nil => exact hrest hcons
  | cons ch rest =>
    have hch : isPrintable ch = true := hprintable ch (hcons ▸ List.mem_cons_self)
    rw [hcons, List.headD_cons] at hend
    rw [hend] at hch
    exact absurd hch (by decide)

end Cursor

/-! ## Numbers beyond all bounds -/

/-- Whether a text begins with an escape whose number is beyond all code points. -/
def startsOverlarge : List Char → Bool
  | '\\' :: 'U' :: rest =>
    let digits := rest.take 8
    digits.length = 8 && digits.all isHexDigit && 0x110000 ≤ numberOf 16 digits
  | _ => false

/-- Whether a text begins with more decimal digits than a number may have. -/
def startsOverlong (s : List Char) : Bool :=
  digitLimit < (s.takeWhile Char.isDigit).length

/-- Whether a text holds a number that is too large or too long. -/
def hasExcess (s : List Char) : Bool :=
  s.tails.any fun t => startsOverlarge t || startsOverlong t

lemma hasExcess_of_suffix {s t : List Char} (h : t <:+ s) (ht : hasExcess t = true) :
    hasExcess s = true := by
  obtain ⟨u, hu, hstarts⟩ := List.any_eq_true.mp ht
  have hmem : u ∈ s.tails := (List.mem_tails _ _).mpr (((List.mem_tails _ _).mp hu).trans h)
  exact List.any_eq_true.mpr ⟨u, hmem, hstarts⟩

lemma hasExcess_of_startsOverlarge {s : List Char} (h : startsOverlarge s = true) :
    hasExcess s = true :=
  List.any_eq_true.mpr ⟨s, (List.mem_tails _ _).mpr (List.suffix_refl s), by rw [h, Bool.true_or]⟩

lemma hasExcess_of_startsOverlong {s : List Char} (h : startsOverlong s = true) :
    hasExcess s = true :=
  List.any_eq_true.mpr ⟨s, (List.mem_tails _ _).mpr (List.suffix_refl s), by rw [h, Bool.or_true]⟩

/-! ## How reading ends -/

/-- How reading may fail: the text is no document, or a value is bad, for which there must be an
excuse. -/
def MayFail (excuse : BadValue → Prop) : LoadError → Prop
  | .malformed _ => True
  | .badValue cause => excuse cause
  | .undecodable _ => False

lemma ends_malformed {α : Type} {excuse : BadValue → Prop} {P : α → Prop} (cause : Malformed) :
    Ends (MayFail excuse) P (malformed cause) := trivial

/-- How reading in a text may fail: there must be an excess in it for a bad value. -/
abbrev MayFailIn (s : List Char) : LoadError → Prop :=
  MayFail fun _ => hasExcess s = true

lemma MayFailIn.of_suffix {s t : List Char} {e : LoadError} (h : MayFailIn t e)
    (hsuffix : t <:+ s) : MayFailIn s e := by
  cases e with
  | malformed cause => trivial
  | badValue cause => exact hasExcess_of_suffix hsuffix h
  | undecodable cause => exact h

/-- Reading in a text ends with a result of some kind, or in a way that reading in it may fail. -/
abbrev ReadsIn {α : Type} (s : List Char) (P : α → Prop) (x : Except LoadError α) : Prop :=
  Ends (MayFailIn s) P x

lemma ReadsIn.of_suffix {α : Type} {s t : List Char} {P : α → Prop} {x : Except LoadError α}
    (h : ReadsIn t P x) (hsuffix : t <:+ s) : ReadsIn s P x :=
  Ends.mono h (fun _ he => he.of_suffix hsuffix) fun _ ha => ha

/-- Reading at a place ends behind it. -/
abbrev EndsBehind {α : Type} (c : Cursor) (x : Except LoadError (α × Cursor)) : Prop :=
  ReadsIn c.rest (fun r => r.2.Behind c) x

/-- Reading a token at a place gives one that does not end the stream, and ends behind it. -/
abbrev EndsBehindToken (c : Cursor) (x : Except LoadError (Token × Cursor)) : Prop :=
  ReadsIn c.rest (fun r => r.1 ≠ .streamEnd ∧ r.2.Behind c) x

/-! ## Names -/

lemma readsIn_ignoreLine (s : List Char) (c : Cursor) (cause : Malformed) :
    ReadsIn s (·.Behind c) (ignoreLine c cause) := by
  have hblanks := c.behind_skipWhile (· = ' ')
  rw [ignoreLine]
  refine ends_ite (fun _ => ends_ok ?_) fun _ => ends_malformed _
  refine (Cursor.behind_takeBreak _).trans ?_
  split
  · exact (Cursor.behind_skipWhile _ _).trans hblanks
  · exact hblanks

lemma readsIn_escapedBytes (s chars : List Char) :
    ReadsIn s (fun _ => True) (escapedBytes chars) := by
  fun_induction escapedBytes chars with
  | case1 a b rest hdigits ih => exact ends_bind ih fun _ _ => trivial
  | case2 => exact ends_malformed _
  | case3 => exact ends_malformed _
  | case4 => trivial

lemma readsIn_escapedText (s : List Char) (c : Cursor) :
    ReadsIn s (fun r => r.2.Behind c) (escapedText c) := by
  rw [escapedText]
  refine ends_bind (readsIn_escapedBytes s c.rest) fun ⟨bytes, count⟩ _ => ?_
  dsimp only
  split
  · exact c.behind_advance count
  · exact ends_malformed _

/-- A tag is read in parts, escaped and not, as long as there are any. -/
lemma readsIn_tagText (s : List Char) (fuel : Nat) (c : Cursor) :
    ReadsIn s (fun r => r.2.Behind c) (tagText fuel c) := by
  induction fuel generalizing c with
  | zero => exact Cursor.Behind.refl c
  | succ fuel ih =>
    rw [tagText]
    refine ends_ite (fun _ => ?_) fun _ => ?_
    · refine ends_bind (readsIn_escapedText s c) fun ⟨chars, c'⟩ hbehind => ?_
      exact ends_bind (ih c') fun ⟨more, c''⟩ hmore => hmore.trans hbehind
    · have htaken := c.behind_takeWhile fun ch => isTagChar ch && ch ≠ '%'
      split
      · rename_i c' htake
        rw [htake] at htaken
        exact htaken
      · rename_i chars c' _ htake
        rw [htake] at htaken
        exact ends_bind (ih c') fun ⟨more, c''⟩ hmore => hmore.trans htaken

lemma readsIn_tagSuffix (s : List Char) (c : Cursor) :
    ReadsIn s (fun r => r.2.Behind c) (tagSuffix c) := by
  rw [tagSuffix]
  refine ends_ite (fun _ => ends_malformed _) fun _ => ?_
  exact ends_bind (readsIn_tagText s _ c) fun ⟨chars, c'⟩ hbehind => hbehind

/-- A handle is one mark or two with a name in between. -/
lemma readsIn_tagHandle (s : List Char) (c : Cursor) :
    ReadsIn s (fun r => r.2.Behind c) (tagHandle c) := by
  rw [tagHandle]
  refine ends_ite (fun _ => ends_malformed _) fun _ => ?_
  refine ends_ite (fun _ => c.behind_next) fun _ => ?_
  have hname := (c.next.behind_takeWhile isNameChar).trans c.behind_next
  refine ends_ite (fun _ => ?_) fun _ => ends_malformed _
  exact (Cursor.behind_next _).trans hname

/-- A tag is a verbatim one, a single mark, one with a handle or one without. -/
lemma endsBehindToken_tagToken (c : Cursor) : EndsBehindToken c (tagToken c) := by
  -- a tag counts only if a blank follows it
  have hend {handle : Option String} {suffix : String} {after : Cursor} (h : after.Behind c) :
      EndsBehindToken c (if isSpaceOrEnd (after.peek 0) then pure (Token.tag handle suffix, after)
        else malformed .badTag) :=
    ends_ite (fun _ => ⟨nofun, h⟩) fun _ => ends_malformed _
  rw [tagToken]
  refine ends_ite (fun _ => ?_) fun _ => ends_ite (fun _ => ?_) fun _ =>
    ends_ite (fun _ => ?_) fun _ => ?_
  · refine ends_bind (readsIn_tagSuffix _ (c.advance 2)) fun ⟨suffix, after⟩ hafter => ?_
    refine ends_ite (fun _ => hend ?_) fun _ => ends_malformed _
    exact (after.behind_next.trans hafter).trans (c.behind_advance 2)
  · exact hend c.behind_next
  · refine ends_bind (readsIn_tagHandle _ c) fun ⟨handle, middle⟩ hmiddle => ?_
    refine ends_bind (readsIn_tagSuffix _ middle) fun ⟨suffix, after⟩ hafter => ?_
    exact hend (hafter.trans hmiddle)
  · refine ends_bind (readsIn_tagSuffix _ c.next) fun ⟨suffix, after⟩ hafter => ?_
    exact hend (hafter.trans c.behind_next)

lemma readsIn_anchorName (s : List Char) (c : Cursor) :
    ReadsIn s (fun r => r.2.Behind c) (anchorName c) := by
  have hname := (c.next.behind_takeWhile isNameChar).trans c.behind_next
  rw [anchorName]
  split
  · exact ends_malformed _
  · rename_i name after _ htake
    rw [htake] at hname
    exact ends_ite (fun _ => hname) fun _ => ends_malformed _

/-! ## Directives -/

/-- Digits of a version that are too many are an excess of the text. -/
lemma endsBehind_directiveNumber (c : Cursor) : EndsBehind c (directiveNumber c) := by
  have hdigits := c.behind_takeWhile Char.isDigit
  rw [directiveNumber]
  split
  · exact ends_malformed _
  · rename_i digits after _ htake
    rw [htake] at hdigits
    have htaken : c.rest.takeWhile Char.isDigit = digits := congrArg Prod.fst htake
    have hchecked : ReadsIn c.rest (fun _ => True)
        ((Numeral.checkDigits digits).mapError LoadError.badValue) := by
      rw [Numeral.checkDigits]
      split
      · rename_i error herror
        refine hasExcess_of_startsOverlong ?_
        rw [tooManyDigits?, ← htaken, List.takeWhile_idem] at herror
        split at herror
        · exact decide_eq_true ‹_›
        · cases herror
      · trivial
    exact ends_bind hchecked fun _ _ => hdigits

lemma endsBehindToken_versionValue (c : Cursor) : EndsBehindToken c (versionValue c) := by
  have hblanks := c.behind_skipWhile (· = ' ')
  rw [versionValue]
  refine ends_bind ((endsBehind_directiveNumber _).of_suffix hblanks) fun ⟨major, c'⟩ hmajor => ?_
  have hmiddle := c'.behind_next.trans (hmajor.trans hblanks)
  refine ends_ite (fun _ => ends_malformed _) fun _ => ?_
  refine ends_bind ((endsBehind_directiveNumber _).of_suffix hmiddle) fun ⟨minor, c''⟩ hminor => ?_
  exact ends_ite (fun _ => ⟨nofun, hminor.trans hmiddle⟩) fun _ => ends_malformed _

lemma endsBehindToken_tagDirectiveValue (c : Cursor) :
    EndsBehindToken c (tagDirectiveValue c) := by
  have hblanks := c.behind_skipWhile (· = ' ')
  rw [tagDirectiveValue]
  refine ends_bind (readsIn_tagHandle _ _) fun ⟨handle, c'⟩ hhandle => ?_
  have hmiddle := (c'.behind_skipWhile (· = ' ')).trans (hhandle.trans hblanks)
  refine ends_ite (fun _ => ends_malformed _) fun _ => ?_
  refine ends_bind (readsIn_tagSuffix _ _) fun ⟨expansion, c''⟩ hexpansion => ?_
  exact ends_ite (fun _ => ⟨nofun, hexpansion.trans hmiddle⟩) fun _ => ends_malformed _

/-- A directive tells a version or a handle, or is passed over with its line. -/
lemma endsBehindToken_directiveToken (c : Cursor) : EndsBehindToken c (directiveToken c) := by
  have hname := (c.next.behind_takeWhile isNameChar).trans c.behind_next
  rw [directiveToken]
  generalize c.next.takeWhile isNameChar = taken at hname
  obtain ⟨name, c'⟩ := taken
  -- what follows the value of a directive is the end of its line
  have hline {token : Token} {after : Cursor} (h : token ≠ .streamEnd ∧ after.Behind c') :
      EndsBehindToken c (do
        let c ← ignoreLine after .badDirective
        return (token, c)) :=
    ends_bind (readsIn_ignoreLine _ after _) fun last hlast =>
      ⟨h.1, (hlast.trans h.2).trans hname⟩
  refine ends_ite (fun _ => ends_malformed _) fun _ => ?_
  refine ends_ite (fun _ => ?_) fun _ => ends_ite (fun _ => ?_) fun _ => ?_
  · exact ends_bind ((endsBehindToken_versionValue c').of_suffix hname) fun _ h => hline h
  · exact ends_bind ((endsBehindToken_tagDirectiveValue c').of_suffix hname) fun _ h => hline h
  · exact hline ⟨nofun, c'.behind_skipWhile _⟩

/-! ## Quoted scalars -/

lemma readsIn_quotedBreaks (s : List Char) (fuel : Nat) (c : Cursor) :
    ReadsIn s (fun r => r.2.Behind c) (quotedBreaks fuel c) := by
  induction fuel generalizing c with
  | zero => exact Cursor.Behind.refl c
  | succ fuel ih =>
    have hblanks := c.behind_skipWhile fun ch => ch = ' ' || ch = '\t'
    rw [quotedBreaks]
    refine ends_ite (fun _ => ends_malformed _) fun _ => ends_ite (fun _ => ?_) fun _ => ?_
    · have hbreak := (Cursor.behind_takeBreak _).trans hblanks
      exact ends_bind (ih _) fun ⟨more, c'⟩ hmore => hmore.trans hbreak
    · exact hblanks

/-- A hexadecimal digit stands for less than its base. -/
lemma digitValue_lt {c : Char} (h : isHexDigit c = true) : digitValue c < 16 := by
  rw [digitValue]
  split
  · rename_i hdigit
    have hnine : c.toNat ≤ '9'.toNat := of_decide_eq_true (Bool.and_eq_true_iff.mp hdigit).2
    have hbounds : '9'.toNat - '0'.toNat < 16 := by decide
    omega
  · rename_i hdigit
    rw [isHexDigit, Bool.not_eq_true _ |>.mp hdigit, Bool.false_or] at h
    split
    · rename_i hlower
      have hlast : c.toNat ≤ 'f'.toNat := of_decide_eq_true (Bool.and_eq_true_iff.mp hlower).2
      have hbounds : 'f'.toNat - 'a'.toNat + 10 < 16 := by decide
      omega
    · rename_i hlower
      rw [Bool.not_eq_true _ |>.mp hlower, Bool.false_or] at h
      have hlast : c.toNat ≤ 'F'.toNat := of_decide_eq_true (Bool.and_eq_true_iff.mp h).2
      have hbounds : 'F'.toNat - 'A'.toNat + 10 < 16 := by decide
      omega

/-- A number of hexadecimal digits is less than the power of their base. -/
lemma numberOf_lt {digits : List Char} (h : digits.all isHexDigit = true) :
    numberOf 16 digits < 16 ^ digits.length := by
  induction digits using List.reverseRecOn with
  | nil => decide
  | append_singleton ds d ih =>
    rw [List.all_append, Bool.and_eq_true] at h
    have hds := ih h.1
    have hd := digitValue_lt (List.all_eq_true.mp h.2 d List.mem_cons_self)
    rw [List.length_append, List.length_singleton, Nat.pow_succ, numberOf, List.foldl_append]
    show numberOf 16 ds * 16 + digitValue d < _
    omega

/-- Only an escape with eight digits can be beyond all code points. -/
lemma readsIn_checkPoint {ch : Char} {length : Nat} {rest : List Char}
    (hlength : escapeLength? ch = some length)
    (hdigits : ((rest.take length).length = length && (rest.take length).all isHexDigit) = true) :
    ReadsIn ('\\' :: ch :: rest) (fun _ => True) (checkPoint (numberOf 16 (rest.take length))) := by
  have hbound := numberOf_lt (Bool.and_eq_true_iff.mp hdigits).2
  have hcount : (rest.take length).length = length :=
    of_decide_eq_true (Bool.and_eq_true_iff.mp hdigits).1
  rw [hcount] at hbound
  have hexcess (hlarge : ¬ numberOf 16 (rest.take length) < 0x110000) :
      hasExcess ('\\' :: ch :: rest) = true := by
    refine hasExcess_of_startsOverlarge ?_
    -- two and four digits stay below the bound
    rw [escapeLength?.eq_def] at hlength
    split at hlength
    · obtain rfl := Option.some.inj hlength
      omega
    · obtain rfl := Option.some.inj hlength
      omega
    · obtain rfl := Option.some.inj hlength
      rw [startsOverlarge, hdigits]
      exact decide_eq_true (Nat.le_of_not_lt hlarge)
    · cases hlength
  rw [checkPoint]
  split
  · trivial
  · split
    · exact hexcess ‹_›
    · exact hexcess ‹_›

/-- An escape that stands for no code point is an excess of the text at the backslash. -/
lemma readsIn_escapeSequence {s : List Char} {c : Cursor} (hs : s = '\\' :: c.rest) :
    ReadsIn s (fun r => r.2.Behind c) (escapeSequence c) := by
  rw [escapeSequence]
  dsimp only
  split
  · exact c.behind_next
  · rename_i length _ hlength
    refine ends_ite (fun hdigits => ?_) fun _ => ends_malformed _
    -- at the end of the text no escape has a length
    have hch : c.peek 0 ≠ endChar := by
      intro hend
      rw [hend] at hlength
      cases hlength
    rw [hs, Cursor.exists_rest_eq_cons rfl hch]
    refine ends_bind (readsIn_checkPoint hlength hdigits) fun _ _ => ?_
    exact (Cursor.behind_advance _ _).trans c.behind_next
  · refine ends_ite (fun _ => ?_) fun _ => ends_malformed _
    refine ends_bind (readsIn_quotedBreaks _ _ _) fun ⟨breaks, c'⟩ hbreaks => ?_
    exact hbreaks.trans c.behind_takeBreak

lemma readsIn_quotedSpaces (s : List Char) (c : Cursor) :
    ReadsIn s (fun r => r.2.Behind c) (quotedSpaces c) := by
  have hblanks := c.behind_takeWhile fun ch => ch = ' ' || ch = '\t'
  rw [quotedSpaces]
  generalize (c.takeWhile fun ch => ch = ' ' || ch = '\t') = taken at hblanks
  obtain ⟨blanks, c'⟩ := taken
  refine ends_ite (fun _ => ends_malformed _) fun _ => ends_ite (fun _ => ?_) fun _ => ?_
  · have hbreak := c'.behind_takeBreak.trans hblanks
    exact ends_bind (readsIn_quotedBreaks _ _ _) fun ⟨more, c''⟩ hmore => hmore.trans hbreak
  · exact hblanks

/-- A quoted text is read part by part until its closing quote. -/
lemma endsBehind_quotedText (isDouble : Bool) (fuel : Nat) (c : Cursor) :
    EndsBehind c (quotedText isDouble fuel c) := by
  induction fuel generalizing c with
  | zero => exact ends_malformed _
  | succ fuel ih =>
    -- each part is followed by the others
    have hmore {points : CodePoints} {c' : Cursor} (h : c'.Behind c) :
        EndsBehind c (do
          let more ← quotedText isDouble fuel c'
          return (points ++ more.1, more.2)) :=
      ends_bind ((ih c').of_suffix h) fun more hmore => hmore.trans h
    rw [quotedText]
    refine ends_ite (fun _ => hmore (c.behind_takeWhile _)) fun _ => ?_
    refine ends_ite (fun _ => hmore (c.behind_advance 2)) fun _ => ?_
    refine ends_ite (fun _ => hmore c.behind_next) fun _ => ?_
    refine ends_ite (fun hescape => ?_) fun _ => ?_
    · have hslash : c.peek 0 = '\\' := of_decide_eq_true (Bool.and_eq_true_iff.mp hescape).2
      have hrest := Cursor.exists_rest_eq_cons hslash (by decide)
      refine ends_bind (readsIn_escapeSequence hrest) fun points hpoints => ?_
      exact hmore (hpoints.trans c.behind_next)
    · refine ends_ite (fun _ => c.behind_next) fun _ => ?_
      exact ends_bind (readsIn_quotedSpaces _ c) fun chars hchars => hmore hchars

lemma endsBehindToken_quotedScalar (c : Cursor) : EndsBehindToken c (quotedScalar c) := by
  rw [quotedScalar]
  refine ends_bind ((endsBehind_quotedText _ _ c.next).of_suffix c.behind_next)
    fun ⟨points, after⟩ hafter => ?_
  exact ⟨nofun, hafter.trans c.behind_next⟩

/-! ## Plain and block scalars -/

/-- Line breaks in a plain scalar are taken with the blanks before them. -/
lemma behind_plainBreaks (fuel : Nat) (c : Cursor) : (plainBreaks fuel c).2.Behind c := by
  induction fuel generalizing c with
  | zero => exact Cursor.Behind.refl c
  | succ fuel ih =>
    have hblanks := c.behind_skipWhile (· = ' ')
    rw [plainBreaks]
    split
    · exact Cursor.Behind.refl c
    · dsimp only
      split
      · exact (ih _).trans ((Cursor.behind_takeBreak _).trans hblanks)
      · exact hblanks

/-- Blanks and line breaks in a plain scalar end behind where they begin. -/
lemma behind_plainSpaces (c : Cursor) : (plainSpaces c).2.1.Behind c := by
  have hblanks := c.behind_takeWhile (· = ' ')
  rw [plainSpaces]
  generalize c.takeWhile (· = ' ') = taken at hblanks
  obtain ⟨blanks, c'⟩ := taken
  dsimp only
  split
  · have hbreaks := (behind_plainBreaks (c'.takeBreak.2.rest.length + 1) c'.takeBreak.2).trans
      (c'.behind_takeBreak.trans hblanks)
    split
    · rename_i hfound
      rw [hfound] at hbreaks
      exact hbreaks
    · rename_i hfound
      rw [hfound] at hbreaks
      exact hbreaks
  · exact hblanks

/-- The text of a plain scalar ends behind where it begins, blanks included only if more follows. -/
lemma behind_plainText (inFlow : Bool) (indent : Int) (fuel : Nat) (spaces : List Char)
    (atLineStart : Bool) (c : Cursor) :
    (plainText inFlow indent fuel spaces atLineStart c).2.1.Behind c := by
  induction fuel generalizing spaces atLineStart c with
  | zero => exact Cursor.Behind.refl c
  | succ fuel ih =>
    rw [plainText]
    generalize (if c.peek 0 = '#' then 0 else plainLength inFlow c.rest) = length
    dsimp only
    split
    · exact Cursor.Behind.refl c
    · have hspaces := (behind_plainSpaces (c.advance length)).trans (c.behind_advance length)
      split
      · exact hspaces
      · exact (ih _ _ _).trans hspaces

lemma readsIn_indentDigit (s : List Char) (c : Cursor) :
    ReadsIn s (fun r => r.2.Behind c) (indentDigit? c) := by
  rw [indentDigit?]
  refine ends_ite (fun _ => ?_) fun _ => Cursor.Behind.refl c
  exact ends_ite (fun _ => ends_malformed _) fun _ => c.behind_next

lemma behind_chompingSign (c : Cursor) : (chompingSign c).2.Behind c := by
  rw [chompingSign]
  split
  · exact c.behind_next
  · split
    · exact c.behind_next
    · exact Cursor.Behind.refl c

/-- The two signs of a block header may come in either order, and the line must end behind them. -/
lemma readsIn_blockHeader (s : List Char) (c : Cursor) :
    ReadsIn s (fun r => r.2.Behind c) (blockHeader c) := by
  have hline {chomping : Chomping} {increment : Option Nat} {c' : Cursor} (h : c'.Behind c) :
      ReadsIn s (fun r => r.2.Behind c)
        (if !isSpaceOrEnd (c'.peek 0) then malformed .badBlockHeader
        else do
          let c ← ignoreLine c' .badBlockHeader
          return ((chomping, increment), c)) := by
    refine ends_ite (fun _ => ends_malformed _) fun _ => ?_
    exact ends_bind (readsIn_ignoreLine s c' _) fun last hlast => hlast.trans h
  rw [blockHeader]
  refine ends_ite (fun _ => ?_) fun _ => ?_
  · refine ends_bind (readsIn_indentDigit s _) fun ⟨increment, c'⟩ hincrement => ?_
    exact hline (hincrement.trans (behind_chompingSign c))
  · refine ends_bind (readsIn_indentDigit s c) fun ⟨increment, c'⟩ hincrement => ?_
    dsimp only
    split
    · exact hline ((behind_chompingSign c').trans hincrement)
    · exact hline hincrement

/-- Finding out the indentation of a block takes the blank lines in front of it. -/
lemma behind_blockIndentation (fuel deepest : Nat) (c : Cursor) :
    (blockIndentation fuel deepest c).2.2.Behind c := by
  induction fuel generalizing deepest c with
  | zero => exact Cursor.Behind.refl c
  | succ fuel ih =>
    rw [blockIndentation]
    dsimp only
    split
    · exact (ih _ _).trans c.behind_next
    · split
      · exact (ih _ _).trans c.behind_takeBreak
      · exact Cursor.Behind.refl c

lemma behind_blockBreaks (indent fuel : Nat) (c : Cursor) :
    (blockBreaks indent fuel c).2.Behind c := by
  induction fuel generalizing c with
  | zero => exact Cursor.Behind.refl c
  | succ fuel ih =>
    have hindent : (skipIndent indent c).Behind c := c.behind_advance _
    rw [blockBreaks]
    dsimp only
    split
    · exact (ih _).trans ((Cursor.behind_takeBreak _).trans hindent)
    · exact hindent

/-- The lines of a block are taken as long as they are indented. -/
lemma behind_blockLines (isFolded : Bool) (indent fuel : Nat) (breaks : List Char) (c : Cursor) :
    (blockLines isFolded indent fuel breaks c).2.2.2.Behind c := by
  induction fuel generalizing breaks c with
  | zero => exact Cursor.Behind.refl c
  | succ fuel ih =>
    rw [blockLines]
    split
    · exact Cursor.Behind.refl c
    · have hline := (Cursor.behind_takeBreak _).trans (c.behind_takeWhile (!isLineEnd ·))
      have hbreaks := (behind_blockBreaks indent
        ((c.takeWhile (!isLineEnd ·)).2.takeBreak.2.rest.length + 1) _).trans hline
      dsimp only
      split
      · exact (ih _ _).trans hbreaks
      · exact hbreaks

/-- A block scalar is read with the indentation that its header tells, or with that of its first
line. -/
lemma endsBehindToken_blockScalar (isFolded : Bool) (outer : Int) (c : Cursor) :
    EndsBehindToken c (blockScalar isFolded outer c) := by
  rw [blockScalar]
  refine ends_bind (readsIn_blockHeader _ c.next) fun ⟨⟨chomping, increment⟩, c'⟩ hheader => ?_
  have hstart := hheader.trans c.behind_next
  dsimp only
  cases increment with
  | none =>
    dsimp only
    exact ends_pure ⟨nofun, (behind_blockLines _ _ _ _ _).trans
      ((behind_blockIndentation _ _ c').trans hstart)⟩
  | some n =>
    dsimp only
    exact ends_pure ⟨nofun, (behind_blockLines _ _ _ _ _).trans
      ((behind_blockBreaks _ _ c').trans hstart)⟩

end DocComment.Yaml
