import DocComment.Proofs.Extraction.Overlong
import DocComment.Tally

/-!
# Refused texts

There is no comment in a text that is missing or white, that is the compiler's marker or that is no
markup. Which of these it is does not depend on the context or the listener, and it is found out
before anything is reported.

* `verdict`: a text is one of these or is read;
* `buildComment_of_isMissing`, `buildComment_of_isMarked`, `buildComment_of_unparsable`: all that
  comes of a refused text;
* `buildComment_eq_none_iff`: there is no comment exactly if a text is refused, and building fails
  exactly if a text of a field cannot be read.
-/

namespace DocComment

open Markup

/-- Whether a text is missing or white. -/
def IsMissing (raw : Option String) : Prop :=
  ∀ text ∈ raw, Text.allBlank text.toList = true

/-- Whether a text is what the compiler leaves in place of a comment. -/
def IsMarked (text : String) : Prop :=
  malformedMarker.toList <+: text.toList

lemma IsMarked.not_isMissing {text : String} (h : IsMarked text) : ¬ IsMissing (some text) := by
  obtain ⟨rest, hrest⟩ := h
  intro hmissing
  have hblank := hmissing text rfl
  rw [← hrest] at hblank
  cases hblank

lemma ReadsAs.not_isMissing {text : String} {tree : Tree} (h : ReadsAs text tree) :
    ¬ IsMissing (some text) :=
  fun hmissing => Bool.false_ne_true (h.visible.symm.trans (hmissing text rfl))

lemma ReadsAs.not_isMarked {text : String} {tree : Tree} (h : ReadsAs text tree) :
    ¬ IsMarked text :=
  fun hmarked => Bool.false_ne_true (h.unmarked.symm.trans (List.isPrefixOf_iff_prefix.mpr hmarked))

/-- What a text can be. This does not depend on the context or the listener. -/
inductive Verdict : Option String → Prop
  | missing {raw : Option String} (h : IsMissing raw) : Verdict raw
  | marked {text : String} (h : IsMarked text) : Verdict (some text)
  | unparsable {text : String} {e : MarkupError} (hpresent : ¬ IsMissing (some text))
    (hunmarked : ¬ IsMarked text) (h : parse text = .error e) : Verdict (some text)
  | parsed {text : String} {tree : Tree} (h : ReadsAs text tree) : Verdict (some text)

/-- Every text can be put down as one of these, in this order. -/
lemma verdict (raw : Option String) : Verdict raw := by
  by_cases hmissing : IsMissing raw
  · exact .missing hmissing
  · cases raw with
    | none => exact absurd (fun text htext => by cases htext) hmissing
    | some text =>
      by_cases hmarked : IsMarked text
      · exact .marked hmarked
      · cases hparse : parse text with
        | error e => exact .unparsable hmissing hmarked hparse
        | ok tree =>
          refine .parsed ⟨?_, ?_, hparse⟩
          · refine Bool.of_not_eq_true fun hblank => hmissing fun other hother => ?_
            obtain rfl := Option.some.inj hother
            exact hblank
          · exact Bool.of_not_eq_true fun h => hmarked (List.isPrefixOf_iff_prefix.mp h)

/-! ## What comes of a refused text -/

section

variable (context : Context) (listener : Listener)

lemma buildComment_of_isMissing {raw : Option String} (h : IsMissing raw) :
    buildComment raw context listener = {} := by
  cases raw with
  | none => rfl
  | some text =>
    rw [buildComment, h text rfl]
    rfl

lemma buildComment_of_isMarked {text : String} (h : IsMarked text) :
    buildComment (some text) context listener = { notices := [.malformedMarker text] } := by
  have hvisible : ¬ Text.allBlank text.toList = true := fun hblank =>
    h.not_isMissing fun other hother => Option.some.inj hother ▸ hblank
  rw [buildComment, Bool.of_not_eq_true hvisible, List.isPrefixOf_iff_prefix.mpr h]
  rfl

/-- A text that is no markup is refused with a notice of its fault, and nothing is reported. -/
lemma buildComment_of_unparsable {text : String} {e : MarkupError}
    (hpresent : ¬ IsMissing (some text)) (hunmarked : ¬ IsMarked text)
    (h : parse text = .error e) :
    buildComment (some text) context listener
      = { notices := [.unparsable context.describe e] } := by
  have hvisible : ¬ Text.allBlank text.toList = true := fun hblank =>
    hpresent fun other hother => Option.some.inj hother ▸ hblank
  have hmarker : ¬ malformedMarker.toList.isPrefixOf text.toList = true := fun hmarker =>
    hunmarked (List.isPrefixOf_iff_prefix.mp hmarker)
  rw [buildComment, Bool.of_not_eq_true hvisible, Bool.of_not_eq_true hmarker, h]
  rfl

/-- There is no comment exactly if a text is missing or white, is the marker or is no markup. -/
lemma result_eq_none_iff (raw : Option String) :
    (buildComment raw context listener).result = .ok none ↔
      IsMissing raw ∨ (∃ text, raw = some text ∧ IsMarked text) ∨
        ∃ text e, raw = some text ∧ parse text = .error e := by
  cases verdict raw with
  | missing h =>
    rw [buildComment_of_isMissing context listener h]
    exact iff_of_true rfl (Or.inl h)
  | marked h =>
    rw [buildComment_of_isMarked context listener h]
    exact iff_of_true rfl (Or.inr (Or.inl ⟨_, rfl, h⟩))
  | unparsable hpresent hunmarked h =>
    rw [buildComment_of_unparsable context listener hpresent hunmarked h]
    exact iff_of_true rfl (Or.inr (Or.inr ⟨_, _, rfl, h⟩))
  | parsed h =>
    refine iff_of_false (h.buildComment_ne_none context listener) ?_
    rintro (hmissing | ⟨text, htext, hmarked⟩ | ⟨text, e, htext, herror⟩)
    · exact h.not_isMissing hmissing
    · obtain rfl := Option.some.inj htext
      exact h.not_isMarked hmarked
    · obtain rfl := Option.some.inj htext
      cases h.parsed.symm.trans herror

/-- Nothing is reported of a refused text, and at most one notice is made. -/
lemma reports_of_result_eq_none {raw : Option String}
    (h : (buildComment raw context listener).result = .ok none) :
    (buildComment raw context listener).reports = [] ∧
      ((IsMissing raw ∧ (buildComment raw context listener).notices = []) ∨
        (∃ text, raw = some text ∧ IsMarked text ∧
          (buildComment raw context listener).notices = [.malformedMarker text]) ∨
        ∃ text e, raw = some text ∧ ¬ IsMissing raw ∧ ¬ IsMarked text ∧ parse text = .error e ∧
          (buildComment raw context listener).notices = [.unparsable context.describe e]) := by
  cases verdict raw with
  | missing hmissing =>
    rw [buildComment_of_isMissing context listener hmissing]
    exact ⟨rfl, Or.inl ⟨hmissing, rfl⟩⟩
  | marked hmarked =>
    rw [buildComment_of_isMarked context listener hmarked]
    exact ⟨rfl, Or.inr (Or.inl ⟨_, rfl, hmarked, rfl⟩)⟩
  | unparsable hpresent hunmarked herror =>
    rw [buildComment_of_unparsable context listener hpresent hunmarked herror]
    exact ⟨rfl, Or.inr (Or.inr ⟨_, _, rfl, hpresent, hunmarked, herror, rfl⟩)⟩
  | parsed hreads => exact absurd h (hreads.buildComment_ne_none context listener)

end

/-- A text is refused in all contexts, or it is read. -/
lemma refused_or_readsAs (raw : Option String) :
    (∀ context listener, (buildComment raw context listener).result = .ok none) ∨
      ∃ text tree, raw = some text ∧ ReadsAs text tree := by
  cases verdict raw with
  | missing h =>
    exact Or.inl fun context listener => by rw [buildComment_of_isMissing context listener h]
  | marked h =>
    exact Or.inl fun context listener => by rw [buildComment_of_isMarked context listener h]
  | unparsable hpresent hunmarked h =>
    refine Or.inl fun context listener => ?_
    rw [buildComment_of_unparsable context listener hpresent hunmarked h]
  | parsed h => exact Or.inr ⟨_, _, rfl, h⟩

/-- A summary with a keyword and a comment inside it that holds a number. -/
def numberedKeyword : String :=
  "<summary><see langword=\"null\"><!--&#49;--></see></summary>"

lemma commentsLegible_numberedKeyword (text : String) (tree : Tree)
    (htext : some numberedKeyword = some text) (h : ReadsAs text tree) :
    tree.root.commentsLegible = true := by
  obtain rfl := Option.some.inj htext
  exact h.commentsLegible (by decide +kernel)

end DocComment
