import DocComment.Markup.Fragment
import DocComment.Proofs.Markup.Attributes
import Mathlib.Logic.Relation

/-!
# How a tree is constructed

Reading content changes the tree under construction in four ways only. `Builder.Step` lists them
with all that the readers of tokens guarantee, and `readContent_steps` says that a whole reading,
entities included, is a sequence of such steps. What each step keeps, every reading keeps.
-/

namespace DocComment.Markup

namespace Builder

/-! ## How many elements are open -/

@[simp] lemma depth_add (b : Builder) (n : Node) : (b.add n).depth = b.depth := by
  rw [add]
  split
  · rfl
  · rename_i hframes
    rw [depth, depth, hframes]
    rfl

@[simp] lemma depth_flush (b : Builder) : b.flush.depth = b.depth := by
  rw [flush]
  split
  · rfl
  · rw [depth_add]
    rfl

@[simp] lemma depth_characters (b : Builder) (s : List Char) :
    (b.characters s).depth = b.depth := rfl

@[simp] lemma depth_comment (b : Builder) (body : List Char) :
    (b.comment body).depth = b.depth := by
  rw [comment, depth_add, depth_flush]

@[simp] lemma depth_openElement (b : Builder) (tag : String) (attrs : Attributes)
    (place : Position) : (b.openElement tag attrs place).depth = b.depth + 1 := by
  show b.flush.depth + 1 = _
  rw [depth_flush]

/-- Closing takes one level off. -/
@[simp] lemma depth_closeElement (b : Builder) : b.closeElement.depth = b.depth - 1 := by
  rw [← depth_flush b, closeElement]
  split
  · rename_i hframes
    rw [depth, hframes]
    rfl
  · rename_i hframes
    rw [depth, depth, hframes]
    rfl
  · rename_i hframes
    rw [depth_add, depth, depth, hframes]
    rfl

/-! ## Steps -/

/-- One change of a tree under construction whose root is open. -/
inductive Step : Builder → Builder → Prop
  | character {b : Builder} (c : Char) (hopen : 0 < b.depth) (hc : isChar c = true) :
    Step b (b.character c)
  | comment {b : Builder} (body : List Char) (hopen : 0 < b.depth)
    (hchars : ∀ c ∈ body, isChar c = true) (hsafe : HyphenSafe body) :
    Step b (b.comment (Text.toLineFeeds body))
  | openElement {b : Builder} (tag : String) (attrs : Attributes) (place : Position)
    (hopen : 0 < b.depth) (htag : isName tag.toList = true) (hattrs : attrs.WellFormed) :
    Step b (b.openElement tag attrs place)
  | closeElement {b : Builder} (hopen : 0 < b.depth) : Step b b.closeElement

/-- Any number of steps. -/
abbrev Steps : Builder → Builder → Prop :=
  Relation.ReflTransGen Step

/-- What every step keeps, any number of steps keeps. -/
lemma Steps.invariant {I : Builder → Prop} (hstep : ∀ {b b'}, Step b b' → I b → I b')
    {b b' : Builder} (h : Steps b b') (hb : I b) : I b' := by
  induction h with
  | refl => exact hb
  | tail _ hlast ih => exact hstep hlast ih

lemma characters_cons (b : Builder) (c : Char) (s : List Char) :
    b.characters (c :: s) = (b.character c).characters s := by
  simp [characters, character]

/-- Characters are added one at a time. -/
lemma steps_characters {b : Builder} (hopen : 0 < b.depth) {s : List Char}
    (hs : ∀ c ∈ s, isChar c = true) : Steps b (b.characters s) := by
  induction s generalizing b with
  | nil => exact Relation.ReflTransGen.refl
  | cons c s ih =>
    obtain ⟨hc, hs⟩ := List.forall_mem_cons.mp hs
    rw [characters_cons]
    exact Relation.ReflTransGen.head (.character c hopen hc) (ih (b := b.character c) hopen hs)

/-- A start tag opens an element and may close it at once. -/
lemma steps_startTag {b b' : Builder} {scope : Scope} {tag : String} {raw : List RawAttribute}
    {closed : Bool} {here : Nat} (hrules : RulesWellFormed scope.doc.rules) (hopen : 0 < b.depth)
    (htag : isName tag.toList = true) (hraw : ∀ a ∈ raw, a.Proper)
    (h : b.startTag scope tag raw closed here = .ok b') : Steps b b' ∧ b.depth ≤ b'.depth := by
  rw [startTag] at h
  split at h
  · cases h
  · rename_i attrs hattrs
    have hwf := Doctype.attributes_wellFormed hrules scope.opened tag raw hraw hattrs
    have hfirst := Step.openElement tag attrs (scope.locate (scope.remaining here)) hopen htag hwf
    cases h
    cases closed with
    | false => exact ⟨.single hfirst, by simp⟩
    | true =>
      have hsecond := Step.closeElement (b := b.openElement tag attrs
        (scope.locate (scope.remaining here))) (by simp)
      exact ⟨.tail (.single hfirst) hsecond, by simp⟩

/-- An end tag closes the innermost element, which was opened in the same text. -/
lemma steps_endTag {b b' : Builder} {scope : Scope} {tag : String} {here : Nat}
    (hopen : 0 < b.depth) (hfloor : scope.floor ≤ b.depth)
    (h : b.endTag scope tag here = .ok b') : Steps b b' ∧ scope.floor ≤ b'.depth := by
  rw [endTag] at h
  split at h
  · cases h
  · split at h
    · cases h
    · rename_i hdepth
      split at h
      · cases h
        refine ⟨.single (.closeElement hopen), ?_⟩
        rw [depth_closeElement]
        omega
      · cases h

end Builder

open Builder

/-! ## Reading -/

/-- A way to read the text of an entity in place: it takes steps and closes what it opens. -/
def ReadsInPlace
    (expand : Scope → String → List Char → Nat → Builder → Except Failure Builder) : Prop :=
  ∀ scope name value here b b', RulesWellFormed scope.doc.rules → 0 < b.depth →
    expand scope name value here b = .ok b' → Steps b b' ∧ b'.depth = b.depth

variable {expand : Scope → String → List Char → Nat → Builder → Except Failure Builder}

/-- Reading content takes steps. Inside an entity it ends with as many open elements as it began
with. -/
theorem readContent_steps (hexpand : ReadsInPlace expand) {scope : Scope} (hrules : RulesWellFormed scope.doc.rules)
    {s rest : List Char} {b b' : Builder} (hopen : 0 < b.depth) (hfloor : scope.floor ≤ b.depth)
    (h : readContent expand scope s b = .ok (b', rest)) :
    Steps b b' ∧ (0 < scope.floor → b'.depth = scope.floor) := by
  fun_induction readContent expand scope s b with
  | case1 => cases h
  | case2 _ _ hdepth =>
    cases h
    exact ⟨.refl, fun _ => hdepth⟩
  | case3 => cases h
  | case4 => cases h
  | case5 => cases h
  | case6 b c rest' after d hnext _ ih =>
    have hd : isChar d = true := Lexeme.next_finds c rest' _ after hnext
    exact (ih hopen hfloor h).imp_left (.head (.character d hopen hd))
  | case7 b c rest' after d hnext _ ih =>
    have hd : isChar d = true := Lexeme.next_finds c rest' _ after hnext
    exact (ih hopen hfloor h).imp_left (.head (.character d hopen hd))
  | case8 => cases h
  | case9 b c rest' after name _ d hpredefined _ ih =>
    have hd : isChar d = true := isChar_of_predefined? hpredefined
    exact (ih hopen hfloor h).imp_left (.head (.character d hopen hd))
  | case10 _ _ _ _ _ _ _ _ _ _ ih => exact ih hopen hfloor h
  | case11 => cases h
  | case12 => cases h
  | case13 => cases h
  | case14 _ _ _ _ _ _ _ _ _ _ ih => exact ih hopen hfloor h
  | case15 => cases h
  | case16 b c rest' here after name _ _ _ value inner hinner _ _ ih =>
    obtain ⟨hsteps, hdepth⟩ := hexpand _ _ _ _ _ _ hrules hopen hinner
    exact (ih (by omega) (by omega) h).imp_left hsteps.trans
  | case17 => cases h
  | case18 b c rest' here after tag raw closed hnext inner hinner hdepth _ =>
    -- a start tag leaves the elements around it open
    obtain ⟨htag, hraw⟩ := Lexeme.next_finds c rest' _ after hnext
    have hle := (steps_startTag hrules hopen htag hraw hinner).2
    omega
  | case19 b c rest' here after tag raw closed hnext inner hinner _ _ ih =>
    obtain ⟨htag, hraw⟩ := Lexeme.next_finds c rest' _ after hnext
    obtain ⟨hsteps, hdepth⟩ := steps_startTag hrules hopen htag hraw hinner
    exact (ih (by omega) (by omega) h).imp_left hsteps.trans
  | case20 => cases h
  | case21 b c rest' here after tag hnext inner hinner hdepth _ =>
    obtain ⟨hsteps, hle⟩ := steps_endTag hopen hfloor hinner
    cases h
    exact ⟨hsteps, fun hpos => by omega⟩
  | case22 b c rest' here after tag hnext inner hinner hdepth _ ih =>
    obtain ⟨hsteps, hle⟩ := steps_endTag hopen hfloor hinner
    exact (ih (by omega) hle h).imp_left hsteps.trans
  | case23 b c rest' after body hnext _ ih =>
    obtain ⟨hchars, hsafe⟩ := Lexeme.next_finds c rest' _ after hnext
    have hstep := Step.comment body hopen hchars hsafe
    exact (ih (by rwa [depth_comment]) (by rwa [depth_comment]) h).imp_left (.head hstep)
  | case24 _ _ _ _ _ _ ih => exact ih hopen hfloor h
  | case25 => cases h
  | case26 => cases h
  | case27 b c rest' after hnext body next hsection _ ih =>
    have hsteps := steps_characters hopen (isChar_of_scanSection hsection)
    exact (ih hopen hfloor h).imp_left hsteps.trans

/-- Entities are read in place, however deep they stand inside each other. -/
theorem expandEntity_readsInPlace (depth : Nat) : ReadsInPlace (expandEntity depth) := by
  induction depth with
  | zero =>
    intro scope name value here b b' _ _ h
    cases h
  | succ depth ih =>
    intro scope name value here b b' hrules hopen h
    rw [expandEntity] at h
    obtain ⟨⟨inner, rest⟩, hread, rfl⟩ := map_eq_ok.mp h
    obtain ⟨hsteps, hdepth⟩ := readContent_steps ih (by exact hrules) hopen (by exact le_refl _)
      hread
    exact ⟨hsteps, hdepth hopen⟩

/-! ## Documents -/

/-- A prolog that is read ends where a tag may begin. -/
lemma readProlog_startsTag {doc doc' : Doctype} {state : Doctype.Expect} {s body : List Char}
    (h : Doctype.readProlog doc state s = .ok (doc', body)) :
    ∃ r, body = '<' :: r ∧ Doctype.StartsTag r := by
  fun_induction Doctype.readProlog doc state s with
  | case1 => cases h
  | case2 => cases h
  | case3 => cases h
  | case4 doc state c rest after hnext _ =>
    cases h
    rcases Doctype.Token.next_finds c rest _ after hnext with hplain | ⟨-, rfl, hstart⟩
    · exact hplain.elim
    · exact ⟨rest, rfl, hstart⟩
  | case5 => cases h
  | case6 => cases h
  | case7 _ _ _ _ _ _ _ _ _ _ _ ih => exact ih h

lemma ne_of_startsTag {c : Char} {rest : List Char} (h : Doctype.StartsTag (c :: rest)) :
    c ≠ '!' ∧ c ≠ '?' ∧ c ≠ '/' := by
  refine ⟨?_, ?_, ?_⟩ <;>
  · rintro rfl
    exact absurd h (by simp [Doctype.StartsTag, Doctype.isKeywordChar])

/-- Where a tag may begin, only a start tag is read. -/
lemma scanMarkup_of_startsTag {r : List Char} (h : Doctype.StartsTag r) :
    scanMarkup r = scanStartTag r := by
  cases r with
  | nil => exact h.elim
  | cons c rest =>
    obtain ⟨hbang, hquestion, hslash⟩ := ne_of_startsTag h
    rw [scanMarkup.eq_def]
    split <;> simp_all

/-- Where a tag may begin outside the root element, the root element begins. -/
lemma next_of_startsTag {r : List Char} (h : Doctype.StartsTag r) :
    Doctype.Token.next '<' r = .found .rootStart r := by
  show Doctype.scanOpen r = _
  cases r with
  | nil => exact h.elim
  | cons c rest =>
    obtain ⟨hbang, hquestion, -⟩ := ne_of_startsTag h
    rw [Doctype.scanOpen.eq_4 _ _ (by simp [hbang]) (by simp [hquestion]), if_pos]
    simpa [Doctype.StartsTag] using h

/-- A prolog ends where a tag may begin, if the root element may stand there. -/
lemma readProlog_rootStart {r : List Char} (h : Doctype.StartsTag r) (doc : Doctype)
    (state : Doctype.Expect) :
    Doctype.readProlog doc state ('<' :: r)
      = if state.allowsRoot then .ok (doc, '<' :: r) else .error ⟨.unexpected, r.length + 1⟩ := by
  have hnext := next_of_startsTag h
  rw [Doctype.readProlog]
  grind

/-- Content that can be read begins with a lexeme. -/
lemma exists_next_of_readContent {scope : Scope} {c : Char} {rest : List Char} {b : Builder}
    {result : Builder × List Char}
    (h : readContent expand scope (c :: rest) b = .ok result) :
    ∃ lexeme after, Lexeme.next c rest = .found lexeme after := by
  cases hnext : Lexeme.next c rest with
  | found lexeme after => exact ⟨lexeme, after, rfl⟩
  | invalid bad =>
    rw [readContent] at h
    grind [Scope.fail]
  | incomplete =>
    rw [readContent] at h
    grind [Scope.fail]

/-- Reading goes on after a start tag unless it has closed the root. -/
lemma readContent_startTag {scope : Scope} {c : Char} {rest after : List Char} {tag : String}
    {raw : List RawAttribute} {closed : Bool} (hnext : Lexeme.next c rest = .found (.startTag tag raw closed) after)
    (b : Builder) :
    readContent expand scope (c :: rest) b
      = (b.startTag scope tag raw closed (rest.length + 1)).bind fun b' =>
          if b'.depth = 0 then .ok (b', after) else readContent expand scope after b' := by
  rw [readContent]
  grind [Except.bind]

/-- Where nothing is open yet, a start tag begins the root and content is read until it is
closed. -/
lemma readContent_root_steps {depth : Nat} {scope : Scope}
    (hrules : RulesWellFormed scope.doc.rules) (hfloor : scope.floor = 0) {c : Char} {r after rest : List Char} {tag : String}
    {raw : List RawAttribute} {closed : Bool} {b : Builder}
    (hnext : Lexeme.next c r = .found (.startTag tag raw closed) after)
    (h : readContent (expandEntity depth) scope (c :: r) {} = .ok (b, rest)) :
    ∃ attrs place, attrs.WellFormed ∧ Steps (({} : Builder).openElement tag attrs place) b := by
  rw [readContent_startTag hnext] at h
  obtain ⟨opened, hopened, h⟩ := bind_eq_ok.mp h
  rw [Builder.startTag] at hopened
  split at hopened
  · cases hopened
  · rename_i attrs hattrs
    have hraw := (Lexeme.next_finds c r _ after hnext).2
    have hwf := Doctype.attributes_wellFormed hrules scope.opened tag raw hraw hattrs
    refine ⟨attrs, scope.locate (scope.remaining (r.length + 1)), hwf, ?_⟩
    cases hopened
    cases closed with
    | true =>
      cases h
      exact .single (.closeElement (by simp))
    | false =>
      have hreads := expandEntity_readsInPlace depth
      exact (readContent_steps hreads hrules (by simp) (by simp [hfloor]) h).1

/-- A document is read in three parts, and its content closes the root. -/
lemma readLines_eq_ok {s : List Char} {root : Element} :
    readLines s = .ok root ↔ ∃ doc body b rest,
      Doctype.readProlog {} .start (dropMark s) = .ok (doc, body) ∧
      readContent (expandEntity doc.depth) { doc, locate := Position.ofRemaining s } body {}
        = .ok (b, rest) ∧
      Doctype.checkEpilog rest = .ok () ∧ b.root = some root := by
  constructor
  · intro h
    obtain ⟨⟨doc, body⟩, hprolog, h⟩ := bind_eq_ok.mp h
    obtain ⟨⟨b, rest⟩, hcontent, h⟩ := bind_eq_ok.mp h
    obtain ⟨_, hepilog, h⟩ := bind_eq_ok.mp h
    refine ⟨doc, body, b, rest, hprolog, hcontent, hepilog, ?_⟩
    split at h
    · rename_i hsome
      obtain rfl := pure_eq_ok.mp h
      exact hsome
    · cases h
  · rintro ⟨doc, body, b, rest, hprolog, hcontent, hepilog, hroot⟩
    refine bind_eq_ok.mpr ⟨_, hprolog, bind_eq_ok.mpr ⟨_, hcontent, ?_⟩⟩
    refine bind_eq_ok.mpr ⟨_, hepilog, ?_⟩
    rw [hroot]
    rfl

/-- The tree of a document begins with the element that the prolog ends at and is constructed in
steps from there. -/
theorem readLines_steps {s : List Char} {root : Element} (h : readLines s = .ok root) :
    ∃ doc r tag attrs place b,
      Doctype.readProlog {} .start (dropMark s) = .ok (doc, '<' :: r) ∧
      (∃ after found rest, scanName r = .found tag after ∧
        scanAttributes after = .found found rest) ∧
      isName tag.toList = true ∧ attrs.WellFormed ∧
      Steps (({} : Builder).openElement tag attrs place) b ∧ b.root = some root := by
  obtain ⟨doc, body, b, rest, hprolog, hcontent, -, hroot⟩ := readLines_eq_ok.mp h
  have hstart : Doctype.Expect.Proper .start := trivial
  have hrules := Doctype.readProlog_wellFormed hstart rulesWellFormed_nil hprolog
  obtain ⟨r, rfl, htag⟩ := readProlog_startsTag hprolog
  -- the first lexeme of the body is a start tag
  obtain ⟨lexeme, after, hnext⟩ := exists_next_of_readContent hcontent
  have hscan : scanStartTag r = .found lexeme after :=
    (scanMarkup_of_startsTag htag).symm.trans hnext
  obtain ⟨tag, afterName, hname, hscan⟩ := Scan.andThen_eq_found.mp hscan
  obtain ⟨⟨raw, closed⟩, hraw, rfl⟩ := Scan.map_eq_found.mp hscan
  obtain ⟨attrs, place, hattrs, hsteps⟩ := readContent_root_steps hrules rfl hnext hcontent
  have hisName := scanName_finds _ _ _ hname
  exact ⟨doc, r, tag, attrs, place, b, hprolog, ⟨afterName, _, _, hname, hraw⟩, hisName, hattrs,
    hsteps, hroot⟩

/-- A document that is read although something is left over is read from what comes before. -/
lemma eq_ok_of_refuse {remnant : Text.Utf16.Remnant} {text : List Char}
    {result : Except Failure Element} {root : Element} (h : refuse remnant text result = .ok root) :
    result = .ok root := by
  cases result with
  | ok root' =>
    dsimp only [refuse] at h
    split_ifs at h
    exact h
  | error failure =>
    dsimp only [refuse] at h
    split_ifs at h

/-- A document is read from its characters once their line breaks are line feeds. -/
lemma readLines_of_readDocument {text : List Char} {root : Element}
    (h : readDocument text = .ok root) :
    readLines (Text.toLineFeeds (characters text).1) = .ok root := by
  have hresult := mapError_eq_ok.mp h
  split at hresult
  · exact mapError_eq_ok.mp hresult
  · exact eq_ok_of_refuse hresult

/-- The characters of a document in UTF-8 are those of the text. -/
lemma readDocument_of_byteOrder? {text : List Char} (hutf8 : byteOrder? text = none) :
    readDocument text = ((readLines (Text.toLineFeeds text)).mapError (blameLastReturn text)).mapError
      fun failure => (failure.fault, Position.ofRemaining (Text.toLineFeeds text) failure.remaining) := by
  rw [readDocument, characters, hutf8]

/-- Whatever its encoding, the tree of a document is read from its characters. -/
lemma readLines_of_parseDocument {text : List Char} {lineOffset : Nat} {tree : Tree}
    (h : parseDocument text lineOffset = .ok tree) :
    readLines (Text.toLineFeeds (characters text).1) = .ok tree.root ∧
      tree.lineOffset = lineOffset := by
  rw [parseDocument] at h
  split at h
  · rename_i hread
    cases h
    exact ⟨readLines_of_readDocument hread, rfl⟩
  · cases h

/-- A text in UTF-8 is read once its line breaks are line feeds. -/
lemma parseDocument_eq_ok {text : List Char} {lineOffset : Nat} {tree : Tree}
    (hutf8 : byteOrder? text = none) :
    parseDocument text lineOffset = .ok tree
      ↔ readLines (Text.toLineFeeds text) = .ok tree.root ∧ tree.lineOffset = lineOffset := by
  have hread {root : Element} :
      readDocument text = .ok root ↔ readLines (Text.toLineFeeds text) = .ok root := by
    rw [readDocument_of_byteOrder? hutf8, mapError_eq_ok, mapError_eq_ok]
  rw [← hread, parseDocument]
  cases readDocument text with
  | ok root =>
    obtain ⟨root', lineOffset'⟩ := tree
    simp [eq_comm]
  | error failure => simp

end DocComment.Markup
