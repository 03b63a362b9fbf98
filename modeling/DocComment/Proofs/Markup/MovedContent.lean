import DocComment.Proofs.Markup.MovedProlog
import DocComment.Proofs.Markup.MovedTree
import DocComment.Proofs.Markup.ReadBack

/-!
# Content with moved lines

Reading a content with moved lines takes the same steps as reading the content itself and ends with
the same tree with moved lines, as long as line breaks stand in character data only.

* `breaksInText` says where the line breaks of a content stand, `entityUnbroken` that an entity has
  none;
* `MovedText` holds of two texts that are about to be read, and `MovedText.character` and
  `MovedText.lexeme` say what becomes of the next lexeme;
* `readContent_moved`: content, by induction over its lexemes;
* `expandEntity_moved`: entities, by induction on how deep they stand inside each other.
-/

namespace DocComment.Markup

open DocComment.Text Builder

/-! ## Line breaks in character data -/

/-- Where a content goes on after a lexeme: behind the body if the lexeme opens a character
section. -/
def Lexeme.behind (lexeme : Lexeme) (after : List Char) : List Char :=
  match lexeme, scanSection after with
  | .sectionOpen, .ok (_, next) => next
  | _, _ => after

lemma Lexeme.exists_behind (lexeme : Lexeme) (after : List Char) :
    ∃ p, after = p ++ lexeme.behind after := by
  rw [Lexeme.behind.eq_def]
  split
  · rename_i body next hsection
    exact ⟨body ++ [']', ']', '>'], by simpa using (scanSection_append hsection).1⟩
  · exact ⟨[], rfl⟩

lemma Lexeme.behind_of_ne {lexeme : Lexeme} (h : lexeme ≠ .sectionOpen) (after : List Char) :
    lexeme.behind after = after := by
  rw [Lexeme.behind.eq_def]
  split
  · exact absurd rfl h
  · rfl

/-- Whether a lexeme is no reference that stands for a line break; `inner` says of the text of an
entity that it stands for none. -/
def Lexeme.isUnbroken (doc : Doctype) (inner : List Char → Bool) : Lexeme → Bool
  | .reference (.character (some c)) => !isBreak c
  | .reference (.entity name) =>
    match predefined? name, doc.entity? name with
    | none, some (.text value) => inner value
    | _, _ => true
  | _ => true

/-- Whether all line breaks of a content stand in its character data: none is part of another lexeme
or of a character section, and no reference stands for one. -/
def breaksInText (doc : Doctype) (inner : List Char → Bool) (s : List Char) : Bool :=
  match s with
  | [] => true
  | c :: rest =>
    match _h : Lexeme.next c rest with
    | .found (.character _) after => breaksInText doc inner after
    | .found lexeme after =>
      !(spanned (c :: rest) (lexeme.behind after)).contains '\n' &&
        lexeme.isUnbroken doc inner && breaksInText doc inner (lexeme.behind after)
    | .invalid _ => true
    | .incomplete => true
termination_by s.length
decreasing_by
  · have := Lexeme.next_leaves c rest _ after _h
    simp; omega
  · have := Lexeme.next_leaves c rest _ after _h
    obtain ⟨p, hp⟩ := lexeme.exists_behind after
    have := congrArg List.length hp
    simp at *; omega

/-- Whether the text of an entity stands for no line break; entities inside it are followed as far as
`depth` says. -/
def entityUnbroken (doc : Doctype) : (depth : Nat) → List Char → Bool
  | 0, _ => true
  | depth + 1, value => !value.any isBreak && breaksInText doc (entityUnbroken doc depth) value

section

variable {doc : Doctype} {inner : List Char → Bool} {c : Char} {rest after : List Char}

lemma breaksInText_character {e : Char} (hnext : Lexeme.next c rest = .found (.character e) after)
    (h : breaksInText doc inner (c :: rest) = true) : breaksInText doc inner after = true := by
  rw [breaksInText] at h
  grind

lemma breaksInText_lexeme {lexeme : Lexeme} (hnext : Lexeme.next c rest = .found lexeme after)
    (hlexeme : ∀ e, lexeme ≠ .character e) (h : breaksInText doc inner (c :: rest) = true) :
    '\n' ∉ spanned (c :: rest) (lexeme.behind after) ∧ lexeme.isUnbroken doc inner = true ∧
      breaksInText doc inner (lexeme.behind after) = true := by
  rw [breaksInText] at h
  grind

end

/-! ## Lexemes of moved texts -/

/-- A character that is read stands for itself. -/
lemma Lexeme.next_eq_character {c e : Char} {rest after : List Char}
    (h : Lexeme.next c rest = .found (.character e) after) : e = c ∧ after = rest := by
  rw [Lexeme.next] at h
  split_ifs at h with hopen hamp _ hchar
  · exact absurd rfl ((scanMarkup_eq_found h).1.1 e)
  · obtain ⟨_, -, hcharacter⟩ := Scan.map_eq_found.mp h
    cases hcharacter
  · cases h
    exact ⟨rfl, rfl⟩

/-- A comment is written with its body between its marks. -/
lemma Lexeme.next_eq_comment {c : Char} {rest after body : List Char}
    (h : Lexeme.next c rest = .found (.comment body) after) :
    rest = '!' :: '-' :: '-' :: (body ++ '-' :: '-' :: '>' :: after) := by
  rw [Lexeme.next] at h
  split_ifs at h with hopen hamp
  · exact (scanMarkup_eq_found h).2.1 body rfl
  · obtain ⟨_, -, hcomment⟩ := Scan.map_eq_found.mp h
    cases hcomment
  · cases h
/-- Markup and references begin with a visible character. -/
lemma Lexeme.visible_of_next {c : Char} {rest after : List Char} {lexeme : Lexeme}
    (h : Lexeme.next c rest = .found lexeme after) (hlexeme : ∀ e, lexeme ≠ .character e) :
    isBlank c = false := by
  rw [Lexeme.next] at h
  split_ifs at h with hopen hamp _ hchar
  · rw [hopen]; decide
  · rw [hamp]; decide
  · cases h
    exact absurd rfl (hlexeme c)

/-- Only start tags remember places. -/
lemma Lexeme.eq_of_bare {lexeme lexeme' : Lexeme} (hbare : lexeme'.bare = lexeme.bare)
    (h : ∀ tag raw closed, lexeme ≠ .startTag tag raw closed) : lexeme' = lexeme := by
  cases lexeme <;> cases lexeme' <;> first | exact hbare | exact absurd rfl (h _ _ _) | cases hbare

/-- A lexeme that is a start tag but for how much text is left is a start tag. -/
lemma Lexeme.startTag_of_bare {lexeme : Lexeme} {tag : String} {raw : List RawAttribute}
    {closed : Bool} (hbare : lexeme.bare = (Lexeme.startTag tag raw closed).bare) :
    ∃ raw', lexeme = .startTag tag raw' closed ∧
      raw'.map RawAttribute.bare = raw.map RawAttribute.bare := by
  cases lexeme with
  | startTag tag' raw' closed' =>
    obtain ⟨rfl, hraw, rfl⟩ := Lexeme.startTag.inj hbare
    exact ⟨raw', rfl, hraw⟩
  | _ => cases hbare

/-! ## Steps of reading -/

section

variable {expand : Scope → String → List Char → Nat → Builder → Except Failure Builder}
  {scope : Scope} {c : Char} {rest after : List Char}

/-- Reading goes on after an instruction. -/
lemma readContent_instruction (hnext : Lexeme.next c rest = .found .instruction after)
    (b : Builder) :
    readContent expand scope (c :: rest) b = readContent expand scope after b := by
  rw [readContent]
  grind

/-- Reading goes on after the body of a character section. -/
lemma readContent_section (hnext : Lexeme.next c rest = .found .sectionOpen after)
    {body next : List Char} (hsection : scanSection after = .ok (body, next)) (b : Builder) :
    readContent expand scope (c :: rest) b
      = readContent expand scope next (b.characters body) := by
  rw [readContent]
  grind

/-- Reading goes on after a reference to an entity that may be undeclared. -/
lemma readContent_undeclared {name : String}
    (hnext : Lexeme.next c rest = .found (.reference (.entity name)) after)
    (hpredefined : predefined? name = none) (hentity : scope.doc.entity? name = none)
    (hlenient : scope.doc.isLenient = true) (b : Builder) :
    readContent expand scope (c :: rest) b = readContent expand scope after b := by
  rw [readContent]
  grind

/-- Reading goes on after a reference to an entity outside the document. -/
lemma readContent_external {name : String}
    (hnext : Lexeme.next c rest = .found (.reference (.entity name)) after)
    (hpredefined : predefined? name = none) (hentity : scope.doc.entity? name = some .external)
    (hopened : ¬ scope.opened.contains name = true) (b : Builder) :
    readContent expand scope (c :: rest) b = readContent expand scope after b := by
  rw [readContent]
  grind

/-- Reading goes on after a reference to an entity once its text has been read in place. -/
lemma readContent_entity {name : String} {value : List Char}
    (hnext : Lexeme.next c rest = .found (.reference (.entity name)) after)
    (hpredefined : predefined? name = none)
    (hentity : scope.doc.entity? name = some (.text value))
    (hopened : ¬ scope.opened.contains name = true) (b : Builder) :
    readContent expand scope (c :: rest) b
      = (expand scope name value (rest.length + 1) b).bind (readContent expand scope after) := by
  rw [readContent]
  grind [Except.bind]

lemma Lexeme.next_of_isSpace (hc : isSpace c = true) (rest : List Char) :
    Lexeme.next c rest = .found (.character c) rest := by
  simp only [isSpace, Bool.or_eq_true, decide_eq_true_eq] at hc
  rcases hc with ((rfl | rfl) | rfl) | rfl <;> rfl

/-- Layout is read as its characters. -/
lemma readContent_layout {s : List Char} (hs : ∀ c ∈ s, isSpace c = true) (t : List Char)
    (b : Builder) :
    readContent expand scope (s ++ t) b = readContent expand scope t (b.characters s) := by
  induction s generalizing b with
  | nil => rfl
  | cons c s ih =>
    obtain ⟨hc, hs⟩ := List.forall_mem_cons.mp hs
    rw [List.cons_append, readContent_character rfl (Lexeme.next_of_isSpace hc _), ih hs,
      characters_cons]

/-- A character of a moved text is read with the spaces that have been put behind it. -/
lemma readContent_character_moved {d : Nat} {kept last : Bool} {t : List Char}
    (hnext : Lexeme.next c rest = .found (.character c) rest)
    (hmoved : Indents d kept (c :: rest) t last) :
    ∃ q t' mid, t = q ++ t' ∧ Indents d kept [c] q mid ∧ Indents d mid rest t' last ∧
      ∀ b, readContent expand scope t b = readContent expand scope t' (b.characters q) := by
  cases hmoved with
  | @character _ _ _ t' _ hc hkept hrest =>
    obtain ⟨p, hp, hlocal⟩ := Lexeme.next_local c rest _ rest hnext
    obtain rfl : p = [] := by simpa using hp
    obtain ⟨lexeme, hnext', hbare⟩ := hlocal t' (peek_of_indents hrest)
    obtain rfl := Lexeme.eq_of_bare hbare (by simp)
    exact ⟨[c], t', kept, rfl, .character c hc hkept (.nil kept), hrest,
      fun b => readContent_character rfl hnext' b⟩
  | @move _ _ _ t' hrest =>
    have hspaces : ∀ c ∈ '\n' :: List.replicate d ' ', isSpace c = true := by
      intro c hc
      rcases List.mem_cons.mp hc with rfl | hc
      · rfl
      · rw [List.eq_of_mem_replicate hc]
        rfl
    refine ⟨'\n' :: List.replicate d ' ', t', false, rfl, ?_, hrest, readContent_layout hspaces t'⟩
    exact List.append_nil (List.replicate d ' ') ▸ .move (.nil false)
  | @keep _ _ _ t' hrest =>
    have hfeed : ∀ c ∈ ['\n'], isSpace c = true := List.all_eq_true.mp (by decide)
    exact ⟨['\n'], t', true, rfl, .keep (.nil true), hrest, readContent_layout hfeed t'⟩

end

/-! ## Scopes -/

/-- The second scope reads a moved text: it is the same up to places, and what stands in the text
behind lines that have been moved stands at a moved place. -/
structure Scope.Moved (d : Nat) (kept : Bool) (s t : List Char) (scope scope' : Scope) : Prop where
  doc : scope'.doc = scope.doc
  opened : scope'.opened = scope.opened
  floor : scope'.floor = scope.floor
  place : ∀ {p q s₁ t₁}, s = p ++ s₁ → t = q ++ t₁ → Indents d kept p q false →
    scope'.locate (scope'.remaining t₁.length)
      = (scope.locate (scope.remaining s₁.length)).moved d

namespace Scope.Moved

variable {d : Nat} {kept mid : Bool} {p q s t : List Char} {scope scope' : Scope}

lemma behind (h : Scope.Moved d kept (p ++ s) (q ++ t) scope scope')
    (hpq : Indents d kept p q mid) : Scope.Moved d mid s t scope scope' := by
  refine ⟨h.doc, h.opened, h.floor, ?_⟩
  rintro p' q' s₁ t₁ rfl rfl hfront
  exact h.place (List.append_assoc _ _ _).symm (List.append_assoc _ _ _).symm (hpq.append hfront)

lemma here (h : Scope.Moved d false s t scope scope') :
    scope'.locate (scope'.remaining t.length)
      = (scope.locate (scope.remaining s.length)).moved d :=
  h.place (p := []) (q := []) rfl rfl (.nil false)

end Scope.Moved

/-! ## Texts that are read -/

/-- Two texts that are about to be read, the second with moved lines: their line breaks stand in
character data, and inside an entity there is none. -/
structure MovedText (d : Nat) (inner : List Char → Bool) (last : Bool) (scope scope' : Scope)
    (kept : Bool) (s t : List Char) : Prop where
  places : Scope.Moved d kept s t scope scope'
  text : Indents d kept s t last
  breaks : breaksInText scope.doc inner s = true
  feeds : scope.floor ≠ 0 → kept = false ∧ '\n' ∉ s

namespace MovedText

variable {d : Nat} {inner : List Char → Bool} {kept last : Bool} {scope scope' : Scope} {c : Char}
  {rest after t : List Char}

/-- What is left behind a part that has no line breaks. -/
lemma behind {p s t : List Char} (h : MovedText d inner last scope scope' false (p ++ s) (p ++ t))
    (hp : Indents d false p p false) (hs : Indents d false s t last)
    (hbreaks : breaksInText scope.doc inner s = true) :
    MovedText d inner last scope scope' false s t := by
  refine ⟨h.places.behind hp, hs, hbreaks, fun hfloor => ⟨rfl, fun hmem => ?_⟩⟩
  exact (h.feeds hfloor).2 (List.mem_append_right p hmem)

/-- A character stands in a moved text with the spaces that have been put behind it. -/
lemma character {expand : Scope → String → List Char → Nat → Builder → Except Failure Builder}
    {e : Char} (h : MovedText d inner last scope scope' kept (c :: rest) t)
    (hnext : Lexeme.next c rest = .found (.character e) after) :
    ∃ q t' mid, Indents d kept [e] q mid ∧ MovedText d inner last scope scope' mid after t' ∧
      ∀ b, readContent expand scope' t b = readContent expand scope' t' (b.characters q) := by
  obtain ⟨rfl, rfl⟩ := Lexeme.next_eq_character hnext
  obtain ⟨q, t', mid, rfl, hq, hmoved, hread⟩ := readContent_character_moved hnext h.text
  refine ⟨q, t', mid, hq, ⟨h.places.behind (p := [e]) hq, hmoved,
    breaksInText_character hnext h.breaks, fun hfloor => ?_⟩, hread⟩
  obtain ⟨rfl, hnone⟩ := h.feeds hfloor
  obtain ⟨hne, hnone⟩ : '\n' ≠ e ∧ '\n' ∉ after := by simpa using hnone
  obtain ⟨_, -, -, hlast⟩ := hq.exists_append (p := [e]) (s := []) (by simpa using hne)
  cases hlast
  exact ⟨rfl, hnone⟩

/-- Markup or a reference stands in a moved text as it is, and so does what follows up to the place
where reading goes on. -/
lemma lexeme {lexeme : Lexeme} (h : MovedText d inner last scope scope' kept (c :: rest) t)
    (hnext : Lexeme.next c rest = .found lexeme after) (hlexeme : ∀ e, lexeme ≠ .character e) :
    kept = false ∧ lexeme.isUnbroken scope.doc inner = true ∧
      ∃ q rest' t' lexeme', after = q ++ lexeme.behind after ∧ t = c :: rest' ∧
        Lexeme.next c rest' = .found lexeme' (q ++ t') ∧ lexeme'.bare = lexeme.bare ∧
        (∀ e ∈ q, isBreak e = false) ∧
        MovedText d inner last scope scope' false (lexeme.behind after) t' := by
  obtain ⟨hspan, hunbroken, hbehind⟩ := breaksInText_lexeme hnext hlexeme h.breaks
  obtain ⟨p, rfl, hlocal⟩ := Lexeme.next_local c rest lexeme after hnext
  obtain ⟨q, hq⟩ := lexeme.exists_behind after
  obtain rfl := (h.text.visible (Lexeme.visible_of_next hnext hlexeme)).1
  have happend : c :: (p ++ after) = (c :: p ++ q) ++ lexeme.behind after := by
    rw [List.append_assoc, ← hq]
    rfl
  rw [happend] at h hspan
  rw [spanned_append] at hspan
  obtain ⟨t', rfl, hfront, hmoved⟩ := h.text.exists_append hspan
  have hbreak : ∀ e ∈ q, isBreak e = false := by
    intro e he
    have hmem : e ∈ c :: p ++ q := List.mem_append_right _ he
    have hreturn := hfront.return_notMem.1
    rw [isBreak_eq_false_iff]
    exact ⟨fun hfeed => hspan (hfeed ▸ hmem), fun hcr => hreturn (hcr ▸ hmem)⟩
  have hpeek : Peek after (q ++ t') := by
    rw [hq]
    exact peek_of_indents ((Indents.refl hbreak).append hmoved)
  obtain ⟨lexeme', hnext', hbare⟩ := hlocal (q ++ t') hpeek
  exact ⟨rfl, hunbroken, q, p ++ (q ++ t'), t', lexeme', hq, by simp, hnext', hbare, hbreak,
    h.behind hfront hmoved hbehind⟩

/-- Markup or a reference stands in a moved text as it is. -/
lemma lexeme_of_ne {lexeme : Lexeme} (h : MovedText d inner last scope scope' kept (c :: rest) t)
    (hnext : Lexeme.next c rest = .found lexeme after) (hlexeme : ∀ e, lexeme ≠ .character e)
    (hsection : lexeme ≠ .sectionOpen) :
    kept = false ∧ lexeme.isUnbroken scope.doc inner = true ∧
      ∃ rest' t' lexeme', t = c :: rest' ∧ Lexeme.next c rest' = .found lexeme' t' ∧
        lexeme'.bare = lexeme.bare ∧ MovedText d inner last scope scope' false after t' := by
  obtain ⟨hkept, hunbroken, q, rest', t', lexeme', hq, ht, hnext', hbare, -, htext⟩ :=
    h.lexeme hnext hlexeme
  rw [Lexeme.behind_of_ne hsection] at hq htext
  obtain rfl : q = [] := by simpa using hq
  exact ⟨hkept, hunbroken, rest', t', lexeme', ht, hnext', hbare, htext⟩

/-- Of what is neither a character, nor a section, nor a start tag, not even a place changes. -/
lemma same {lexeme : Lexeme} (h : MovedText d inner last scope scope' kept (c :: rest) t)
    (hnext : Lexeme.next c rest = .found lexeme after) (hlexeme : ∀ e, lexeme ≠ .character e)
    (hsection : lexeme ≠ .sectionOpen) (htag : ∀ tag raw closed, lexeme ≠ .startTag tag raw closed) :
    kept = false ∧ lexeme.isUnbroken scope.doc inner = true ∧
      ∃ rest' t', t = c :: rest' ∧ Lexeme.next c rest' = .found lexeme t' ∧
        MovedText d inner last scope scope' false after t' := by
  obtain ⟨hkept, hunbroken, rest', t', lexeme', ht, hnext', hbare, htext⟩ :=
    h.lexeme_of_ne hnext hlexeme hsection
  obtain rfl := Lexeme.eq_of_bare hbare htag
  exact ⟨hkept, hunbroken, rest', t', ht, hnext', htext⟩

/-- A comment has no lines. -/
lemma unbroken_comment {body : List Char}
    (h : MovedText d inner last scope scope' kept (c :: rest) t)
    (hnext : Lexeme.next c rest = .found (.comment body) after) :
    ∀ e ∈ body, isBreak e = false := by
  obtain ⟨hspan, -, -⟩ := breaksInText_lexeme hnext (by simp) h.breaks
  have hrest := Lexeme.next_eq_comment hnext
  have happend : c :: rest = c :: '!' :: '-' :: '-' :: (body ++ ['-', '-', '>']) ++ after := by
    simp [hrest]
  have hreturn := h.text.return_notMem.1
  rw [Lexeme.behind_of_ne (by simp), happend, spanned_append] at hspan
  rw [happend] at hreturn
  intro e he
  rw [isBreak_eq_false_iff]
  constructor
  · rintro rfl
    exact hspan (by simp [he])
  · rintro rfl
    exact hreturn (by simp [he])

end MovedText

namespace Builder.Moved

variable {d : Nat} {s t : List Char} {scope scope' : Scope} {b b' result : Builder}

/-- A start tag has the same attributes in both texts and opens an element at the moved place. -/
lemma startTag (hb : Moved d false b b') (hscope : Scope.Moved d false s t scope scope')
    (hrules : RulesWellFormed scope.doc.rules) {tag : String} {raw raw' : List RawAttribute}
    {closed : Bool} (htag : isName tag.toList = true) (hraw : ∀ a ∈ raw, a.Proper)
    (hbare : raw'.map RawAttribute.bare = raw.map RawAttribute.bare)
    (h : b.startTag scope tag raw closed s.length = .ok result) :
    ∃ result', b'.startTag scope' tag raw' closed t.length = .ok result' ∧
      Moved d false result result' := by
  rw [Builder.startTag] at h ⊢
  split at h
  · cases h
  · rename_i attrs hattrs
    cases h
    have hwf := Doctype.attributes_wellFormed hrules scope.opened tag raw hraw hattrs
    have hopen := hb.openElement (scope.locate (scope.remaining s.length))
      (unbroken_of_isName htag)
      (unbroken_renderAttrs fun a ha => unbroken_of_isName (hwf.names a ha))
    rw [hscope.doc, hscope.opened, Doctype.attributes_bare hbare hattrs, hscope.here]
    refine ⟨_, rfl, ?_⟩
    cases closed with
    | false => exact hopen
    | true => exact hopen.closeElement

/-- An end tag closes the innermost element in both texts or in none. -/
lemma endTag (hb : Moved d false b b') (hfloor : scope'.floor = scope.floor) {tag : String}
    {here : Nat} (h : b.endTag scope tag here = .ok result) (here' : Nat) :
    ∃ result', b'.endTag scope' tag here' = .ok result' ∧ Moved d false result result' := by
  have hdepth := hb.depth
  have hclose := hb.closeElement
  have hframes := hb.frames
  rw [Builder.endTag] at h ⊢
  rw [hdepth, hfloor]
  generalize hf' : b'.frames = frames' at hframes
  generalize hf : b.frames = frames at h hframes
  cases hframes with
  | nil => cases h
  | cons htop _ =>
    dsimp only at h ⊢
    split_ifs at h with hbase hsame
    · cases h
    · cases h
      rw [if_neg hbase, if_pos (htop.tag.trans hsame)]
      exact ⟨_, rfl, hclose⟩
    · cases h

end Builder.Moved

/-! ## Content -/

/-- A way to read the text of an entity in place that does the same wherever the reference stands. -/
def ReadsMoved (d : Nat) (doc : Doctype) (inner : List Char → Bool)
    (expand : Scope → String → List Char → Nat → Builder → Except Failure Builder) : Prop :=
  ∀ ⦃scope scope' : Scope⦄ ⦃s t : List Char⦄ ⦃name : String⦄ ⦃value : List Char⦄
    ⦃b b' result : Builder⦄, scope.doc = doc → RulesWellFormed doc.rules →
    Scope.Moved d false s t scope scope' → inner value = true → Moved d false b b' →
    expand scope name value s.length b = .ok result →
    ∃ result', expand scope' name value t.length b' = .ok result' ∧ Moved d false result result'

lemma isBreak_of_predefined? {name : String} {c : Char} (h : predefined? name = some c) :
    isBreak c = false := by
  rw [predefined?.eq_def] at h
  split at h
  all_goals first | cases h; rfl | cases h

variable {expand : Scope → String → List Char → Nat → Builder → Except Failure Builder}

/-- Reading a content with moved lines gives the same tree with moved lines. -/
theorem readContent_moved {d : Nat} {inner : List Char → Bool} {scope scope' : Scope}
    (hexpand : ReadsMoved d scope.doc inner expand) (hrules : RulesWellFormed scope.doc.rules)
    {kept last : Bool} {s t rest : List Char} {b b' result : Builder}
    (htext : MovedText d inner last scope scope' kept s t) (hb : Moved d kept b b')
    (h : readContent expand scope s b = .ok (result, rest)) :
    ∃ result' rest', readContent expand scope' t b' = .ok (result', rest') ∧
      Moved d false result result' ∧ Indents d false rest rest' last ∧
      breaksInText scope.doc inner rest = true := by
  -- The induction follows the reading of the first text. In each case the lexeme that it takes is
  -- found in the other text as well, and what is left behind it is moved again.
  fun_induction readContent expand scope s b generalizing kept t b' with
  | case1 => cases h
  | case2 b hfloor hdepth =>
    cases h
    obtain ⟨rfl, -⟩ := htext.feeds hfloor
    have hnil := htext.text
    cases hnil
    refine ⟨b', [], ?_, hb, .nil false, htext.breaks⟩
    rw [readContent, htext.places.floor, if_neg hfloor, hb.depth, if_pos hdepth]
  | case3 => cases h
  | case4 => cases h
  | case5 => cases h
  -- a character, which may be a line feed with spaces behind it
  | case6 b c rest' after e hnext _ ih =>
    obtain ⟨q, t', mid, hq, htext, hread⟩ := htext.character hnext
    rw [hread]
    exact ih htext (hb.characters hq) h
  -- a reference to a character
  | case7 b c rest' after e hnext _ ih =>
    obtain ⟨rfl, hunbroken, r, t', rfl, hnext', htext⟩ :=
      htext.same hnext (by simp) (by simp) (by simp)
    have hone : Indents d false [e] [e] false :=
      .character e (by simpa [Lexeme.isUnbroken] using hunbroken) (by simp) (.nil false)
    rw [readContent_character rfl hnext']
    exact ih htext (hb.characters hone) h
  | case8 => cases h
  -- references to entities: predefined, undeclared, external, and read in place
  | case9 b c rest' after name hnext e hpredefined _ ih =>
    obtain ⟨rfl, -, r, t', rfl, hnext', htext⟩ :=
      htext.same hnext (by simp) (by simp) (by simp)
    have hone : Indents d false [e] [e] false :=
      .character e (isBreak_of_predefined? hpredefined) (by simp) (.nil false)
    have hchar : (Lexeme.reference (.entity name)).char? = some e := hpredefined
    rw [readContent_character hchar hnext']
    exact ih htext (hb.characters hone) h
  | case10 b c rest' after name hnext hpredefined hentity hlenient _ ih =>
    obtain ⟨rfl, -, r, t', rfl, hnext', hafter⟩ :=
      htext.same hnext (by simp) (by simp) (by simp)
    rw [← htext.places.doc] at hentity hlenient
    rw [readContent_undeclared hnext' hpredefined hentity hlenient]
    exact ih hafter hb h
  | case11 => cases h
  | case12 => cases h
  | case13 => cases h
  | case14 b c rest' after name hnext hpredefined hopened _ hentity ih =>
    obtain ⟨rfl, -, r, t', rfl, hnext', hafter⟩ :=
      htext.same hnext (by simp) (by simp) (by simp)
    rw [← htext.places.doc] at hentity
    rw [← htext.places.opened] at hopened
    rw [readContent_external hnext' hpredefined hentity hopened]
    exact ih hafter hb h
  | case15 => cases h
  | case16 b c rest' here after name hnext hpredefined hopened value _ hexpanded _ hentity =>
    rename_i ih
    obtain ⟨rfl, hunbroken, r, t', rfl, hnext', hafter⟩ :=
      htext.same hnext (by simp) (by simp) (by simp)
    have hinner : inner value = true := by
      simpa [Lexeme.isUnbroken, hpredefined, hentity] using hunbroken
    obtain ⟨expanded', hexpanded', hb⟩ :=
      hexpand (s := c :: rest') rfl hrules htext.places hinner hb hexpanded
    rw [← htext.places.doc] at hentity
    rw [← htext.places.opened] at hopened
    rw [readContent_entity hnext' hpredefined hentity hopened]
    obtain ⟨result', rest₁, hread, hrest⟩ := ih hafter hb h
    exact ⟨result', rest₁, bind_eq_ok.mpr ⟨expanded', hexpanded', hread⟩, hrest⟩
  | case17 => cases h
  -- tags: the element that ends the text closes the reading
  | case18 b c rest' here after tag raw closed hnext opened hopened hdepth =>
    obtain ⟨htag, hraw⟩ := Lexeme.next_finds c rest' _ after hnext
    cases h
    obtain ⟨rfl, -, r, t', lexeme, rfl, hnext', hbare, hafter⟩ :=
      htext.lexeme_of_ne hnext (by simp) (by simp)
    obtain ⟨raw', rfl, hsame⟩ := Lexeme.startTag_of_bare hbare
    obtain ⟨opened', hopened', hb⟩ :=
      hb.startTag (s := c :: rest') htext.places hrules htag hraw hsame hopened
    refine ⟨opened', t', ?_, hb, hafter.text, hafter.breaks⟩
    rw [readContent_startTag hnext']
    exact bind_eq_ok.mpr ⟨opened', hopened', if_pos (hb.depth.trans hdepth)⟩
  | case19 b c rest' here after tag raw closed hnext opened hopened hdepth _ =>
    rename_i ih
    obtain ⟨htag, hraw⟩ := Lexeme.next_finds c rest' _ after hnext
    obtain ⟨rfl, -, r, t', lexeme, rfl, hnext', hbare, hafter⟩ :=
      htext.lexeme_of_ne hnext (by simp) (by simp)
    obtain ⟨raw', rfl, hsame⟩ := Lexeme.startTag_of_bare hbare
    obtain ⟨opened', hopened', hb⟩ :=
      hb.startTag (s := c :: rest') htext.places hrules htag hraw hsame hopened
    obtain ⟨result', rest₁, hread, hrest⟩ := ih hafter hb h
    refine ⟨result', rest₁, ?_, hrest⟩
    rw [readContent_startTag hnext']
    exact bind_eq_ok.mpr ⟨opened', hopened', (if_neg (hb.depth ▸ hdepth)).trans hread⟩
  | case20 => cases h
  | case21 b c rest' here after tag hnext closed hclosed hdepth =>
    cases h
    obtain ⟨rfl, -, r, t', rfl, hnext', hafter⟩ :=
      htext.same hnext (by simp) (by simp) (by simp)
    obtain ⟨closed', hclosed', hb⟩ := hb.endTag htext.places.floor hclosed (r.length + 1)
    refine ⟨closed', t', ?_, hb, hafter.text, hafter.breaks⟩
    rw [readContent_endTag hnext']
    exact bind_eq_ok.mpr ⟨closed', hclosed', if_pos (hb.depth.trans hdepth)⟩
  | case22 b c rest' here after tag hnext closed hclosed hdepth _ =>
    rename_i ih
    obtain ⟨rfl, -, r, t', rfl, hnext', hafter⟩ :=
      htext.same hnext (by simp) (by simp) (by simp)
    obtain ⟨closed', hclosed', hb⟩ := hb.endTag htext.places.floor hclosed (r.length + 1)
    obtain ⟨result', rest₁, hread, hrest⟩ := ih hafter hb h
    refine ⟨result', rest₁, ?_, hrest⟩
    rw [readContent_endTag hnext']
    exact bind_eq_ok.mpr ⟨closed', hclosed', (if_neg (hb.depth ▸ hdepth)).trans hread⟩
  | case23 b c rest' after body hnext _ ih =>
    have hbody := htext.unbroken_comment hnext
    obtain ⟨rfl, -, r, t', rfl, hnext', hafter⟩ :=
      htext.same hnext (by simp) (by simp) (by simp)
    rw [readContent_comment hnext']
    refine ih hafter (hb.comment ?_) h
    rw [toLineFeeds_of_notMem fun hmem => by cases hbody _ hmem]
    exact hbody
  | case24 b c rest' after hnext _ ih =>
    obtain ⟨rfl, -, r, t', rfl, hnext', htext⟩ :=
      htext.same hnext (by simp) (by simp) (by simp)
    rw [readContent_instruction hnext']
    exact ih htext hb h
  | case25 => cases h
  | case26 => cases h
  -- a character section, whose body is written in both texts
  | case27 b c rest' after hnext body next hsection _ ih =>
    obtain ⟨rfl, -, q, r, t', lexeme, hq, rfl, hnext', hbare, hunbroken, hafter⟩ :=
      htext.lexeme hnext (by simp)
    obtain rfl := Lexeme.eq_of_bare hbare (by simp)
    obtain ⟨hbody, hagain⟩ := scanSection_append hsection
    have hbehind : Lexeme.behind .sectionOpen after = next := by simp only [Lexeme.behind, hsection]
    rw [hbehind] at hq hafter
    obtain rfl : q = body ++ [']', ']', '>'] :=
      List.append_cancel_right (hq.symm.trans (by simpa using hbody))
    have hsection' : scanSection (body ++ [']', ']', '>'] ++ t') = .ok (body, t') := by
      simpa using hagain t'
    rw [readContent_section hnext' hsection']
    refine ih hafter (hb.characters (.refl fun e he => hunbroken e ?_)) h
    exact List.mem_append_left _ he

/-- Entities are read in place alike, however deep they stand inside each other. -/
theorem expandEntity_moved (d : Nat) (doc : Doctype) (depth : Nat) :
    ReadsMoved d doc (entityUnbroken doc depth) (expandEntity depth) := by
  induction depth with
  | zero =>
    intro scope scope' s t name value b b' result _ _ _ _ _ h
    cases h
  | succ depth ih =>
    intro scope scope' s t name value b b' result hdoc hrules hscope hvalue hb h
    subst hdoc
    rw [entityUnbroken, Bool.and_eq_true, Bool.not_eq_true', List.any_eq_false] at hvalue
    obtain ⟨hunbroken, hbreaks⟩ := hvalue
    have htext : MovedText d (entityUnbroken scope.doc depth) false
        { scope with
          opened := name :: scope.opened
          reference := some (scope.remaining s.length)
          floor := b.depth }
        { scope' with
          opened := name :: scope'.opened
          reference := some (scope'.remaining t.length)
          floor := b'.depth } false value value := by
      refine ⟨⟨hscope.doc, congrArg (name :: ·) hscope.opened, hb.depth, ?_⟩, ?_, hbreaks, ?_⟩
      · intro _ _ _ _ _ _ _
        exact hscope.here
      · exact Indents.refl fun c hc => by simpa using hunbroken c hc
      · exact fun _ => ⟨rfl, fun hmem => hunbroken _ hmem rfl⟩
    rw [expandEntity] at h ⊢
    obtain ⟨⟨inner, rest⟩, hread, rfl⟩ := map_eq_ok.mp h
    obtain ⟨inner', rest', hread', hinner, -⟩ :=
      readContent_moved (by exact ih) (by exact hrules) htext hb hread
    exact ⟨inner', map_eq_ok.mpr ⟨_, hread', rfl⟩, hinner⟩

end DocComment.Markup
