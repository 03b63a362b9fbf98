import DocComment.Proofs.Markup.Written
import DocComment.Proofs.Text.Indented

/-!
# Trees of moved texts

What becomes of a tree when lines of its text are moved: the tags and attributes stay, the elements
that stand behind the first line move along, and so do the lines of the character data. The same is
said of a tree under construction, where the line at hand may be one that has been kept; each way to
change such a tree keeps the relation. A tree with moved lines is written as a text with moved lines
(`Node.Moved.render`).
-/

namespace DocComment.Markup

open DocComment.Text

/-! ## Places -/

/-- A place in a text all of whose lines but the first have been moved. -/
def Position.moved (d : Nat) (p : Position) : Position :=
  ⟨p.line, if 1 < p.line then p.column + d else p.column⟩

/-- So many spaces move a place by as many columns. -/
lemma foldl_step_replicate (d : Nat) (p : Position) :
    (List.replicate d ' ').foldl Position.step p = ⟨p.line, p.column + d⟩ := by
  induction d generalizing p with
  | zero => rfl
  | succ d ih =>
    rw [List.replicate_succ, List.foldl_cons, ih]
    show (⟨p.line, p.column + 1 + d⟩ : Position) = _
    rw [Nat.add_assoc, Nat.add_comm 1 d]

/-- A new line begins at the left, whether the line before it has been moved or not. -/
lemma step_lineFeed_moved (d : Nat) (kept : Bool) (p : Position) :
    (if kept then p else p.moved d).step '\n' = ⟨p.line + 1, 0⟩ := by
  cases kept <;> rfl

/-- Places move with their lines; on a line that has been kept they stay. -/
lemma foldl_step_moved {d : Nat} {kept last : Bool} {s t : List Char}
    (h : Indents d kept s t last) {p : Position} (hp : 0 < p.line) :
    t.foldl Position.step (if kept then p else p.moved d)
      = if last then s.foldl Position.step p else (s.foldl Position.step p).moved d := by
  induction h generalizing p with
  | nil => rfl
  | @character kept last s t c hc hkept h ih =>
    have hne := (isBreak_eq_false_iff.mp hc).1
    have hstep : p.step c = ⟨p.line, p.column + 1⟩ := if_neg hne
    have hmoved : (if kept then p else p.moved d).step c
        = if kept then p.step c else (p.step c).moved d := by
      cases kept with
      | true => rfl
      | false =>
        rw [if_neg Bool.false_ne_true, if_neg Bool.false_ne_true, hstep, Position.step, if_neg hne,
          Position.moved, Position.moved]
        split <;> simp [Nat.add_right_comm]
    rw [List.foldl_cons, List.foldl_cons, hmoved]
    exact ih (by rw [hstep]; exact hp)
  | move h ih =>
    have hmoved : (⟨p.line + 1, 0 + d⟩ : Position) = Position.moved d ⟨p.line + 1, 0⟩ := by
      rw [Position.moved, if_pos (by show 1 < p.line + 1; omega)]
    rw [List.foldl_cons, List.foldl_cons, List.foldl_append, step_lineFeed_moved,
      foldl_step_replicate, hmoved]
    exact ih (Nat.succ_pos _)
  | keep h ih =>
    rw [List.foldl_cons, List.foldl_cons, step_lineFeed_moved]
    exact ih (Nat.succ_pos _)

/-- The place behind a text with moved lines. -/
lemma after_moved {d : Nat} {s t : List Char} (h : Indents d false s t false) :
    Position.after t = (Position.after s).moved d :=
  foldl_step_moved h (p := ⟨1, 0⟩) Nat.one_pos

lemma ofRemaining_append (p s : List Char) :
    Position.ofRemaining (p ++ s) s.length = Position.after p := by
  rw [Position.ofRemaining, List.length_append, Nat.add_sub_cancel, List.take_left]

/-! ## Tags as written -/

lemma unbroken_of_isName {name : List Char} (h : isName name = true) :
    ∀ c ∈ name, isBreak c = false := by
  have hchar : ∀ c, isBreak c = true → isNameStart c = false ∧ isNameChar c = false := by
    intro c hc
    rcases isBreak_iff.mp hc with rfl | rfl <;> decide
  intro c hc
  by_contra hbreak
  obtain ⟨hstart, hname⟩ := hchar c (by simpa using hbreak)
  exact notMem_of_isName hstart hname h hc

/-- Attributes are written on one line if their names are. -/
lemma unbroken_renderAttrs {attrs : Attributes}
    (hnames : ∀ a ∈ attrs, ∀ c ∈ a.1.toList, isBreak c = false) :
    ∀ c ∈ renderAttrs attrs, isBreak c = false := by
  have hvalue : ∀ value : List Char, ∀ c ∈ escapeAttr value, isBreak c = false := by
    intro value c hc
    obtain ⟨e, -, hc⟩ := List.mem_flatMap.mp hc
    rw [escapeAttrChar.eq_def] at hc
    split at hc
    case h_8 =>
      rename_i hreturn hfeed _
      rw [List.mem_singleton.mp hc]
      exact isBreak_eq_false_iff.mpr ⟨hfeed, hreturn⟩
    all_goals exact eq_false_of_any (by decide) c hc
  intro c hc
  obtain ⟨a, ha, hc⟩ := List.mem_flatMap.mp hc
  have hname := hnames a ha c
  have hvalue := hvalue a.2.toList c
  simp only [List.mem_append, List.mem_cons, List.not_mem_nil, or_false] at hc
  rcases hc with (((rfl | hc) | rfl | rfl) | hc) | rfl
  · rfl
  · exact hname hc
  · rfl
  · rfl
  · exact hvalue hc
  · rfl

/-! ## Nodes -/

/-- The second node is the first with moved lines. Only character data has several lines. -/
inductive Node.Moved (d : Nat) : Node → Node → Prop
  | text {value value' : String} (h : Indents d false value.toList value'.toList false) :
    Moved d (.text value) (.text value')
  | comment {value : String} (hvalue : ∀ c ∈ value.toList, isBreak c = false) :
    Moved d (.comment value) (.comment value)
  | element {tag : String} {attrs : Attributes} {place : Option Position}
    {content content' : List Node} (htag : ∀ c ∈ tag.toList, isBreak c = false)
    (hattrs : ∀ c ∈ renderAttrs attrs, isBreak c = false)
    (hlength : content.length = content'.length)
    (hcontent : ∀ pair ∈ content.zip content', Moved d pair.1 pair.2) :
    Moved d (.element tag attrs place content)
      (.element tag attrs (place.map (·.moved d)) content')

/-- An element with moved lines, given by its content node for node. -/
lemma Node.Moved.of_forall₂ {d : Nat} {tag : String} {attrs : Attributes} {place : Option Position}
    {content content' : List Node} (htag : ∀ c ∈ tag.toList, isBreak c = false)
    (hattrs : ∀ c ∈ renderAttrs attrs, isBreak c = false)
    (h : List.Forall₂ (Node.Moved d) content content') :
    Node.Moved d (.element tag attrs place content)
      (.element tag attrs (place.map (·.moved d)) content') := by
  obtain ⟨hlength, hzip⟩ := List.forall₂_iff_zip.mp h
  exact .element htag hattrs hlength fun pair hpair => hzip hpair

lemma forall₂_moved {d : Nat} {content content' : List Node}
    (hlength : content.length = content'.length)
    (hcontent : ∀ pair ∈ content.zip content', Node.Moved d pair.1 pair.2) :
    List.Forall₂ (Node.Moved d) content content' :=
  List.forall₂_iff_zip.mpr ⟨hlength, fun hpair => hcontent _ hpair⟩

/-! ## Moved trees as text -/

/-- Character data with moved lines is written with moved lines. -/
lemma indents_escapeText {d : Nat} {kept last : Bool} {s t : List Char}
    (h : Indents d kept s t last) : Indents d kept (escapeText s) (escapeText t) last := by
  have hcons : ∀ c s, escapeText (c :: s) = escapeTextChar c ++ escapeText s := fun _ _ => rfl
  induction h with
  | nil => exact .nil _
  | @character kept last s t c hc hkept h ih =>
    rw [hcons, hcons]
    refine Indents.append ?_ ih
    rw [escapeTextChar.eq_def]
    split
    -- only what is visible is escaped
    case h_4 => exact .character c hc hkept (.nil kept)
    all_goals
      obtain rfl : kept = false := by
        by_contra hwhite
        exact absurd (hkept (by simpa using hwhite)) (by decide)
      exact .refl (eq_false_of_any (by decide))
  | @move kept last s t h ih =>
    have hspaces : escapeText (List.replicate d ' ' ++ t) = List.replicate d ' ' ++ escapeText t := by
      clear h ih
      induction d with
      | zero => rfl
      | succ d ih => rw [List.replicate_succ, List.cons_append, hcons, ih]; rfl
    rw [hcons, hcons, hspaces]
    exact .move ih
  | keep h ih => exact .keep ih

/-- Nodes that are indented one by one are indented as a whole. -/
lemma indents_renderNodes {d : Nat} {content content' : List Node}
    (h : List.Forall₂ (fun n n' => Indents d false n.render n'.render false) content content') :
    Indents d false (renderNodes content) (renderNodes content') false := by
  induction h with
  | nil => exact .nil false
  | cons hn _ ih =>
    rw [renderNodes, renderNodes]
    exact hn.append ih

/-- A tree with moved lines is written with moved lines. -/
theorem Node.Moved.render {d : Nat} {n n' : Node} (h : n.Moved d n') :
    Indents d false n.render n'.render false := by
  induction h with
  | text h => exact indents_escapeText h
  | comment hvalue =>
    refine Indents.refl fun c hc => ?_
    rw [Node.render, List.mem_append, List.mem_append] at hc
    rcases hc with (hc | hc) | hc
    · exact eq_false_of_any (by decide) c hc
    · exact hvalue c hc
    · exact eq_false_of_any (by decide) c hc
  | @element tag attrs place content content' htag hattrs hlength _ ih =>
    -- tags are written without line breaks, so only the content moves
    have hopen : Indents d false ('<' :: (tag.toList ++ renderAttrs attrs))
        ('<' :: (tag.toList ++ renderAttrs attrs)) false :=
      .character '<' rfl (by simp) ((Indents.refl htag).append (.refl hattrs))
    cases content with
    | nil =>
      obtain rfl := List.eq_nil_of_length_eq_zero hlength.symm
      have hclosed := hopen.append (.refl (s := tagEnd true) (eq_false_of_any (by decide)))
      rw [← List.append_nil (Node.render _), render_element_nil,
        ← List.append_nil (Node.render _), render_element_nil]
      simpa using hclosed
    | cons n others =>
      cases content' with
      | nil => cases hlength
      | cons n' others' =>
        have hinner := indents_renderNodes
          (List.forall₂_iff_zip.mpr ⟨hlength, fun {a b} hpair => ih (a, b) hpair⟩)
        have hclose : Indents d false ('<' :: '/' :: (tag.toList ++ ['>']))
            ('<' :: '/' :: (tag.toList ++ ['>'])) false :=
          .character '<' rfl (by simp) (.character '/' rfl (by simp)
            ((Indents.refl htag).append (.refl (eq_false_of_any (by decide)))))
        have hwritten := ((hopen.append (.refl (s := tagEnd false) (eq_false_of_any (by decide)))).append
          hinner).append hclose
        rw [← List.append_nil (Node.render _), render_element_cons,
          ← List.append_nil (Node.render _), render_element_cons]
        simpa using hwritten

/-! ## Trees under construction -/

/-- The second open element is the first with moved lines. -/
structure Frame.Moved (d : Nat) (f f' : Frame) : Prop where
  tag : f'.tag = f.tag
  attrs : f'.attrs = f.attrs
  place : f'.place = f.place.moved d
  unbrokenTag : ∀ c ∈ f.tag.toList, isBreak c = false
  unbrokenAttrs : ∀ c ∈ renderAttrs f.attrs, isBreak c = false
  content : List.Forall₂ (Node.Moved d) f.content f'.content

/-- The node that an open element makes when it is closed. -/
lemma Frame.Moved.closed {d : Nat} {f f' : Frame} (h : f.Moved d f') :
    Node.Moved d (.element f.tag f.attrs (some f.place) f.content.reverse)
      (.element f'.tag f'.attrs (some f'.place) f'.content.reverse) := by
  rw [h.tag, h.attrs, h.place]
  exact .of_forall₂ h.unbrokenTag h.unbrokenAttrs (List.rel_reverse h.content)

namespace Builder

/-- The second tree under construction is the first with moved lines; `kept` says whether the line at
hand has been kept. -/
structure Moved (d : Nat) (kept : Bool) (b b' : Builder) : Prop where
  frames : List.Forall₂ (Frame.Moved d) b.frames b'.frames
  pending : Indents d false b.pending.reverse b'.pending.reverse kept
  root : ∀ e ∈ b.root, ∃ e' ∈ b'.root, e.toNode.Moved d e'.toNode

lemma moved_empty (d : Nat) : Moved d false {} {} :=
  ⟨.nil, .nil false, by simp⟩

namespace Moved

variable {d : Nat} {kept last : Bool} {b b' : Builder}

lemma depth (h : Moved d kept b b') : b'.depth = b.depth :=
  h.frames.length_eq.symm

lemma characters (h : Moved d kept b b') {s t : List Char} (hs : Indents d kept s t last) :
    Moved d last (b.characters s) (b'.characters t) := by
  refine ⟨h.frames, ?_, h.root⟩
  show Indents d false (s.reverse ++ b.pending).reverse (t.reverse ++ b'.pending).reverse last
  rw [List.reverse_append, List.reverse_append, List.reverse_reverse, List.reverse_reverse]
  exact h.pending.append hs

/-- A node that moves may be added to trees that do. -/
lemma add (h : Moved d kept b b') {n n' : Node} (hn : n.Moved d n') :
    Moved d kept (b.add n) (b'.add n') := by
  obtain ⟨hframes, hpending, hroot⟩ := h
  rw [Builder.add, Builder.add]
  generalize hf : b.frames = frames at hframes
  generalize hf' : b'.frames = frames' at hframes
  cases hframes with
  | nil => exact ⟨by rw [hf, hf']; exact .nil, hpending, hroot⟩
  | cons htop houter =>
    refine ⟨.cons ?_ houter, hpending, hroot⟩
    exact { htop with content := .cons hn htop.content }

/-- Pending characters become a text that moves if they do. -/
lemma flush (h : Moved d false b b') : Moved d false b.flush b'.flush := by
  have hempty : b'.pending.isEmpty = b.pending.isEmpty := by
    have hlast := h.pending.head?
    rw [List.head?_reverse, List.head?_reverse] at hlast
    rw [Bool.eq_iff_iff, List.isEmpty_iff, List.isEmpty_iff, ← List.getLast?_eq_none_iff, ← hlast,
      List.getLast?_eq_none_iff]
  rw [Builder.flush, Builder.flush, hempty]
  split
  · exact h
  · have hempty : Moved d false { b with pending := [] } { b' with pending := [] } :=
      ⟨h.frames, .nil false, h.root⟩
    refine hempty.add (.text ?_)
    rw [String.toList_ofList, String.toList_ofList]
    exact h.pending

lemma comment (h : Moved d false b b') {body : List Char}
    (hbody : ∀ c ∈ body, isBreak c = false) :
    Moved d false (b.comment body) (b'.comment body) := by
  refine h.flush.add (.comment ?_)
  rw [String.toList_ofList]
  exact hbody

lemma openElement (h : Moved d false b b') {tag : String} {attrs : Attributes}
    (place : Position) (htag : ∀ c ∈ tag.toList, isBreak c = false)
    (hattrs : ∀ c ∈ renderAttrs attrs, isBreak c = false) :
    Moved d false (b.openElement tag attrs place) (b'.openElement tag attrs (place.moved d)) :=
  ⟨.cons ⟨rfl, rfl, rfl, htag, hattrs, .nil⟩ h.flush.frames, h.flush.pending, h.flush.root⟩

/-- The innermost element becomes the root or a node of the next one. -/
lemma closeElement (h : Moved d false b b') :
    Moved d false b.closeElement b'.closeElement := by
  obtain ⟨hframes, hpending, hroot⟩ := h.flush
  rw [Builder.closeElement, Builder.closeElement]
  generalize hf : b.flush.frames = frames at hframes
  generalize hf' : b'.flush.frames = frames' at hframes
  cases hframes with
  | nil => exact h.flush
  | cons htop houter =>
    cases houter with
    | nil =>
      refine ⟨.nil, hpending, ?_⟩
      intro e he
      obtain rfl := Option.some.inj he
      exact ⟨_, rfl, htop.closed⟩
    | cons hnext houter =>
      have houter : Moved d false { b.flush with frames := _ } { b'.flush with frames := _ } :=
        ⟨.cons hnext houter, hpending, hroot⟩
      exact houter.add htop.closed

end Moved

end Builder

end DocComment.Markup
