import DocComment.Proofs.Markup.Construction
import DocComment.Proofs.Text.LineFeeds

/-!
# Trees that can be written

A tree that has been read holds only what can be written down again: names where names stand,
characters of documents elsewhere, comments whose hyphens do not end them, and no two nodes of
character data next to each other. `Builder.Step.wellFormed` says that every step of construction
keeps this, and `readLines_wellFormed` that every document that can be read has such a tree.
-/

namespace DocComment.Markup

/-! ## Comments with line feeds -/

/-- Making line feeds of line breaks brings no hyphens together. -/
lemma HyphenSafe.toLineFeeds {s : List Char} (h : HyphenSafe s) :
    HyphenSafe (Text.toLineFeeds s) := by
  have hchain : ∀ {l : List Char}, (l.IsChain fun a b => ¬ (a = '-' ∧ b = '-')) →
      (Text.toLineFeeds l).IsChain fun a b => ¬ (a = '-' ∧ b = '-') := by
    intro l hl
    fun_induction Text.toLineFeeds l with
    | case1 => exact hl
    | case2 rest ih =>
      refine List.isChain_cons.mpr ⟨?_, ih hl.tail.tail⟩
      rintro _ _ ⟨hfeed, -⟩
      exact absurd hfeed (by decide)
    | case3 c rest _ ih =>
      refine List.isChain_cons.mpr ⟨?_, ih hl.tail⟩
      -- a hyphen that comes first in the new text came first before
      rintro d hd ⟨hc, rfl⟩
      have hrest := Text.head?_of_head?_toLineFeeds (by decide) hd
      split at hc
      · exact absurd hc (by decide)
      · exact (List.isChain_cons.mp hl).1 _ hrest ⟨hc, rfl⟩
  have happend := Text.toLineFeeds_append (s := s) (t := ['-']) fun _ => by decide
  rw [HyphenSafe]
  exact happend ▸ hchain h

lemma isChar_toLineFeeds {s : List Char} (h : ∀ c ∈ s, isChar c = true) :
    ∀ c ∈ Text.toLineFeeds s, isChar c = true := by
  intro c hc
  rcases (Text.mem_toLineFeeds hc).1 with rfl | hmem
  · rfl
  · exact h c hmem

/-! ## Nodes -/

/-- Whether a node is character data. -/
def Node.isText : Node → Bool
  | .text _ => true
  | _ => false

/-- Whether two nodes can stand next to each other: character data next to each other is one
node. -/
def Node.Apart (m n : Node) : Prop :=
  ¬ (m.isText = true ∧ n.isText = true)

lemma Node.Apart.symm {m n : Node} (h : m.Apart n) : n.Apart m :=
  fun hboth => h hboth.symm

/-- A node that can be written. -/
inductive Node.WellFormed : Node → Prop
  | text {value : String} (hne : value.toList ≠ [])
    (hchars : ∀ c ∈ value.toList, isChar c = true) : WellFormed (.text value)
  | comment {value : String} (hchars : ∀ c ∈ value.toList, isChar c = true)
    (hreturn : '\r' ∉ value.toList) (hsafe : HyphenSafe value.toList) : WellFormed (.comment value)
  | element {tag : String} {attrs : Attributes} {place : Option Position} {content : List Node}
    (htag : isName tag.toList = true) (hattrs : attrs.WellFormed)
    (hcontent : ∀ n ∈ content, n.WellFormed) (hapart : content.IsChain Node.Apart) :
    WellFormed (.element tag attrs place content)

lemma Node.WellFormed.exists_text {n : Node} (h : n.WellFormed) (htext : n.isText = true) :
    ∃ value : String, n = .text value ∧ value.toList ≠ [] := by
  cases h with
  | text hne _ => exact ⟨_, rfl, hne⟩
  | comment => cases htext
  | element => cases htext

lemma mem_elementsOf {content : List Node} {e : Element} :
    e ∈ elementsOf content ↔ ∃ n ∈ content, e ∈ n.elements := by
  induction content with
  | nil => simp [elementsOf]
  | cons n rest ih => rw [elementsOf, List.mem_append, ih, List.exists_mem_cons_iff]

/-- Every element of a node that can be written can be written. -/
lemma Node.WellFormed.elements {n : Node} (h : n.WellFormed) :
    ∀ e ∈ n.elements, e.toNode.WellFormed := by
  induction h with
  | text => simp [Node.elements]
  | comment => simp [Node.elements]
  | element htag hattrs hcontent hapart ih =>
    intro e he
    rw [Node.elements] at he
    rcases List.mem_cons.mp he with rfl | he
    · exact .element htag hattrs hcontent hapart
    · obtain ⟨n, hn, he⟩ := mem_elementsOf.mp he
      exact ih n hn e he

/-! ## Trees under construction -/

/-- An open element that can be written. -/
structure Frame.WellFormed (frame : Frame) : Prop where
  tag : isName frame.tag.toList = true
  attrs : frame.attrs.WellFormed
  content : ∀ n ∈ frame.content, n.WellFormed
  apart : frame.content.IsChain Node.Apart

/-- An open element makes a node when it is closed. -/
lemma Frame.WellFormed.closed {frame : Frame} (h : frame.WellFormed) (place : Option Position) :
    (Node.element frame.tag frame.attrs place frame.content.reverse).WellFormed := by
  refine .element h.tag h.attrs ?_ ?_
  · intro n hn
    exact h.content n (List.mem_reverse.mp hn)
  · exact List.isChain_reverse.mpr (h.apart.imp fun _ _ hapart => hapart.symm)

namespace Builder

/-- Whether characters can be made a node: the last node of the innermost element is none of
characters. -/
def TextReady (b : Builder) : Prop :=
  ∀ frame ∈ b.frames.head?, ∀ last ∈ frame.content.head?, last.isText = false

/-- A tree under construction that can be written once it is closed. -/
structure WellFormed (b : Builder) : Prop where
  frames : ∀ frame ∈ b.frames, frame.WellFormed
  pending : ∀ c ∈ b.pending, isChar c = true
  root : ∀ root ∈ b.root, root.toNode.WellFormed

/-- A node may be added to the innermost element, a text only behind something else. -/
lemma WellFormed.add {b : Builder} (h : b.WellFormed) {n : Node} (hn : n.WellFormed)
    (hready : n.isText = true → b.TextReady) : (b.add n).WellFormed := by
  rw [Builder.add]
  split
  · exact h
  · rename_i top outer hframes
    refine ⟨?_, h.pending, h.root⟩
    have hall := h.frames
    rw [hframes] at hall
    obtain ⟨htop, houter⟩ := List.forall_mem_cons.mp hall
    refine List.forall_mem_cons.mpr ⟨⟨htop.tag, htop.attrs, ?_, ?_⟩, houter⟩
    · exact List.forall_mem_cons.mpr ⟨hn, htop.content⟩
    · -- only a node of characters asks what stands before it
      refine List.isChain_cons.mpr ⟨?_, htop.apart⟩
      rintro last hlast ⟨htext, hlastText⟩
      have hnot := hready htext top (by rw [hframes]; rfl) last hlast
      rw [hnot] at hlastText
      cases hlastText

/-- Behind a node that is no text there may be one. -/
lemma textReady_add {b : Builder} {n : Node} (hn : n.isText = false) : (b.add n).TextReady := by
  intro frame hframe last hlast
  rw [Builder.add] at hframe
  split at hframe
  · rename_i hframes
    rw [hframes] at hframe
    cases hframe
  · obtain rfl := Option.some.inj hframe
    obtain rfl := Option.some.inj hlast
    exact hn

/-- The characters since the last node make a node. -/
lemma WellFormed.flush {b : Builder} (h : b.WellFormed) (hready : b.TextReady) :
    b.flush.WellFormed := by
  rw [Builder.flush]
  split
  · exact h
  · rename_i hpending
    have hempty : ({ b with pending := [] } : Builder).WellFormed :=
      ⟨h.frames, List.forall_mem_nil _, h.root⟩
    refine hempty.add (.text ?_ ?_) fun _ => hready
    · simpa using hpending
    · intro c hc
      rw [String.toList_ofList, List.mem_reverse] at hc
      exact h.pending c hc

/-- A comment may be added with line feeds for its line breaks. -/
lemma WellFormed.comment {b : Builder} (h : b.WellFormed) (hready : b.TextReady)
    {body : List Char} (hchars : ∀ c ∈ body, isChar c = true) (hsafe : HyphenSafe body) :
    (b.comment (Text.toLineFeeds body)).WellFormed := by
  refine (h.flush hready).add (.comment ?_ ?_ ?_) fun htext => by cases htext
  · rw [String.toList_ofList]
    exact isChar_toLineFeeds hchars
  · rw [String.toList_ofList]
    exact fun hmem => (Text.mem_toLineFeeds hmem).2 rfl
  · rw [String.toList_ofList]
    exact hsafe.toLineFeeds

lemma WellFormed.openElement {b : Builder} (h : b.WellFormed) (hready : b.TextReady)
    {tag : String} {attrs : Attributes} (place : Position) (htag : isName tag.toList = true)
    (hattrs : attrs.WellFormed) : (b.openElement tag attrs place).WellFormed := by
  have hflush := h.flush hready
  refine ⟨?_, hflush.pending, hflush.root⟩
  refine List.forall_mem_cons.mpr ⟨⟨htag, hattrs, by simp, List.isChain_nil⟩, hflush.frames⟩

/-- The innermost element is well formed when it is closed, as a node and as the root. -/
lemma WellFormed.closeElement {b : Builder} (h : b.WellFormed) (hready : b.TextReady) :
    b.closeElement.WellFormed := by
  have hflush := h.flush hready
  have hframes := hflush.frames
  rw [Builder.closeElement]
  split
  · exact hflush
  · rename_i top htop
    rw [htop] at hframes
    refine ⟨List.forall_mem_nil _, hflush.pending, ?_⟩
    intro root hroot
    obtain rfl := Option.some.inj hroot
    exact (hframes top List.mem_cons_self).closed _
  · rename_i top outer _ htop
    rw [htop] at hframes
    obtain ⟨htop, houter⟩ := List.forall_mem_cons.mp hframes
    have hrest : ({ b.flush with frames := outer } : Builder).WellFormed :=
      ⟨houter, hflush.pending, hflush.root⟩
    exact hrest.add (htop.closed _) fun htext => by cases htext

lemma textReady_openElement (b : Builder) (tag : String) (attrs : Attributes) (place : Position) :
    (b.openElement tag attrs place).TextReady := by
  intro frame hframe last hlast
  obtain rfl := Option.some.inj hframe
  cases hlast

/-- Behind an element that has been closed there may be a text. -/
lemma textReady_closeElement (b : Builder) : b.closeElement.TextReady := by
  rw [Builder.closeElement]
  split
  · rename_i hframes
    intro frame hframe
    rw [hframes] at hframe
    cases hframe
  · intro frame hframe
    cases hframe
  · exact textReady_add rfl

/-- Every step keeps a tree under construction well-formed. -/
theorem Step.wellFormed {b b' : Builder} (h : Step b b') (hb : b.WellFormed ∧ b.TextReady) :
    b'.WellFormed ∧ b'.TextReady := by
  obtain ⟨hwf, hready⟩ := hb
  cases h with
  | character c _ hc =>
    exact ⟨⟨hwf.frames, List.forall_mem_cons.mpr ⟨hc, hwf.pending⟩, hwf.root⟩, hready⟩
  | comment body _ hchars hsafe =>
    exact ⟨hwf.comment hready hchars hsafe, textReady_add rfl⟩
  | openElement tag attrs place _ htag hattrs =>
    exact ⟨hwf.openElement hready place htag hattrs, textReady_openElement b tag attrs place⟩
  | closeElement _ => exact ⟨hwf.closeElement hready, textReady_closeElement b⟩

lemma wellFormed_empty : ({} : Builder).WellFormed :=
  ⟨List.forall_mem_nil _, List.forall_mem_nil _, by simp⟩

lemma textReady_empty : ({} : Builder).TextReady := by
  intro frame hframe
  cases hframe

end Builder

/-! ## Documents -/

/-- The tree of a text whose line breaks are line feeds can be written. -/
theorem readLines_wellFormed {s : List Char} {root : Element} (h : readLines s = .ok root) :
    root.toNode.WellFormed := by
  obtain ⟨doc, r, tag, attrs, place, b, -, -, htag, hattrs, hsteps, hroot⟩ := readLines_steps h
  have hopen := Builder.wellFormed_empty.openElement Builder.textReady_empty place htag hattrs
  have hready := Builder.textReady_openElement {} tag attrs place
  have hb := hsteps.invariant (I := fun b => b.WellFormed ∧ b.TextReady) Builder.Step.wellFormed
    ⟨hopen, hready⟩
  exact hb.1.root root hroot

end DocComment.Markup
