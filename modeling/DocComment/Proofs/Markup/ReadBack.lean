import DocComment.Proofs.Markup.Written

/-!
# Written trees are read back

A tree that can be written is read back from its own text, up to the places of its elements.

* `Node.changed` changes character data and places and leaves all else as it is;
* `readContent_element`: reading a written element opens it, puts its content and closes it;
* `readsBack_of_wellFormed`: reading a written node puts the same node, by induction over the tree;
* `readLines_render`: a written element is a document with this element as its root.
-/

namespace DocComment.Markup

/-! ## Trees with changes -/

mutual

/-- A node with its character data and its places changed. -/
def Node.changed (data : String → String) (place : Option Position → Option Position) :
    Node → Node
  | .text value => .text (data value)
  | .comment value => .comment value
  | .element tag attrs p content => .element tag attrs (place p) (changedNodes data place content)

/-- A list of nodes with their character data and their places changed. -/
def changedNodes (data : String → String) (place : Option Position → Option Position) :
    List Node → List Node
  | [] => []
  | n :: rest => n.changed data place :: changedNodes data place rest

end

section

variable (data : String → String) (place : Option Position → Option Position)

lemma changedNodes_eq_map (content : List Node) :
    changedNodes data place content = content.map (·.changed data place) := by
  induction content with
  | nil => rfl
  | cons n rest ih => rw [changedNodes, ih, List.map_cons]

@[simp] lemma isText_changed (n : Node) : (n.changed data place).isText = n.isText := by
  cases n <;> rfl

/-- Changed nodes stand apart alike. -/
lemma isChain_changed (content : List Node) :
    (content.map (·.changed data place)).IsChain Node.Apart ↔ content.IsChain Node.Apart := by
  have hrel : (fun m n : Node => (m.changed data place).Apart (n.changed data place))
      = Node.Apart := by
    funext m n
    rw [Node.Apart, Node.Apart, isText_changed, isText_changed]
  rw [List.isChain_map, hrel]

end

/-- A node without its places. -/
def Node.unplaced (n : Node) : Node :=
  n.changed id fun _ => none

/-- An element without its places. -/
def Element.unplaced (e : Element) : Element :=
  ⟨e.tag, e.attrs, none, e.content.map Node.unplaced⟩

lemma unplaced_element (tag : String) (attrs : Attributes) (place : Option Position)
    (content : List Node) :
    (Node.element tag attrs place content).unplaced
      = .element tag attrs none (content.map Node.unplaced) := by
  show Node.element tag attrs none (changedNodes id (fun _ => none) content) = _
  rw [changedNodes_eq_map]
  rfl

/-- Nodes that are the same up to places stand apart alike. -/
lemma isChain_apart_of_unplaced {content content' : List Node}
    (h : content'.map Node.unplaced = content.map Node.unplaced)
    (hapart : content.IsChain Node.Apart) : content'.IsChain Node.Apart := by
  refine (isChain_changed id (fun _ => none) content').mp ?_
  exact h ▸ (isChain_changed id (fun _ => none) content).mpr hapart

/-! ## Putting nodes -/

namespace Builder

/-- The effect of reading a node: character data is pending until another node follows it. -/
def put (b : Builder) : Node → Builder
  | .text value => b.characters value.toList
  | n => b.flush.add n

lemma put_of_not_isText (b : Builder) {n : Node} (hn : n.isText = false) :
    b.put n = b.flush.add n := by
  cases n with
  | text value => cases hn
  | comment value => rfl
  | element tag attrs place content => rfl

@[simp] lemma pending_add (b : Builder) (n : Node) : (b.add n).pending = b.pending := by
  rw [add]
  split <;> rfl

@[simp] lemma pending_flush (b : Builder) : b.flush.pending = [] := by
  rw [flush]
  split
  · rename_i hpending
    exact List.isEmpty_iff.mp hpending
  · rw [pending_add]

lemma flush_of_pending {b : Builder} (h : b.pending = []) : b.flush = b := by
  rw [flush, h]
  rfl

@[simp] lemma depth_put (b : Builder) (n : Node) : (b.put n).depth = b.depth := by
  cases n <;> simp [put]

@[simp] lemma depth_foldl_put (b : Builder) (content : List Node) :
    (content.foldl put b).depth = b.depth := by
  induction content generalizing b with
  | nil => rfl
  | cons n rest ih => rw [List.foldl_cons, ih, depth_put]

/-- Characters that follow a node make a node of their own. -/
lemma flush_characters {b : Builder} (h : b.pending = []) {value : String}
    (hne : value.toList ≠ []) : (b.characters value.toList).flush = b.add (.text value) := by
  have hpending : (b.characters value.toList).pending = value.toList.reverse := by
    rw [characters, h, List.append_nil]
  have hrest : { b.characters value.toList with pending := [] } = b := by
    rw [← h]
    rfl
  rw [flush, hpending, if_neg (by simpa using hne), hrest, List.reverse_reverse,
    String.ofList_toList]

/-- Putting nodes one after the other adds them all, once the characters at the end are made a
node. -/
lemma flush_foldl_put {content : List Node} (hwf : ∀ n ∈ content, n.WellFormed)
    (hapart : content.IsChain Node.Apart) (b : Builder)
    (hfirst : b.pending ≠ [] → ∀ n ∈ content.head?, n.isText = false) :
    (content.foldl put b).flush = content.foldl add b.flush := by
  induction content generalizing b with
  | nil => rfl
  | cons n rest ih =>
    obtain ⟨hn, hrest⟩ := List.forall_mem_cons.mp hwf
    obtain ⟨hnext, hapart'⟩ := List.isChain_cons.mp hapart
    rw [List.foldl_cons, List.foldl_cons]
    cases hkind : n.isText with
    | true =>
      -- character data is put only where none is pending
      obtain ⟨value, rfl, hne⟩ := hn.exists_text hkind
      have hpending : b.pending = [] := by
        by_contra hpending
        cases hfirst hpending _ rfl
      have hafter : ∀ m ∈ rest.head?, m.isText = false := by
        intro m hm
        simpa [Node.Apart, hkind] using hnext m hm
      rw [ih hrest hapart' _ fun _ => hafter, put, flush_characters hpending hne,
        flush_of_pending hpending]
    | false =>
      have hpending : (b.flush.add n).pending = [] := by simp
      rw [put_of_not_isText b hkind, ih hrest hapart' _ fun h => absurd hpending h,
        flush_of_pending hpending]

lemma frames_add {b : Builder} {top : Frame} {outer : List Frame}
    (hframes : b.frames = top :: outer) (n : Node) :
    (b.add n).frames = { top with content := n :: top.content } :: outer := by
  rw [add, hframes]

/-- Nodes that are added to the innermost element stand after its content. -/
lemma foldl_add (content : List Node) (b : Builder) (top : Frame) (outer : List Frame)
    (hframes : b.frames = top :: outer) :
    content.foldl add b
      = { b with frames := { top with content := content.reverse ++ top.content } :: outer } := by
  induction content generalizing b top with
  | nil =>
    rw [List.foldl_nil, List.reverse_nil, List.nil_append, ← hframes]
  | cons n rest ih =>
    rw [List.foldl_cons, ih _ _ (frames_add hframes n), add, hframes, List.reverse_cons,
      List.append_assoc]
    rfl

/-- Putting a node leaves the innermost element open. -/
lemma frames_put {b : Builder} {top : Frame} {outer : List Frame}
    (hframes : b.frames = top :: outer) (n : Node) :
    ∃ inner, (b.put n).frames = { top with content := inner } :: outer := by
  have hflush : ∃ inner, b.flush.frames = { top with content := inner } :: outer := by
    rw [flush]
    split
    · exact ⟨top.content, hframes⟩
    · exact ⟨_, frames_add (b := { b with pending := [] }) hframes _⟩
  obtain ⟨inner, hflush⟩ := hflush
  cases n with
  | text value => exact ⟨top.content, hframes⟩
  | comment value => exact ⟨_, frames_add hflush _⟩
  | element tag attrs place content => exact ⟨_, frames_add hflush _⟩

/-- Putting nodes leaves the innermost element open. -/
lemma frames_foldl_put (content : List Node) {b : Builder} {top : Frame} {outer : List Frame}
    (hframes : b.frames = top :: outer) :
    ∃ inner, (content.foldl put b).frames = { top with content := inner } :: outer := by
  induction content generalizing b top with
  | nil => exact ⟨top.content, hframes⟩
  | cons n rest ih =>
    obtain ⟨inner, hput⟩ := frames_put hframes n
    obtain ⟨inner', hrest⟩ := ih hput
    exact ⟨inner', hrest⟩

section

variable {content : List Node} (hwf : ∀ n ∈ content, n.WellFormed)
  (hapart : content.IsChain Node.Apart) (tag : String) (attrs : Attributes) (place : Position)

include hwf hapart

/-- An element that is opened and filled holds what was put into it. -/
lemma flush_foldl_put_openElement (b : Builder) :
    (content.foldl put (b.openElement tag attrs place)).flush
      = { b.flush with frames := ⟨tag, attrs, place, content.reverse⟩ :: b.flush.frames } := by
  have hpending : (b.openElement tag attrs place).pending = [] := pending_flush b
  rw [flush_foldl_put hwf hapart _ fun h => absurd hpending h, flush_of_pending hpending,
    foldl_add content _ ⟨tag, attrs, place, []⟩ b.flush.frames rfl, List.append_nil]
  rfl

/-- An element that is opened, filled and closed is put into the element around it. -/
lemma closeElement_foldl_put {b : Builder} (hopen : 0 < b.depth) :
    (content.foldl put (b.openElement tag attrs place)).closeElement
      = b.put (.element tag attrs (some place) content) := by
  rw [closeElement, flush_foldl_put_openElement hwf hapart]
  rw [← depth_flush, depth] at hopen
  cases hframes : b.flush.frames with
  | nil => simp [hframes] at hopen
  | cons top outer =>
    show ({ b.flush with frames := top :: outer } : Builder).add _ = b.flush.add _
    rw [← hframes, List.reverse_reverse]

/-- An element that is opened, filled and closed where nothing is open is the root. -/
lemma closeElement_foldl_put_root :
    (content.foldl put (({} : Builder).openElement tag attrs place)).closeElement
      = { root := some ⟨tag, attrs, some place, content⟩ } := by
  rw [closeElement, flush_foldl_put_openElement hwf hapart]
  show ({ root := some ⟨tag, attrs, some place, content.reverse.reverse⟩ } : Builder) = _
  rw [List.reverse_reverse]

end

end Builder

open Builder

/-! ## Reading what is written -/

section

variable {expand : Scope → String → List Char → Nat → Builder → Except Failure Builder}
  {scope : Scope} {c : Char} {rest after : List Char}

/-- Reading goes on after a lexeme that stands for a character. -/
lemma readContent_character {lexeme : Lexeme} {d : Char} (hd : lexeme.char? = some d)
    (hnext : Lexeme.next c rest = .found lexeme after) (b : Builder) :
    readContent expand scope (c :: rest) b = readContent expand scope after (b.character d) := by
  rw [readContent]
  grind [Lexeme.char?]

/-- Reading goes on after a comment. -/
lemma readContent_comment {body : List Char}
    (hnext : Lexeme.next c rest = .found (.comment body) after) (b : Builder) :
    readContent expand scope (c :: rest) b
      = readContent expand scope after (b.comment (Text.toLineFeeds body)) := by
  rw [readContent]
  grind

/-- Reading goes on after an end tag unless it has closed the root. -/
lemma readContent_endTag {tag : String} (hnext : Lexeme.next c rest = .found (.endTag tag) after)
    (b : Builder) :
    readContent expand scope (c :: rest) b
      = (b.endTag scope tag (rest.length + 1)).bind fun b' =>
          if b'.depth = 0 then .ok (b', after) else readContent expand scope after b' := by
  rw [readContent]
  grind [Except.bind]

/-- Written character data before a tag is read as its characters. -/
lemma readContent_escapeText {value : List Char} (hvalue : ∀ c ∈ value, isChar c = true)
    (rest : List Char) (b : Builder) :
    readContent expand scope (escapeText value ++ '<' :: rest) b
      = readContent expand scope ('<' :: rest) (b.characters value) := by
  induction value generalizing b with
  | nil => rfl
  | cons c value ih =>
    obtain ⟨hc, hvalue⟩ := List.forall_mem_cons.mp hvalue
    obtain ⟨d, s, lexeme, hwritten, hchar, hnext⟩ :=
      next_escapeTextChar hc fun _ => isPrefixOf_escapeText value rest
    have hcons : escapeText (c :: value) = escapeTextChar c ++ escapeText value := rfl
    rw [hcons, List.append_assoc, hwritten, readContent_character hchar hnext, ih hvalue,
      characters_cons]

/-- A start tag opens its element where nothing is declared. -/
lemma startTag_of_spells (hdoc : scope.doc = {}) {raw : List RawAttribute} {attrs : Attributes}
    (hraw : List.Forall₂ RawAttribute.Spells raw attrs) (hattrs : attrs.WellFormed) (tag : String)
    (closed : Bool) (here : Nat) (b : Builder) :
    ∃ place, b.startTag scope tag raw closed here
      = .ok (if closed then (b.openElement tag attrs place).closeElement
          else b.openElement tag attrs place) := by
  refine ⟨scope.locate (scope.remaining here), ?_⟩
  rw [Builder.startTag, hdoc, attributes_of_spells hraw hattrs]

/-- Whether reading a written node puts the same node, up to places; character data must stand
before a tag or a comment. -/
def ReadsBack (expand : Scope → String → List Char → Nat → Builder → Except Failure Builder)
    (scope : Scope) (n : Node) : Prop :=
  ∀ (b : Builder) (rest : List Char), 0 < b.depth → (n.isText = true → rest.head? = some '<') →
    ∃ n' : Node, n'.WellFormed ∧ n'.unplaced = n.unplaced ∧
      readContent expand scope (n.render ++ rest) b = readContent expand scope rest (b.put n')

/-- Written nodes go on with a tag or a comment unless the first is character data. -/
lemma head?_renderNodes {content : List Node} (hfirst : ∀ n ∈ content.head?, n.isText = false)
    (rest : List Char) : (renderNodes content ++ '<' :: rest).head? = some '<' := by
  cases content with
  | nil => rfl
  | cons n others =>
    have hn := hfirst n rfl
    cases n with
    | text value => cases hn
    | comment value => rfl
    | element tag attrs place content => cases content <;> simp [renderNodes, Node.render]

/-- Reading written nodes puts the same nodes. -/
lemma readContent_renderNodes {content : List Node} (h : ∀ n ∈ content, ReadsBack expand scope n)
    (hapart : content.IsChain Node.Apart) {b : Builder} (hopen : 0 < b.depth) (rest : List Char) :
    ∃ content' : List Node, (∀ n ∈ content', n.WellFormed) ∧
      content'.map Node.unplaced = content.map Node.unplaced ∧
      readContent expand scope (renderNodes content ++ '<' :: rest) b
        = readContent expand scope ('<' :: rest) (content'.foldl put b) := by
  induction content generalizing b with
  | nil => exact ⟨[], List.forall_mem_nil _, rfl, rfl⟩
  | cons n others ih =>
    obtain ⟨hn, hothers⟩ := List.forall_mem_cons.mp h
    obtain ⟨hnext, hapart⟩ := List.isChain_cons.mp hapart
    -- character data goes up to the next node, which is of another kind, or to the end tag
    have hhead : n.isText = true → (renderNodes others ++ '<' :: rest).head? = some '<' := by
      intro htext
      refine head?_renderNodes (fun m hm => ?_) rest
      simpa [Node.Apart, htext] using hnext m hm
    obtain ⟨n', hwf, hsame, hread⟩ := hn b _ hopen hhead
    have hopen' : 0 < (b.put n').depth := by rwa [depth_put]
    obtain ⟨others', hwfs, hsames, hreads⟩ := ih hothers hapart hopen'
    refine ⟨n' :: others', List.forall_mem_cons.mpr ⟨hwf, hwfs⟩, ?_, ?_⟩
    · rw [List.map_cons, List.map_cons, hsame, hsames]
    · rw [renderNodes, List.append_assoc, hread, hreads, List.foldl_cons]

/-- Reading a written element opens it, puts its content and closes it; where nothing was open this
ends the reading. -/
lemma readContent_element (hdoc : scope.doc = {}) (hfloor : scope.floor = 0) {tag : String}
    (htag : isName tag.toList = true) {attrs : Attributes} (hattrs : attrs.WellFormed)
    {content : List Node} (hcontent : ∀ n ∈ content, ReadsBack expand scope n)
    (hapart : content.IsChain Node.Apart) (place : Option Position) (rest : List Char)
    (b : Builder) :
    ∃ (place' : Position) (content' : List Node), (∀ n ∈ content', n.WellFormed) ∧
      content'.map Node.unplaced = content.map Node.unplaced ∧
      readContent expand scope ((Node.element tag attrs place content).render ++ rest) b
        = let b' := (content'.foldl put (b.openElement tag attrs place')).closeElement
          if b'.depth = 0 then .ok (b', rest) else readContent expand scope rest b' := by
  cases content with
  | nil =>
    obtain ⟨raw, hraw, hnext⟩ := next_startTag htag hattrs true rest
    rw [render_element_nil, readContent_startTag hnext]
    generalize (tag.toList ++ _).length + 1 = here
    obtain ⟨place', hstart⟩ := startTag_of_spells hdoc hraw hattrs tag true here b
    refine ⟨place', [], List.forall_mem_nil _, rfl, ?_⟩
    rw [hstart]
    rfl
  | cons n others =>
    let written := renderNodes (n :: others) ++ '<' :: '/' :: (tag.toList ++ '>' :: rest)
    obtain ⟨raw, hraw, hnext⟩ := next_startTag htag hattrs false written
    rw [render_element_cons, readContent_startTag hnext]
    generalize (tag.toList ++ _).length + 1 = here
    obtain ⟨place', hstart⟩ := startTag_of_spells hdoc hraw hattrs tag false here b
    have hopen : 0 < (b.openElement tag attrs place').depth := by simp
    obtain ⟨content', hwf, hsame, hread⟩ := readContent_renderNodes hcontent hapart hopen
      ('/' :: (tag.toList ++ '>' :: rest))
    refine ⟨place', content', hwf, hsame, ?_⟩
    -- the end tag closes the element that the start tag has opened
    obtain ⟨inner, hframes⟩ := frames_foldl_put content' (b := b.openElement tag attrs place') rfl
    have hend : ∀ here, (content'.foldl put (b.openElement tag attrs place')).endTag scope tag here
        = .ok (content'.foldl put (b.openElement tag attrs place')).closeElement := by
      intro here
      rw [Builder.endTag, hframes]
      dsimp only
      rw [if_neg (by simp [hfloor]), if_pos rfl]
    rw [hstart]
    show (if (b.openElement tag attrs place').depth = 0
      then .ok (b.openElement tag attrs place', written)
      else readContent expand scope written (b.openElement tag attrs place')) = _
    rw [if_neg hopen.ne', hread, readContent_endTag (next_endTag htag rest), hend]
    rfl

/-- Every node that can be written is read back. -/
theorem readsBack_of_wellFormed (hdoc : scope.doc = {}) (hfloor : scope.floor = 0) {n : Node}
    (h : n.WellFormed) : ReadsBack expand scope n := by
  induction h with
  | text hne hchars =>
    rename_i value
    intro b rest _ hrest
    refine ⟨.text value, .text hne hchars, rfl, ?_⟩
    -- characters go on until markup begins, which a text in a tree always meets
    obtain ⟨r, rfl⟩ : ∃ r, rest = '<' :: r := by
      cases rest with
      | nil => cases hrest rfl
      | cons c r => exact ⟨r, by rw [Option.some.inj (hrest rfl)]⟩
    rw [Node.render, readContent_escapeText hchars]
    rfl
  | comment hchars hreturn hsafe =>
    rename_i value
    intro b rest _ _
    refine ⟨.comment value, .comment hchars hreturn hsafe, rfl, ?_⟩
    have hwritten : (Node.comment value).render ++ rest
        = '<' :: '!' :: '-' :: '-' :: (value.toList ++ '-' :: '-' :: '>' :: rest) := by
      simp [Node.render]
    rw [hwritten, readContent_comment (next_comment hchars hsafe rest),
      Text.toLineFeeds_of_notMem hreturn, Builder.comment, String.ofList_toList]
    rfl
  | element htag hattrs hcontent hapart ih =>
    rename_i tag attrs place content
    intro b rest hopen _
    obtain ⟨place', content', hwf, hsame, hread⟩ :=
      readContent_element hdoc hfloor htag hattrs ih hapart place rest b
    have hapart' := isChain_apart_of_unplaced hsame hapart
    refine ⟨.element tag attrs (some place') content', .element htag hattrs hwf hapart', ?_, ?_⟩
    · rw [unplaced_element, unplaced_element, hsame]
    · rw [closeElement_foldl_put hwf hapart' tag attrs place' hopen] at hread
      rw [hread, if_neg (by rw [depth_put]; exact hopen.ne')]

end

/-! ## Documents -/

/-- A written element begins with its tag. -/
lemma exists_render_eq (e : Element) : ∃ r, e.render = '<' :: (e.tag.toList ++ r) := by
  obtain ⟨tag, attrs, place, content⟩ := e
  have happend := List.append_nil (Node.element tag attrs place content).render
  cases content with
  | nil => exact ⟨_, happend.symm.trans (render_element_nil tag attrs place [])⟩
  | cons n others => exact ⟨_, happend.symm.trans (render_element_cons tag attrs place n others [])⟩

/-- A written element is a document with this element as its root, up to places. -/
theorem readLines_render {e : Element} (h : e.toNode.WellFormed) :
    ∃ root : Element, readLines e.render = .ok root ∧ root.unplaced = e.unplaced := by
  obtain ⟨tag, attrs, place, content⟩ := e
  cases h with
  | element htag hattrs hcontent hapart =>
    -- the document has no prolog, so nothing is declared in it
    obtain ⟨r, hrender⟩ := exists_render_eq ⟨tag, attrs, place, content⟩
    have hprolog := readProlog_rootStart (startsTag_of_isName htag r) {} .start
    rw [if_pos (by rfl)] at hprolog
    let scope : Scope := { doc := {}, locate := Position.ofRemaining ('<' :: (tag.toList ++ r)) }
    have hreads : ∀ n ∈ content, ReadsBack (expandEntity 1) scope n :=
      fun n hn => readsBack_of_wellFormed rfl rfl (hcontent n hn)
    obtain ⟨place', content', hwf, hsame, hread⟩ :=
      readContent_element rfl rfl htag hattrs hreads hapart place [] {}
    have hapart' := isChain_apart_of_unplaced hsame hapart
    rw [List.append_nil, closeElement_foldl_put_root hwf hapart'] at hread
    refine ⟨⟨tag, attrs, some place', content'⟩, ?_, ?_⟩
    · have hcontent : readContent (expandEntity 1) scope ('<' :: (tag.toList ++ r)) {}
          = .ok ({ root := some ⟨tag, attrs, some place', content'⟩ }, []) := by
        rw [← hrender]
        exact hread
      have hepilog : Doctype.checkEpilog [] = .ok () := by rw [Doctype.checkEpilog]
      rw [hrender]
      exact readLines_eq_ok.mpr ⟨{}, _, _, [], hprolog, hcontent, hepilog, rfl⟩
    · rw [Element.unplaced, Element.unplaced, hsame]

end DocComment.Markup
