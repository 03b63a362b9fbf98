import DocComment.Proofs.Markup.Encoding
import DocComment.Proofs.Markup.Locality
import DocComment.Proofs.Markup.MovedTree

/-!
# Where elements stand

Every element that is read remembers the place of its start tag. The start tags of a tree under
construction are recorded in document order, which is the order in which they stand in the text:
opening an element adds one at the end, and nothing else that is read changes them. In a document
without entities, therefore, the places of the elements are those of their tags and all differ.

* `SitesIn` says that start tags stand in a text one behind the other;
* `readContent_sites`: what reading a content adds to the start tags;
* `exists_splitOn_append`: the line and the column of a place;
* `parse_fragment_places`: the elements of a wrapped text, in the text before wrapping.
-/

namespace DocComment.Markup

open DocComment.Text

/-! ## Places -/

/-- Behind a text the line is a later one, or the column has grown by the length of the text. -/
lemma foldl_step_grows (s : List Char) (p : Position) :
    p.line < (s.foldl Position.step p).line ∨
      (s.foldl Position.step p).line = p.line ∧
        (s.foldl Position.step p).column = p.column + s.length := by
  induction s generalizing p with
  | nil => exact Or.inr ⟨rfl, rfl⟩
  | cons c s ih =>
    rw [List.foldl_cons, List.length_cons]
    have hrest := ih (p.step c)
    by_cases hc : c = '\n'
    · have hline : (p.step c).line = p.line + 1 := by rw [Position.step, if_pos hc]
      omega
    · have hline : (p.step c).line = p.line := by rw [Position.step, if_neg hc]
      have hcolumn : (p.step c).column = p.column + 1 := by rw [Position.step, if_neg hc]
      omega

/-- The place behind a longer text is another one. -/
lemma after_append_ne (s : List Char) {t : List Char} (ht : t ≠ []) :
    Position.after (s ++ t) ≠ Position.after s := by
  intro h
  rw [Position.after, List.foldl_append] at h
  have hlength := List.length_pos_iff.mpr ht
  have hgrown := foldl_step_grows t (Position.after s)
  have hline := congrArg Position.line h
  have hcolumn := congrArg Position.column h
  simp only [Position.after] at hline hcolumn hgrown
  omega

lemma after_concat (s : List Char) (c : Char) :
    Position.after (s ++ [c]) = (Position.after s).step c :=
  List.foldl_concat ..

/-- In front of a place stand as many lines as it says, the one at hand included, and on that one as
many characters. -/
lemma exists_splitOn_append (s : List Char) :
    ∃ above left, above.length + 1 = (Position.after s).line ∧
      left.length = (Position.after s).column ∧
      ∀ {t first others}, splitOn '\n' t = first :: others →
        splitOn '\n' (s ++ t) = above ++ (left ++ first) :: others := by
  induction s using List.reverseRecOn with
  | nil => exact ⟨[], [], rfl, rfl, id⟩
  | append_singleton s c ih =>
    obtain ⟨above, left, habove, hleft, hsplit⟩ := ih
    rw [after_concat, Position.step]
    by_cases hc : c = '\n'
    · subst hc
      refine ⟨above ++ [left], [], ?_, ?_, fun {t first others} ht => ?_⟩
      · simp [← habove]
      · simp
      · have hbehind := hsplit (splitOn_cons_self t)
        rw [ht, List.append_nil] at hbehind
        simpa using hbehind
    · refine ⟨above, left ++ [c], ?_, ?_, fun {t first others} ht => ?_⟩
      · simpa [hc] using habove
      · simp [hc, hleft]
      · simpa using hsplit (splitOn_cons_of_ne hc ht)

/-- A word of a line stands on the line and at the column of its place. -/
lemma exists_getElem?_splitOn (s : List Char) {word : List Char} (hword : '\n' ∉ word)
    (t : List Char) :
    ∃ n line, (Position.after s).line = n + 1 ∧
      (splitOn '\n' (s ++ (word ++ t)))[n]? = some line ∧
      word <+: line.drop (Position.after s).column := by
  obtain ⟨above, left, habove, hleft, hsplit⟩ := exists_splitOn_append s
  obtain ⟨first, others, ht⟩ := exists_splitOn_eq '\n' t
  refine ⟨above.length, left ++ (word ++ first), habove.symm, ?_, ?_⟩
  · rw [hsplit (splitOn_append_of_notMem hword ht)]
    simp
  · rw [← hleft, List.drop_left]
    exact List.prefix_append _ _

/-- Behind a line break the places are those of the text there, so many lines later. -/
lemma after_append_lineFeed (s t : List Char) :
    Position.after (s ++ '\n' :: t)
      = ⟨(Position.after s).line + (Position.after t).line, (Position.after t).column⟩ := by
  induction t using List.reverseRecOn with
  | nil => exact after_concat s '\n'
  | append_singleton t c ih =>
    rw [← List.cons_append, ← List.append_assoc, after_concat, after_concat, ih]
    by_cases hc : c = '\n'
    · simp [Position.step, hc, Nat.add_assoc]
    · simp [Position.step, hc]

/-! ## Start tags in a text -/

/-- What a start tag is recorded as: a name and a place. -/
abbrev Site := String × Option Position

/-- What the start tag of an element was recorded as. -/
def Element.site (e : Element) : Site :=
  (e.tag, e.place)

/-- Start tags stand in a text one behind the other, at the places that they are recorded with. -/
inductive SitesIn (locate : Nat → Position) : List Char → List Site → Prop
  | nil (s : List Char) : SitesIn locate s []
  | skip {s : List Char} {sites : List Site} (c : Char) (h : SitesIn locate s sites) :
    SitesIn locate (c :: s) sites
  | tag {tag : String} {s : List Char} {sites : List Site} (hname : isName tag.toList = true)
    (htag : tag.toList <+: s) (h : SitesIn locate s sites) :
    SitesIn locate ('<' :: s) ((tag, some (locate (s.length + 1))) :: sites)

namespace SitesIn

variable {locate : Nat → Position} {s : List Char} {sites : List Site}

lemma append_left (h : SitesIn locate s sites) (p : List Char) :
    SitesIn locate (p ++ s) sites := by
  induction p with
  | nil => exact h
  | cons c p ih => exact .skip c ih

lemma of_cons {first : Site} (h : SitesIn locate s (first :: sites)) : SitesIn locate s sites := by
  generalize hall : first :: sites = all at h
  induction h with
  | nil => cases hall
  | skip c h ih => exact .skip c (ih hall)
  | tag hname htag h =>
    obtain rfl := (List.cons.inj hall).2
    exact .skip '<' h

/-- The start tags behind the first one stand behind the first character. -/
lemma tail {c : Char} {first : Site} (h : SitesIn locate (c :: s) (first :: sites)) :
    SitesIn locate s sites := by
  cases h with
  | skip _ h => exact h.of_cons
  | tag _ _ h => exact h

/-- Start tags stand behind a text without angle brackets. -/
lemma of_append {p : List Char} (hp : '<' ∉ p) (h : SitesIn locate (p ++ s) sites) :
    SitesIn locate s sites := by
  induction p with
  | nil => exact h
  | cons c p ih =>
    cases h with
    | nil => exact .nil s
    | skip _ h => exact ih (fun hmem => hp (List.mem_cons_of_mem c hmem)) h
    | tag => exact absurd List.mem_cons_self hp

/-- Each recorded start tag is written where it is said to be. -/
lemma exists_of_mem (h : SitesIn locate s sites) {site : Site} (hsite : site ∈ sites) :
    ∃ u t, s = u ++ '<' :: t ∧ isName site.1.toList = true ∧ site.1.toList <+: t ∧
      site.2 = some (locate (t.length + 1)) := by
  induction h with
  | nil => cases hsite
  | skip c h ih =>
    obtain ⟨u, t, rfl, hfound⟩ := ih hsite
    exact ⟨c :: u, t, rfl, hfound⟩
  | @tag tag s sites hname htag h ih =>
    rcases List.mem_cons.mp hsite with rfl | hsite
    · exact ⟨[], s, rfl, hname, htag, rfl⟩
    · obtain ⟨u, t, rfl, hfound⟩ := ih hsite
      exact ⟨'<' :: u, t, rfl, hfound⟩

/-- Start tags in a text have different places. -/
lemma nodup {text : List Char} (h : SitesIn (Position.ofRemaining text) s sites)
    (hs : s <:+ text) : (sites.map (·.2)).Nodup := by
  induction h with
  | nil => exact List.nodup_nil
  | skip c h ih => exact ih ((List.suffix_cons c _).trans hs)
  | @tag tag s sites hname htag h ih =>
    obtain ⟨front, rfl⟩ := hs
    refine List.nodup_cons.mpr ⟨?_, ih ⟨front ++ ['<'], by simp⟩⟩
    intro hmem
    obtain ⟨site, hsite, hplace⟩ := List.mem_map.mp hmem
    obtain ⟨u, t, rfl, -, -, hlater⟩ := h.exists_of_mem hsite
    have hbefore := ofRemaining_append front ('<' :: (u ++ '<' :: t))
    have hbehind := ofRemaining_append (front ++ '<' :: u) ('<' :: t)
    rw [List.append_assoc] at hbehind
    refine after_append_ne front (List.cons_ne_nil '<' u) ?_
    rw [← hbefore, ← hbehind]
    exact Option.some.inj (hlater.symm.trans hplace)

end SitesIn

/-! ## Start tags of a tree under construction -/

lemma elementsOf_append (content others : List Node) :
    elementsOf (content ++ others) = elementsOf content ++ elementsOf others := by
  induction content with
  | nil => rfl
  | cons n content ih => rw [List.cons_append, elementsOf, elementsOf, ih, List.append_assoc]

/-- The element that an open element is so far. -/
def Frame.toElement (f : Frame) : Element :=
  ⟨f.tag, f.attrs, some f.place, f.content.reverse⟩

/-- The start tags of an element and of all in it, in document order. -/
def Element.sites (e : Element) : List Site :=
  e.elements.map Element.site

/-- The start tags of open elements and of all in them, in document order. -/
def sitesOf : List Frame → List Site
  | [] => []
  | top :: outer => sitesOf outer ++ top.toElement.sites

lemma sites_toElement_cons (f : Frame) (n : Node) :
    ({ f with content := n :: f.content } : Frame).toElement.sites
      = f.toElement.sites ++ n.elements.map Element.site := by
  simp [Frame.toElement, Element.sites, Element.elements, Element.site, elementsOf_append,
    elementsOf]

namespace Builder

variable {b b' : Builder}

/-- The start tags of a tree under construction, in document order. -/
def sites (b : Builder) : List Site :=
  match b.frames with
  | [] => (b.root.map Element.sites).getD []
  | top :: outer => sitesOf (top :: outer)

lemma sites_add_of_elements {n : Node} (hn : n.elements = []) (b : Builder) :
    (b.add n).sites = b.sites := by
  rw [add]
  split
  · rfl
  · rename_i top outer hframes
    rw [sites, sites, hframes]
    show sitesOf outer ++ _ = sitesOf outer ++ _
    rw [sites_toElement_cons, hn, List.map_nil, List.append_nil]

@[simp] lemma sites_flush (b : Builder) : b.flush.sites = b.sites := by
  rw [flush]
  split
  · rfl
  · exact sites_add_of_elements (by simp [Node.elements]) _

@[simp] lemma sites_comment (b : Builder) (body : List Char) :
    (b.comment body).sites = b.sites := by
  rw [comment, sites_add_of_elements (by simp [Node.elements]), sites_flush]

/-- Closing an element keeps the start tags. -/
@[simp] lemma sites_closeElement (b : Builder) : b.closeElement.sites = b.sites := by
  rw [← sites_flush b, closeElement]
  split
  · rfl
  · rename_i top hframes
    rw [sites, sites, hframes]
    exact (List.nil_append _).symm
  · rename_i top outer hne hframes
    obtain ⟨next, others, rfl⟩ := List.exists_cons_of_ne_nil hne
    rw [sites, sites, hframes]
    show sitesOf others ++ _ = (sitesOf others ++ _) ++ _
    rw [sites_toElement_cons, List.append_assoc, Node.elements]
    rfl

@[simp] lemma root_add (b : Builder) (n : Node) : (b.add n).root = b.root := by
  rw [add]
  split <;> rfl

@[simp] lemma root_flush (b : Builder) : b.flush.root = b.root := by
  rw [flush]
  split
  · rfl
  · rw [root_add]

@[simp] lemma root_comment (b : Builder) (body : List Char) : (b.comment body).root = b.root := by
  rw [comment, root_add, root_flush]

@[simp] lemma root_openElement (b : Builder) (tag : String) (attrs : Attributes)
    (place : Position) : (b.openElement tag attrs place).root = b.root := by
  show b.flush.root = _
  rw [root_flush]

/-- Closing an element other than the root gives no root. -/
lemma root_closeElement (hdepth : b.closeElement.depth ≠ 0) : b.closeElement.root = b.root := by
  rw [← root_flush b]
  rw [closeElement] at hdepth ⊢
  split at hdepth
  · rfl
  · exact absurd rfl hdepth
  · rw [root_add]

/-- Opening an element adds its start tag at the end. -/
lemma sites_openElement (hroot : b.root = none) (tag : String) (attrs : Attributes)
    (place : Position) :
    (b.openElement tag attrs place).sites = b.sites ++ [(tag, some place)] := by
  have hflush : sitesOf b.flush.frames = b.sites := by
    rw [← sites_flush b, sites]
    split
    · rename_i hframes
      rw [hframes, root_flush, hroot]
      rfl
    · rename_i hframes
      rw [hframes]
  rw [← hflush]
  rfl

/-- A start tag is recorded last, at its place; as long as elements are open there is no root. -/
lemma sites_startTag {scope : Scope} {tag : String} {raw : List RawAttribute} {closed : Bool}
    {here : Nat} (hroot : b.root = none) (h : b.startTag scope tag raw closed here = .ok b') :
    b'.sites = b.sites ++ [(tag, some (scope.locate (scope.remaining here)))] ∧
      (b'.depth ≠ 0 → b'.root = none) := by
  rw [startTag] at h
  split at h
  · cases h
  · rename_i attrs _
    cases h
    have hopened := sites_openElement hroot tag attrs (scope.locate (scope.remaining here))
    cases closed with
    | false => exact ⟨hopened, fun _ => by simpa using hroot⟩
    | true =>
      refine ⟨(sites_closeElement _).trans hopened, fun hdepth => ?_⟩
      rw [if_pos rfl] at hdepth ⊢
      rw [root_closeElement hdepth, root_openElement, hroot]

/-- An end tag records nothing; as long as elements are open there is no root. -/
lemma sites_endTag {scope : Scope} {tag : String} {here : Nat} (hroot : b.root = none)
    (h : b.endTag scope tag here = .ok b') :
    b'.sites = b.sites ∧ (b'.depth ≠ 0 → b'.root = none) := by
  rw [endTag] at h
  split at h
  · cases h
  · split at h
    · cases h
    · split at h
      · cases h
        exact ⟨sites_closeElement b, fun hdepth => (root_closeElement hdepth).trans hroot⟩
      · cases h

end Builder

/-! ## Reading -/

/-- A start tag is its name behind an angle bracket. -/
lemma Lexeme.next_eq_startTag {c : Char} {rest after : List Char} {tag : String}
    {raw : List RawAttribute} {closed : Bool}
    (h : Lexeme.next c rest = .found (.startTag tag raw closed) after) :
    c = '<' ∧ tag.toList <+: rest := by
  rw [Lexeme.next] at h
  split_ifs at h with hopen
  · exact ⟨hopen, (scanMarkup_eq_found h).2.2 tag raw closed rfl⟩
  · obtain ⟨_, -, htag⟩ := Scan.map_eq_found.mp h
    cases htag
  · cases h

namespace Builder

/-- Reading a text completes a tree: the root is closed, and the start tags that are new stand in
the text. -/
def Completed (locate : Nat → Position) (s : List Char) (b b' : Builder) : Prop :=
  b'.depth = 0 ∧ ∃ sites, b'.sites = b.sites ++ sites ∧ SitesIn locate s sites

namespace Completed

variable {locate : Nat → Position} {c : Char} {rest after : List Char} {b b₁ b' : Builder}

lemma append_left (h : Completed locate after b b') (p : List Char) :
    Completed locate (p ++ after) b b' := by
  obtain ⟨hdepth, sites, hsites, hin⟩ := h
  exact ⟨hdepth, sites, hsites, hin.append_left p⟩

/-- A lexeme in front that adds no start tag. -/
lemma of_next {lexeme : Lexeme} (h : Completed locate after b₁ b')
    (hnext : Lexeme.next c rest = .found lexeme after) (hsites : b₁.sites = b.sites) :
    Completed locate (c :: rest) b b' := by
  obtain ⟨p, rfl, -⟩ := Lexeme.next_local c rest lexeme after hnext
  have hbehind := h.append_left (c :: p)
  rwa [Completed, hsites] at hbehind

/-- A start tag in front. -/
lemma of_startTag {tag : String} {raw : List RawAttribute} {closed : Bool}
    (h : Completed locate after b₁ b')
    (hnext : Lexeme.next c rest = .found (.startTag tag raw closed) after)
    (hsites : b₁.sites = b.sites ++ [(tag, some (locate (rest.length + 1)))]) :
    Completed locate (c :: rest) b b' := by
  obtain ⟨hdepth, sites, hnew, hin⟩ := h
  obtain ⟨rfl, htag⟩ := Lexeme.next_eq_startTag hnext
  obtain ⟨hname, -⟩ := Lexeme.next_finds '<' rest _ after hnext
  obtain ⟨p, hp, -⟩ := Lexeme.next_local '<' rest _ after hnext
  refine ⟨hdepth, (tag, some (locate (rest.length + 1))) :: sites, ?_, .tag hname htag ?_⟩
  · rw [hnew, hsites, List.append_assoc, List.singleton_append]
  · rw [hp]
    exact hin.append_left p

/-- Nothing more is read once the root is closed. -/
lemma of_depth (hdepth : b.depth = 0) (s : List Char) : Completed locate s b b :=
  ⟨hdepth, [], (List.append_nil _).symm, .nil s⟩

end Completed

end Builder

open Builder

variable {expand : Scope → String → List Char → Nat → Builder → Except Failure Builder}

/-- Reading the content of a document adds the start tags in it, in the order in which they stand
there, if no entity brings in a text from elsewhere. -/
theorem readContent_sites {scope : Scope}
    (hentity : ∀ name value, scope.doc.entity? name ≠ some (.text value))
    (hreference : scope.reference = none) (hfloor : scope.floor = 0) {s rest : List Char}
    {b b' : Builder} (hroot : b.root = none)
    (h : readContent expand scope s b = .ok (b', rest)) : Completed scope.locate s b b' := by
  have hhere (here : Nat) : scope.remaining here = here := by rw [Scope.remaining, hreference]; rfl
  -- Only start tags record anything. The case of an entity that is read in place is excluded.
  fun_induction readContent expand scope s b with
  | case1 => cases h
  | case2 _ hne => exact absurd hfloor hne
  | case3 => cases h
  | case4 => cases h
  | case5 => cases h
  | case6 b c rest' after d hnext _ ih => exact (ih hroot h).of_next hnext rfl
  | case7 b c rest' after d hnext _ ih => exact (ih hroot h).of_next hnext rfl
  | case8 => cases h
  | case9 b c rest' after name hnext d _ _ ih => exact (ih hroot h).of_next hnext rfl
  | case10 b c rest' after name hnext _ _ _ _ ih => exact (ih hroot h).of_next hnext rfl
  | case11 => cases h
  | case12 => cases h
  | case13 => cases h
  | case14 b c rest' after name hnext _ _ _ _ ih => exact (ih hroot h).of_next hnext rfl
  | case15 => cases h
  | case16 b c rest' here after name _ _ _ value _ _ _ hvalue _ =>
    exact absurd hvalue (hentity name value)
  | case17 => cases h
  | case18 b c rest' here after tag raw closed hnext inner hinner hdepth _ =>
    cases h
    obtain ⟨hsites, -⟩ := sites_startTag hroot hinner
    rw [hhere] at hsites
    exact (Completed.of_depth hdepth _).of_startTag hnext hsites
  | case19 b c rest' here after tag raw closed hnext inner hinner hdepth _ ih =>
    obtain ⟨hsites, hinnerRoot⟩ := sites_startTag hroot hinner
    rw [hhere] at hsites
    exact (ih (hinnerRoot hdepth) h).of_startTag hnext hsites
  | case20 => cases h
  | case21 b c rest' here after tag hnext inner hinner hdepth _ =>
    cases h
    exact (Completed.of_depth hdepth _).of_next hnext (sites_endTag hroot hinner).1
  | case22 b c rest' here after tag hnext inner hinner hdepth _ ih =>
    obtain ⟨hsites, hinnerRoot⟩ := sites_endTag hroot hinner
    exact (ih (hinnerRoot hdepth) h).of_next hnext hsites
  | case23 b c rest' after body hnext _ ih =>
    exact (ih (by rwa [root_comment]) h).of_next hnext (sites_comment _ _)
  | case24 b c rest' after hnext _ ih => exact (ih hroot h).of_next hnext rfl
  | case25 => cases h
  | case26 => cases h
  | case27 b c rest' after hnext body next hsection _ ih =>
    obtain ⟨rfl, -⟩ := scanSection_append hsection
    have hbehind := (ih hroot h).append_left (body ++ [']', ']', '>'])
    rw [List.append_assoc] at hbehind
    exact hbehind.of_next hnext rfl

/-! ## Documents -/

/-- The start tags of a document in which no entity with a text is declared stand in it in document
order. -/
theorem readLines_sites {s body : List Char} {doc : Doctype} {root : Element}
    (hprolog : Doctype.readProlog {} .start (dropMark s) = .ok (doc, body))
    (hentity : ∀ name value, doc.entity? name ≠ some (.text value))
    (h : readLines s = .ok root) : SitesIn (Position.ofRemaining s) body root.sites := by
  obtain ⟨doc', body', b, rest, hprolog', hcontent, -, hroot⟩ := readLines_eq_ok.mp h
  obtain ⟨rfl, rfl⟩ := Prod.mk.inj (Except.ok.inj (hprolog'.symm.trans hprolog))
  obtain ⟨hdepth, sites, hsites, hin⟩ := readContent_sites hentity rfl rfl rfl hcontent
  have hframes : b.frames = [] := List.eq_nil_of_length_eq_zero hdepth
  have hall : root.sites = sites := by
    rw [Builder.sites, hframes, hroot] at hsites
    exact hsites
  rw [hall]
  exact hin

/-! ## Wrapped texts -/

/-- The text that stands behind the first line of a wrapped text. -/
def wrapBody (s : List Char) : List Char :=
  toLineFeeds (s ++ '\n' :: "</member>".toList)

lemma toLineFeeds_wrap {s : List Char} (h : splitDeclaration? s = none) :
    toLineFeeds (wrap s) = "<member>".toList ++ '\n' :: wrapBody s := by
  have hwrap : wrap s = "<member>\n".toList ++ (s ++ '\n' :: "</member>".toList) := by
    rw [wrap, h]
    rfl
  rw [hwrap, toLineFeeds_append_of_notMem (by decide)]
  rfl

/-- No start tag stands on the line that closes a wrapped text. -/
lemma not_prefix_wrapEnd {tag : String} (htag : isName tag.toList = true) (column : Nat) :
    ¬ '<' :: tag.toList <+: "</member>".toList.drop column := by
  rintro ⟨t, ht⟩
  cases column with
  | zero =>
    have hslash : tag.toList ++ t = "/member>".toList := (List.cons.inj ht).2
    have hstart := startsTag_of_isName htag t
    rw [hslash] at hstart
    exact (ne_of_startsTag hstart).2.2 rfl
  | succ column =>
    have hmem : '<' ∈ "/member>".toList.drop column := ht.subst List.mem_cons_self
    exact absurd (List.mem_of_mem_drop hmem) (by decide)

/-- The start tags of a wrapped text stand in it in document order. -/
lemma sitesIn_wrap {s : List Char} {root : Element} (hsplit : splitDeclaration? s = none)
    (h : readLines (toLineFeeds (wrap s)) = .ok root) :
    SitesIn (Position.ofRemaining (toLineFeeds (wrap s))) (toLineFeeds (wrap s)) root.sites := by
  let rest := '>' :: '\n' :: wrapBody s
  have hwrap : toLineFeeds (wrap s) = '<' :: ("member".toList ++ rest) := toLineFeeds_wrap hsplit
  have hmark : dropMark (toLineFeeds (wrap s)) = toLineFeeds (wrap s) :=
    dropMark_of_head? (by simp [hwrap])
  have hstart : Doctype.StartsTag ("member".toList ++ rest) := startsTag_of_isName (by decide) rest
  have hprolog : Doctype.readProlog {} .start (dropMark (toLineFeeds (wrap s)))
      = .ok ({}, toLineFeeds (wrap s)) := by
    rw [hmark, hwrap]
    exact readProlog_rootStart hstart {} .start
  exact readLines_sites hprolog (fun name value => by simp [Doctype.entity?]) h

/-- A start tag of a wrapped text stands in the text itself one line further up. -/
lemma exists_line_of_wrapBody {s u t : List Char} {tag : String}
    (hname : isName tag.toList = true) (htag : tag.toList <+: t)
    (hbody : wrapBody s = u ++ '<' :: t) :
    ∃ n line, (Position.after u).line = n + 1 ∧ (lines s)[n]? = some line ∧
      '<' :: tag.toList <+: line.drop (Position.after u).column := by
  obtain ⟨rest, rfl⟩ := htag
  have hfeed : '\n' ∉ '<' :: tag.toList := by
    intro hmem
    rcases List.mem_cons.mp hmem with heq | hmem
    · exact absurd heq (by decide)
    · exact notMem_of_isName (by decide) (by decide) hname hmem
  obtain ⟨n, line, hn, hindex, hbegins⟩ := exists_getElem?_splitOn u hfeed rest
  obtain ⟨above, habove, hlines⟩ :=
    lines_append_lineFeed s (t := "</member>".toList) (by decide) (by decide)
  have hwrapped : (above ++ ["</member>".toList])[n]? = some line := by
    rw [← hlines, lines, ← wrapBody, hbody]
    exact hindex
  refine ⟨n, line, hn, ?_, hbegins⟩
  -- the line is not the one that closes the wrapped text
  have hbelow : n < above.length := by
    by_contra hge
    rw [List.getElem?_append_right (Nat.le_of_not_lt hge)] at hwrapped
    obtain rfl := List.mem_singleton.mp (List.mem_of_getElem? hwrapped)
    exact not_prefix_wrapEnd hname _ hbegins
  obtain ⟨others, hothers⟩ := habove
  rw [List.getElem?_append_left hbelow] at hwrapped
  rw [← hothers, List.getElem?_append_left hbelow, hwrapped]

/-- **Wrapped texts keep their places.** In a text that is wrapped and begins with no declaration,
every element that is read stands at the line and the column that it remembers, and no two elements
remember the same. -/
theorem parse_fragment_places {text : String} {tree : Tree} (h : parse text = .ok tree)
    (hwrapped : isRooted text.toList = false) (hsplit : splitDeclaration? text.toList = none) :
    (∀ e ∈ elementsOf tree.root.content, ∃ n line, tree.line? e = some (n + 1) ∧
      (lines text.toList)[n]? = some line ∧
      '<' :: e.tag.toList <+: line.drop (Tree.column e)) ∧
    (tree.root.elements.map (·.place)).Nodup := by
  rw [parse, hwrapped, if_pos (by rfl)] at h
  obtain ⟨hread, hoffset⟩ := (parseDocument_eq_ok (byteOrder?_wrap _)).mp h
  have hin := sitesIn_wrap hsplit hread
  have hnodup := hin.nodup (List.suffix_refl _)
  rw [Element.sites, List.map_map] at hnodup
  refine ⟨fun e he => ?_, hnodup⟩
  -- behind the tag of the root all stands below the first line
  rw [toLineFeeds_wrap hsplit] at hin
  have hbehind : '<' ∉ "member>\n".toList := by decide
  obtain ⟨u, t, hbody, hname, htag, hplace⟩ :=
    (hin.tail.of_append hbehind).exists_of_mem (List.mem_map_of_mem he)
  obtain ⟨n, line, hline, hindex, hbegins⟩ := exists_line_of_wrapBody hname htag hbody
  have hafter : e.place = some ⟨1 + (Position.after u).line, (Position.after u).column⟩ := by
    have hcut := ofRemaining_append ("<member>".toList ++ '\n' :: u) ('<' :: t)
    rw [List.append_assoc, List.cons_append, ← hbody, after_append_lineFeed] at hcut
    exact hplace.trans (congrArg some hcut)
  refine ⟨n, line, ?_, hindex, ?_⟩
  · rw [Tree.line?, hafter, hoffset, Option.map_some, hline, Nat.add_sub_cancel_left]
  · rw [Tree.column, hafter]
    exact hbegins

/-- A text with all line breaks, a tag on two lines, a character beyond the basic plane, and a
comment and a character section that hold what looks like tags. -/
def tagsAcrossLines : String :=
  "a<b\n x=\"1\"/>\r\n<!--<c>-->𝄞<d>&amp;<![CDATA[<e>]]><f/></d>\r <b/>\r"

/-- The four elements stand where their tags begin. What looks like a tag in a comment or a section
is none, and the character beyond the basic plane counts once. -/
theorem parse_fragment_places_tagsAcrossLines :
    ∃ tree, parse tagsAcrossLines = .ok tree ∧ isRooted tagsAcrossLines.toList = false ∧
      splitDeclaration? tagsAcrossLines.toList = none ∧
      (elementsOf tree.root.content).map (fun e => (e.tag, tree.line? e, Tree.column e))
        = [("b", some 1, 1), ("d", some 3, 11), ("f", some 3, 34), ("b", some 4, 1)] ∧
      (∀ e ∈ elementsOf tree.root.content, ∃ n line, tree.line? e = some (n + 1) ∧
        (lines tagsAcrossLines.toList)[n]? = some line ∧
        '<' :: e.tag.toList <+: line.drop (Tree.column e)) ∧
      (tree.root.elements.map (·.place)).Nodup := by
  have hread : (parse tagsAcrossLines).toOption.map (fun tree =>
        (elementsOf tree.root.content).map fun e => (e.tag, tree.line? e, Tree.column e))
      = some [("b", some 1, 1), ("d", some 3, 11), ("f", some 3, 34), ("b", some 4, 1)] := by
    decide +kernel
  obtain ⟨tree, hparse, hplaces⟩ := exists_ok_of_map hread
  have hwrapped : isRooted tagsAcrossLines.toList = false := by decide +kernel
  have hsplit : splitDeclaration? tagsAcrossLines.toList = none := by decide +kernel
  exact ⟨tree, hparse, hwrapped, hsplit, hplaces, parse_fragment_places hparse hwrapped hsplit⟩

end DocComment.Markup
