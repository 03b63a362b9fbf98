import DocComment.Proofs.Reindent.CodeRegions

/-!
# What re-indentation deletes

A text is re-indented in two steps, and each step only deletes. The first takes from every line a part
of the white space that the line begins with; the second takes line feeds from both ends of the bodies
of code regions. Here every character of a text gets its fate, so that one can say where a deleted
character stood.

* `DropsOnly`: a condition on all characters that one step deletes, and on where they stand;
* `exists_selection_dedent`: the first step deletes the margins of lines;
* `Scanned`, `Scanned.unique`: the code regions that a search from the left finds;
* `exists_selection_trimCode`: the second step deletes line feeds at the edges of code regions;
* `exists_marked`: two steps in a row;
* `reindentString_deletes`: re-indentation as a whole.
-/

namespace DocComment.Reindent

open DocComment.Text

/-! ## Deletions -/

/-- A text with the choice which of its characters stay. -/
abbrev Selection := List (Char × Bool)

namespace Selection

/-- The text that is chosen from. -/
def source (m : Selection) : List Char :=
  m.map Prod.fst

/-- The characters that stay. -/
def kept (m : Selection) : List Char :=
  (m.filter Prod.snd).map Prod.fst

/-- A text of which everything stays, or nothing. -/
def all (stays : Bool) (s : List Char) : Selection :=
  s.map (·, stays)

/-- Whether a condition holds of all characters that do not stay, each with what stands before it and
behind it. -/
def DropsOnly (p : List Char → Char → List Char → Prop) (m : Selection) : Prop :=
  ∀ front c back, m = front ++ (c, false) :: back → p (source front) c (source back)

variable {p : List Char → Char → List Char → Prop} {m m' : Selection} {s : List Char}

lemma source_append (m m' : Selection) : source (m ++ m') = source m ++ source m' :=
  List.map_append

lemma kept_append (m m' : Selection) : kept (m ++ m') = kept m ++ kept m' := by
  unfold kept
  rw [List.filter_append, List.map_append]

lemma source_all (stays : Bool) (s : List Char) : source (all stays s) = s := by
  unfold source all
  rw [List.map_map]
  exact List.map_id s

lemma kept_all_true (s : List Char) : kept (all true s) = s := by
  have hfilter : (all true s).filter Prod.snd = all true s := by
    rw [List.filter_eq_self]
    intro x hx
    obtain ⟨c, -, rfl⟩ := List.mem_map.mp hx
    rfl
  rw [kept, hfilter]
  exact source_all true s

lemma kept_all_false (s : List Char) : kept (all false s) = [] := by
  have hfilter : (all false s).filter Prod.snd = [] := by
    rw [List.filter_eq_nil_iff]
    intro x hx
    obtain ⟨c, -, rfl⟩ := List.mem_map.mp hx
    exact Bool.false_ne_true
  rw [kept, hfilter]
  rfl

/-- What stays is no exception. -/
lemma dropsOnly_all_true (s : List Char) : DropsOnly p (all true s) := by
  intro front c back h
  have hmem : (c, false) ∈ all true s := by
    rw [h]
    exact List.mem_append_right front List.mem_cons_self
  obtain ⟨d, -, hd⟩ := List.mem_map.mp hmem
  cases congrArg Prod.snd hd

lemma dropsOnly_all_false (h : ∀ front c back, s = front ++ c :: back → p front c back) :
    DropsOnly p (all false s) := by
  intro front c back heq
  apply h
  rw [← source_all false s, heq, source_append]
  rfl

/-- Of two texts in a row, each is the surroundings of the other. -/
lemma DropsOnly.append (hm : DropsOnly (fun front c back => p front c (back ++ source m')) m)
    (hm' : DropsOnly (fun front c back => p (source m ++ front) c back) m') :
    DropsOnly p (m ++ m') := by
  intro front c back h
  rcases List.append_eq_append_iff.mp h with ⟨middle, hfront, hback⟩ | ⟨middle, hm_eq, hback⟩
  · rw [hfront, source_append]
    exact hm' middle c back hback
  · cases middle with
    | nil =>
      -- the character is the first one of the second text
      rw [List.append_nil] at hm_eq
      have hfirst := hm' [] c back hback.symm
      rw [← hm_eq]
      simpa [source] using hfirst
    | cons x middle =>
      obtain ⟨rfl, hrest⟩ := List.cons.inj hback
      have hbehind : source back = source middle ++ source m' := by
        rw [hrest]
        exact source_append middle m'
      rw [hbehind]
      exact hm front c middle hm_eq

/-- A character that stays may be put in front. -/
lemma DropsOnly.cons {c : Char} (hm : DropsOnly (fun front d back => p (c :: front) d back) m) :
    DropsOnly p ((c, true) :: m) :=
  (dropsOnly_all_true [c]).append hm

lemma DropsOnly.mono {q : List Char → Char → List Char → Prop} (h : DropsOnly p m)
    (hpq : ∀ front c back, p front c back → q front c back) : DropsOnly q m := by
  intro front c back heq
  exact hpq _ _ _ (h front c back heq)

end Selection

open Selection

/-! ## Margins -/

/-- Whether a character is white space, no line feed, and stands in its line behind white space
only. -/
def IsMargin (front : List Char) (c : Char) : Prop :=
  isBlank c = true ∧ c ≠ '\n' ∧
    ∀ start, start <:+ front → '\n' ∉ start → ∀ d ∈ start, isBlank d = true

/-- Lines above do not matter. -/
lemma IsMargin.below {front : List Char} {c : Char} (h : IsMargin front c) (above : List Char) :
    IsMargin (above ++ '\n' :: front) c := by
  obtain ⟨hblank, hfeed, hfront⟩ := h
  refine ⟨hblank, hfeed, fun start hstart hnotMem => hfront start ?_ hnotMem⟩
  have hline : '\n' :: front <:+ above ++ '\n' :: front := List.suffix_append _ _
  rcases List.suffix_or_suffix_of_suffix hstart hline with hshort | hlong
  · rcases List.suffix_cons_iff.mp hshort with rfl | hshort
    · exact absurd List.mem_cons_self hnotMem
    · exact hshort
  · exact absurd (hlong.subset List.mem_cons_self) hnotMem

/-- The margin of a line goes, and the rest of it stays. -/
lemma exists_selection_dedentLine (column : Nat) {line : List Char} (hline : '\n' ∉ line) :
    ∃ m, source m = line ∧ kept m = dedentLine column line ∧
      DropsOnly (fun front c _ => IsMargin front c) m := by
  obtain ⟨margin, hcut, hmargin⟩ := exists_margin column line
  refine ⟨all false margin ++ all true (dedentLine column line), ?_, ?_, ?_⟩
  · rw [source_append, source_all, source_all, ← hcut]
  · rw [kept_append, kept_all_false, kept_all_true, List.nil_append]
  · apply DropsOnly.append
    · apply dropsOnly_all_false
      intro front c back heq
      have hmem : ∀ d ∈ front ++ c :: back, isBlank d = true := heq ▸ hmargin
      obtain ⟨hfront, hrest⟩ := List.forall_mem_append.mp hmem
      refine ⟨(List.forall_mem_cons.mp hrest).1, ?_, fun start hstart _ d hd => ?_⟩
      · rintro rfl
        apply hline
        rw [hcut, heq]
        simp
      · exact hfront d (hstart.subset hd)
    · exact dropsOnly_all_true _

/-- Dedenting lines deletes margins. -/
lemma exists_selection_dedent {ls : List (List Char)} (hls : ∀ line ∈ ls, '\n' ∉ line)
    (column : Nat) :
    ∃ m, source m = unlines ls ∧ kept m = unlines (dedent column ls) ∧
      DropsOnly (fun front c _ => IsMargin front c) m := by
  induction ls generalizing column with
  | nil => exact ⟨[], rfl, rfl, dropsOnly_all_true []⟩
  | cons line ls ih =>
    obtain ⟨hline, hls⟩ := List.forall_mem_cons.mp hls
    obtain ⟨m, hsource, hkept, hdrops⟩ :=
      exists_selection_dedentLine (columnAfter column line) hline
    rw [dedent]
    cases ls with
    | nil =>
      rw [dedent, unlines_singleton, unlines_singleton]
      exact ⟨m, hsource, hkept, hdrops⟩
    | cons next ls =>
      obtain ⟨m', hsource', hkept', hdrops'⟩ := ih hls (columnAfter column line)
      have hne : next :: ls ≠ [] := by simp
      rw [unlines_cons hne, unlines_cons (dedent_ne_nil hne _)]
      -- the line feed between the lines stays
      refine ⟨m ++ (('\n', true) :: m'), ?_, ?_, hdrops.append ?_⟩
      · rw [source_append, hsource, ← hsource']
        rfl
      · rw [kept_append, hkept, ← hkept']
        rfl
      · apply DropsOnly.cons
        exact hdrops'.mono fun front c _ hmargin => hmargin.below (source m)

/-! ## Edges of code regions -/

/-- A part of a text: one character, or a code region with what its opening tag holds behind the name
and with its body. -/
inductive Segment where
  | character (c : Char)
  | region (attrs body : List Char)

namespace Segment

def text : Segment → List Char
  | character c => [c]
  | region attrs body => codeOpen ++ (attrs ++ '>' :: (body ++ codeClose))

/-- The text without the line feeds at the ends of a body. -/
def trimmed : Segment → List Char
  | character c => [c]
  | region attrs body => codeOpen ++ (attrs ++ '>' :: (trimWhile (· = '\n') body ++ codeClose))

end Segment

/-- Whether segments are what a search from the left finds. At a place where the pattern matches, the
region is taken, with the shortest body that there is, and the search goes on behind it; at any other
place the search goes on behind one character. -/
inductive Scanned : List Char → List Segment → Prop
  | nil : Scanned [] []
  | region {attrs body after : List Char} {segments : List Segment} (hattrs : '>' ∉ attrs)
      (hbody : ¬ codeClose <:+: body) (h : Scanned after segments) :
      Scanned ((Segment.region attrs body).text ++ after) (.region attrs body :: segments)
  | character {c : Char} {rest : List Char} {segments : List Segment}
      (hnone : ∀ attrs body after, '>' ∉ attrs →
        c :: rest ≠ (Segment.region attrs body).text ++ after)
      (h : Scanned rest segments) : Scanned (c :: rest) (.character c :: segments)

/-- Whether a character is a line feed in the body of a code region, behind nothing but line feeds or
in front of nothing but line feeds there. -/
def IsEdge (segments : List Segment) (front : List Char) (c : Char) (back : List Char) : Prop :=
  c = '\n' ∧ ∃ before attrs left right after,
    segments = before ++ .region attrs (left ++ '\n' :: right) :: after ∧
      front = before.flatMap Segment.text ++ (codeOpen ++ (attrs ++ '>' :: left)) ∧
      back = right ++ codeClose ++ after.flatMap Segment.text ∧
      ((∀ d ∈ left, d = '\n') ∨ ∀ d ∈ right, d = '\n')

lemma text_region_append (attrs body after : List Char) :
    (Segment.region attrs body).text ++ after
      = codeOpen ++ (attrs ++ '>' :: (body ++ (codeClose ++ after))) := by
  simp [Segment.text]

lemma codeRegion?_text {attrs body : List Char} (hattrs : '>' ∉ attrs)
    (hbody : ¬ codeClose <:+: body) (after : List Char) :
    codeRegion? ((Segment.region attrs body).text ++ after) = some (attrs, body, after) := by
  rw [text_region_append, codeRegion?_eq_some_iff]
  exact ⟨rfl, hattrs, hbody⟩

/-- The segments make up the text. -/
lemma Scanned.flatMap_text {s : List Char} {segments : List Segment} (h : Scanned s segments) :
    segments.flatMap Segment.text = s := by
  induction h with
  | nil => rfl
  | region _ _ _ ih => rw [List.flatMap_cons, ih]
  | character _ _ ih =>
    rw [List.flatMap_cons, ih]
    rfl

/-- A search finds one thing only. -/
theorem Scanned.unique {s : List Char} {segments segments' : List Segment} (h : Scanned s segments)
    (h' : Scanned s segments') : segments = segments' := by
  induction h generalizing segments' with
  | nil =>
    generalize hs : ([] : List Char) = s at h'
    cases h' with
    | nil => rfl
    | region _ _ _ => cases hs
    | character _ _ => cases hs
  | @region attrs body after segments hattrs hbody _ ih =>
    generalize hs : (Segment.region attrs body).text ++ after = s at h'
    cases h' with
    | nil => cases hs
    | @region attrs' body' after' _ hattrs' hbody' h' =>
      -- both are the region that stands at the beginning of the text
      have hregion := codeRegion?_text hattrs hbody after
      rw [hs, codeRegion?_text hattrs' hbody' after'] at hregion
      cases hregion
      rw [ih h']
    | character hnone _ => exact absurd hs.symm (hnone attrs body after hattrs)
  | @character c rest segments hnone _ ih =>
    generalize hs : c :: rest = s at h'
    cases h' with
    | nil => cases hs
    | @region attrs body after _ hattrs _ _ => exact absurd hs (hnone attrs body after hattrs)
    | character _ h' =>
      cases hs
      rw [ih h']

/-- Trimming a text trims the segments that are found in it. -/
lemma exists_scanned (s : List Char) :
    ∃ segments, Scanned s segments ∧ trimCode s = segments.flatMap Segment.trimmed := by
  fun_induction trimCode s with
  | case1 s attrs body after hregion ih =>
    obtain ⟨segments, hscanned, htrim⟩ := ih
    obtain ⟨rfl, hattrs, hbody⟩ := codeRegion?_eq_some_iff.mp hregion
    refine ⟨.region attrs body :: segments, ?_, ?_⟩
    · rw [← text_region_append]
      exact hscanned.region hattrs hbody
    · rw [List.flatMap_cons, htrim]
      simp [Segment.trimmed]
  | case2 => exact ⟨[], .nil, rfl⟩
  | case3 c rest hregion ih =>
    obtain ⟨segments, hscanned, htrim⟩ := ih
    refine ⟨.character c :: segments, hscanned.character ?_, by rw [htrim]; rfl⟩
    intro attrs body after _ heq
    rw [text_region_append] at heq
    exact codeRegion?_eq_none_iff.mp hregion _ heq ⟨attrs, _, rfl, List.infix_append' _ _ _⟩

lemma isEdge_region (attrs left right : List Char)
    (h : (∀ d ∈ left, d = '\n') ∨ ∀ d ∈ right, d = '\n') :
    IsEdge [.region attrs (left ++ '\n' :: right)] (codeOpen ++ (attrs ++ '>' :: left)) '\n'
      (right ++ codeClose) := by
  refine ⟨rfl, [], attrs, left, right, [], rfl, rfl, ?_, h⟩
  exact (List.append_nil _).symm

/-- What is behind a segment may be an edge. -/
lemma IsEdge.cons {segments : List Segment} {front back : List Char} {c : Char}
    (h : IsEdge segments front c back) (segment : Segment) :
    IsEdge (segment :: segments) (segment.text ++ front) c back := by
  obtain ⟨hfeed, before, attrs, left, right, after, rfl, rfl, hback, hrun⟩ := h
  refine ⟨hfeed, segment :: before, attrs, left, right, after, rfl, ?_, hback, hrun⟩
  rw [List.flatMap_cons, List.append_assoc]

/-- What is in front of segments may be an edge. -/
lemma IsEdge.append {segments : List Segment} {front back : List Char} {c : Char}
    (h : IsEdge segments front c back) (more : List Segment) :
    IsEdge (segments ++ more) front c (back ++ more.flatMap Segment.text) := by
  obtain ⟨hfeed, before, attrs, left, right, after, rfl, hfront, rfl, hrun⟩ := h
  refine ⟨hfeed, before, attrs, left, right, after ++ more, ?_, hfront, ?_, hrun⟩
  · rw [List.append_assoc, List.cons_append]
  · rw [List.flatMap_append, ← List.append_assoc]

/-- Line feeds that begin a body or end it may go. -/
lemma dropsOnly_lineFeeds (attrs before behind : List Char) {feeds : List Char}
    (hfeeds : ∀ d ∈ feeds, d = '\n') (hend : before = [] ∨ behind = []) :
    DropsOnly (fun front c back => IsEdge [.region attrs (before ++ (feeds ++ behind))]
      (codeOpen ++ (attrs ++ '>' :: (before ++ front))) c (back ++ (behind ++ codeClose)))
      (all false feeds) := by
  apply dropsOnly_all_false
  intro left c right heq
  subst heq
  obtain ⟨hleft, hrest⟩ := List.forall_mem_append.mp hfeeds
  obtain ⟨rfl, hright⟩ := List.forall_mem_cons.mp hrest
  have hrun : (∀ d ∈ before ++ left, d = '\n') ∨ ∀ d ∈ right ++ behind, d = '\n' := by
    rcases hend with rfl | rfl
    · exact Or.inl hleft
    · rw [List.append_nil]
      exact Or.inr hright
  have hedge := isEdge_region attrs (before ++ left) (right ++ behind) hrun
  simpa using hedge

/-- Line feeds at the ends of a body go, and the rest of the region stays. -/
lemma exists_selection_region (attrs body : List Char) :
    ∃ m, source m = (Segment.region attrs body).text ∧
      kept m = (Segment.region attrs body).trimmed ∧ DropsOnly (IsEdge [.region attrs body]) m := by
  obtain ⟨front, back, hbody, hfront, hback⟩ := exists_trimWhile (· = '\n') body
  rw [Segment.trimmed]
  generalize trimWhile (· = '\n') body = core at hbody ⊢
  subst hbody
  have hfirst := dropsOnly_lineFeeds attrs [] (core ++ back) (by simpa using hfront) (Or.inl rfl)
  have hlast := dropsOnly_lineFeeds attrs (front ++ core) [] (by simpa using hback) (Or.inr rfl)
  refine ⟨all true (codeOpen ++ (attrs ++ ['>'])) ++ (all false front ++ (all true core ++
    (all false back ++ all true codeClose))), ?_, ?_, ?_⟩
  · simp [source_append, source_all, Segment.text]
  · simp [kept_append, kept_all_true, kept_all_false]
  apply DropsOnly.append
  · exact dropsOnly_all_true _
  apply DropsOnly.append
  · simpa [source_append, source_all] using hfirst
  apply DropsOnly.append
  · exact dropsOnly_all_true core
  apply DropsOnly.append
  · simpa [source_append, source_all] using hlast
  · exact dropsOnly_all_true codeClose

/-- Trimming code regions deletes line feeds at their edges. -/
lemma exists_selection_trimCode (segments : List Segment) :
    ∃ m, source m = segments.flatMap Segment.text ∧ kept m = segments.flatMap Segment.trimmed ∧
      DropsOnly (IsEdge segments) m := by
  induction segments with
  | nil => exact ⟨[], rfl, rfl, dropsOnly_all_true []⟩
  | cons segment rest ih =>
    obtain ⟨m', hsource', hkept', hdrops'⟩ := ih
    have hsegment : ∃ m, source m = segment.text ∧ kept m = segment.trimmed ∧
        DropsOnly (IsEdge [segment]) m := by
      cases segment with
      | character c => exact ⟨all true [c], rfl, rfl, dropsOnly_all_true [c]⟩
      | region attrs body => exact exists_selection_region attrs body
    obtain ⟨m, hsource, hkept, hdrops⟩ := hsegment
    refine ⟨m ++ m', ?_, ?_, ?_⟩
    · rw [source_append, hsource, hsource', List.flatMap_cons]
    · rw [kept_append, hkept, hkept', List.flatMap_cons]
    · apply DropsOnly.append
      · rw [hsource']
        exact hdrops.mono fun front c back hedge => hedge.append rest
      · rw [hsource]
        exact hdrops'.mono fun front c back hedge => hedge.cons segment

/-! ## Two steps in a row -/

/-- What becomes of a character when a text is re-indented. -/
inductive Fate where
  | kept
  /-- It is taken from the beginning of its line. -/
  | margin
  /-- It is taken from an end of the body of a code region. -/
  | edge
deriving DecidableEq, Repr

/-- A text with the fate of each of its characters. -/
abbrev Marked := List (Char × Fate)

namespace Marked

/-- The text as it was. -/
def source (m : Marked) : List Char :=
  m.map Prod.fst

/-- The text without the margins of its lines. -/
def dedented (m : Marked) : List Char :=
  (m.filter fun x => x.2 ≠ .margin).map Prod.fst

/-- The text without all that is deleted. -/
def kept (m : Marked) : List Char :=
  (m.filter fun x => x.2 = .kept).map Prod.fst

/-- The deletion of the margins. -/
def first (m : Marked) : Selection :=
  m.map fun x => (x.1, x.2 ≠ .margin)

/-- The deletion of the edges, once the margins are gone. -/
def second (m : Marked) : Selection :=
  (m.filter fun x => x.2 ≠ .margin).map fun x => (x.1, x.2 = .kept)

variable (m : Marked)

lemma source_first : Selection.source m.first = m.source := by
  unfold first Selection.source source
  rw [List.map_map]
  rfl

lemma source_second : Selection.source m.second = m.dedented := by
  unfold second Selection.source dedented
  rw [List.map_map]
  rfl

lemma kept_second : Selection.kept m.second = m.kept := by
  unfold second Selection.kept kept
  rw [List.filter_map, List.map_map, List.filter_filter]
  apply congrArg (List.map Prod.fst)
  apply List.filter_congr
  intro x _
  obtain ⟨c, fate⟩ := x
  cases fate <;> rfl

end Marked

/-- Two deletions in a row give each character its fate. -/
lemma exists_marked {first second : Selection} (h : Selection.kept first = Selection.source second) :
    ∃ m : Marked, m.first = first ∧ m.second = second := by
  induction first generalizing second with
  | nil =>
    obtain rfl := List.map_eq_nil_iff.mp h.symm
    exact ⟨[], rfl, rfl⟩
  | cons x first ih =>
    obtain ⟨c, stays⟩ := x
    cases stays with
    | false =>
      obtain ⟨m, rfl, rfl⟩ := ih h
      exact ⟨(c, .margin) :: m, rfl, rfl⟩
    | true =>
      -- the second deletion decides on the character
      obtain ⟨⟨d, stays⟩, second, rfl, hd, hrest⟩ := List.map_eq_cons_iff.mp h.symm
      obtain rfl : d = c := hd
      obtain ⟨m, rfl, rfl⟩ := ih hrest.symm
      cases stays with
      | false => exact ⟨(d, .edge) :: m, rfl, rfl⟩
      | true => exact ⟨(d, .kept) :: m, rfl, rfl⟩

section

variable {p : List Char → Char → List Char → Prop} {m : Marked}

lemma of_dropsOnly_first (h : DropsOnly p m.first) {front back : Marked} {c : Char}
    (hm : m = front ++ (c, .margin) :: back) : p front.source c back.source := by
  subst hm
  have hdrop := h front.first c back.first (by simp [Marked.first])
  rwa [Marked.source_first, Marked.source_first] at hdrop

lemma of_dropsOnly_second (h : DropsOnly p m.second) {front back : Marked} {c : Char}
    (hm : m = front ++ (c, .edge) :: back) : p front.dedented c back.dedented := by
  subst hm
  have hdrop := h front.second c back.second (by simp [Marked.second])
  rwa [Marked.source_second, Marked.source_second] at hdrop

end

/-! ## Re-indentation -/

/-- The first character of a line that is no white space is there, and it decides on the column. -/
lemma exists_getElem?_indentOf {s : List Char} (h : allBlank s = false) :
    ∃ c, s[indentOf s]? = some c ∧ isBlank c = false ∧
      ∀ column, columnAfter column s = if c = '<' then indentOf s else column := by
  obtain ⟨blanks, rest, rfl, hblanks, hrest⟩ := exists_indentation s
  cases rest with
  | nil =>
    rw [List.append_nil, allBlank, List.all_eq_true.mpr hblanks] at h
    cases h
  | cons c rest =>
    refine ⟨c, ?_, hrest c rfl, fun column => ?_⟩
    · rw [indentOf_indentation hblanks hrest, List.getElem?_append_right (Nat.le_refl _),
        Nat.sub_self]
      rfl
    · rw [columnAfter_indentation hblanks hrest, indentOf_indentation hblanks hrest]
      simp

/-- **Re-indentation deletes white space only, and line feeds only at the edges of code regions.**
Once its line breaks are line feeds, every character of a text has a fate. Without the margins it is
the dedented text, and without the edges as well it is the re-indented one. All that is deleted is
white space. A margin is no line feed and has nothing but white space in front of it in its line; an
edge is a line feed at an end of the body of a code region, and these regions are those that a search
from the left finds in the dedented text. In every line that is not white there is a first character
that is not white, and whether it is a `<` decides on the column. -/
theorem reindentString_deletes (content : String) (column : Int) :
    ∃ (marked : Marked) (segments : List Segment),
      marked.source = toLineFeeds content.toList ∧
      marked.dedented = unlines (dedent column.toNat (lines content.toList)) ∧
      String.ofList marked.kept = reindentString content column ∧
      Scanned marked.dedented segments ∧
      (∀ x ∈ marked, x.2 ≠ .kept → isBlank x.1 = true) ∧
      (∀ (front : Marked) c back, marked = front ++ (c, .margin) :: back →
        IsMargin front.source c) ∧
      (∀ (front : Marked) c (back : Marked), marked = front ++ (c, .edge) :: back →
        IsEdge segments front.dedented c back.dedented) ∧
      ∀ s ∈ lines content.toList, allBlank s = false →
        ∃ c, s[indentOf s]? = some c ∧ isBlank c = false ∧
          ∀ column', columnAfter column' s = if c = '<' then indentOf s else column' := by
  have hlines : ∀ line ∈ lines content.toList, '\n' ∉ line :=
    fun line hline => notMem_of_mem_splitOn hline
  -- Each of the two steps selects what it keeps. What the first keeps is the source of the second,
  -- so both make one marking.
  obtain ⟨first, hfirst, hdedented, hmargins⟩ := exists_selection_dedent hlines column.toNat
  obtain ⟨segments, hscanned, htrim⟩ :=
    exists_scanned (unlines (dedent column.toNat (lines content.toList)))
  obtain ⟨second, hsecond, hkept, hedges⟩ := exists_selection_trimCode segments
  rw [hscanned.flatMap_text] at hsecond
  obtain ⟨marked, rfl, rfl⟩ := exists_marked (hdedented.trans hsecond.symm)
  rw [Marked.source_first, unlines_lines] at hfirst
  rw [Marked.source_second] at hsecond
  rw [Marked.kept_second, ← htrim] at hkept
  have hmargin (front : Marked) (c back) (h : marked = front ++ (c, .margin) :: back) :
      IsMargin front.source c := of_dropsOnly_first hmargins h
  have hedge (front : Marked) (c) (back : Marked) (h : marked = front ++ (c, .edge) :: back) :
      IsEdge segments front.dedented c back.dedented := of_dropsOnly_second hedges h
  refine ⟨marked, segments, hfirst, hsecond, congrArg String.ofList hkept, hsecond ▸ hscanned, ?_,
    hmargin, hedge, fun _ _ hvisible => exists_getElem?_indentOf hvisible⟩
  intro x hx hdeleted
  obtain ⟨front, back, hmarked⟩ := List.append_of_mem hx
  obtain ⟨c, fate⟩ := x
  cases fate with
  | kept => exact absurd rfl hdeleted
  | margin => exact (hmargin front c back hmarked).1
  | edge =>
    obtain ⟨rfl, -⟩ := hedge front c back hmarked
    decide

/-- All lines lose four columns, and the body of the region loses three line feeds. -/
example :
    reindentString "    <code>\n\n      let x\r\n    </code>\n    is <b>" 0
      = "<code>  let x</code>\nis <b>" := by
  decide +kernel

end DocComment.Reindent
