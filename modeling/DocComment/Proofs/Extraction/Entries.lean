import DocComment.Proofs.CommentId
import DocComment.Proofs.Extraction.Notices
import DocComment.Proofs.Extraction.Outline

/-!
# The entries of a comment

A keyed field has one entry for each name that the direct children of the root give, in the order in
which the names come up; the first child with a name counts, and each later one is noticed. A list of
references has one entry for each direct child that refers to a comment id. Resolution runs before
either is read and may rewrite what stands inside these children, but not which of them there are.

* `map_givenName_firstNamed_eq`, `lookup_firstNamed`: the names of a keyed field and the element that
  counts for each;
* `keyedEntries_notices`: the names that are noticed;
* `keyedFields_firstNamed`: keyed fields keep the first entry of each name and account for the others;
* `referenceLists_referring`: lists of references hold exactly the children that refer to something.
-/

namespace DocComment

open Markup

/-! ## Names given once and again -/

/-- The names that elements give, in order; an element without a name gives none. -/
def namesGiven (elements : List Element) : List String :=
  (elements.map Element.givenName).filter (· ≠ "")

/-- The names that have come up before, one for each time that they come up again; `before` has come
up before all of them. -/
def laterOccurrences : (before names : List String) → List String
  | _, [] => []
  | before, name :: names =>
    if name ∈ before then name :: laterOccurrences (before ++ [name]) names
    else laterOccurrences (before ++ [name]) names

lemma namesGiven_cons (e : Element) (elements : List Element) :
    namesGiven (e :: elements)
      = if e.givenName = "" then namesGiven elements
        else e.givenName :: namesGiven elements := by
  unfold namesGiven
  rw [List.map_cons, List.filter_cons]
  by_cases hname : e.givenName = ""
  · simp [hname]
  · simp [hname]

/-- Elements with the same heads give the same names. -/
lemma namesGiven_congr {elements elements' : List Element}
    (h : elements.map Element.head = elements'.map Element.head) :
    namesGiven elements = namesGiven elements' := by
  have hnames (l : List Element) : l.map Element.givenName
      = (l.map Element.head).map fun head => (head.2.get? "name").getD "" := by
    rw [List.map_map]
    rfl
  unfold namesGiven
  rw [hnames, hnames, h]

lemma filter_notMem_nil (names : List String) :
    names.filter (fun name => name ∉ ([] : List String)) = names :=
  List.filter_eq_self.mpr fun name _ => by simp

/-- Names that do not come up in two lists do not come up in the one of both. -/
lemma filter_notMem_concat (names taken : List String) (name : String) :
    names.filter (fun n => n ∉ taken ++ [name])
      = (names.filter (fun n => n ∉ taken)).filter fun n => !n == name := by
  rw [List.filter_filter]
  apply List.filter_congr
  intro n _
  by_cases hname : n = name
  · simp [hname]
  · simp [hname]

/-- The names of the elements that count are the names that are not taken, each once. -/
lemma map_givenName_firstNamed_eq (taken : List String) (elements : List Element) :
    (firstNamed taken elements).map Element.givenName
      = ((namesGiven elements).filter (fun name => name ∉ taken)).eraseDups := by
  induction elements generalizing taken with
  | nil => rfl
  | cons e rest ih =>
    rw [firstNamed, namesGiven_cons]
    by_cases hempty : e.givenName = ""
    · rw [if_pos (Or.inl hempty), if_pos hempty, ih]
    · rw [if_neg hempty, List.filter_cons]
      by_cases htaken : e.givenName ∈ taken
      · rw [if_pos (Or.inr htaken), if_neg (by simpa using htaken), ih]
      · rw [if_neg (by tauto), if_pos (by simpa using htaken), List.map_cons, ih,
          List.eraseDups_cons, filter_notMem_concat]

/-- Under a name that is not taken stands the text of the first element with the name. -/
lemma lookup_firstNamed {taken : List String} {name : String} (hname : name ≠ "")
    (htaken : name ∉ taken) (elements : List Element) :
    ((firstNamed taken elements).map fun e => (e.givenName, elementValue e)).lookup name
      = (elements.find? (·.givenName == name)).map elementValue := by
  induction elements generalizing taken with
  | nil => rfl
  | cons e rest ih =>
    rw [firstNamed, List.find?_cons]
    by_cases hsame : e.givenName = name
    · have hcounts : ¬ (e.givenName = "" ∨ e.givenName ∈ taken) := by
        rw [hsame]
        tauto
      rw [if_neg hcounts, List.map_cons, List.lookup_cons, hsame]
      simp
    · have hother : (name == e.givenName) = false := beq_false_of_ne (Ne.symm hsame)
      have hpassed : (e.givenName == name) = false := beq_false_of_ne hsame
      rw [hpassed]
      split
      · exact ih htaken
      · -- the entry of another name stands before it
        rw [List.map_cons, List.lookup_cons, hother]
        refine ih fun hmem => ?_
        rcases List.mem_append.mp hmem with hmem | hmem
        · exact htaken hmem
        · exact hsame (List.mem_singleton.mp hmem).symm

/-- An element that counts has a name that is not taken, and is the first with it. -/
lemma find?_of_mem_firstNamed {taken : List String} {elements : List Element} {e : Element}
    (h : e ∈ firstNamed taken elements) :
    (e.givenName ≠ "" ∧ e.givenName ∉ taken) ∧
      elements.find? (·.givenName == e.givenName) = some e := by
  induction elements generalizing taken with
  | nil => cases h
  | cons first rest ih =>
    rw [firstNamed] at h
    rw [List.find?_cons]
    split at h
    · rename_i hpassed
      obtain ⟨⟨hempty, htaken⟩, hfind⟩ := ih h
      have hne : first.givenName ≠ e.givenName := by
        intro hsame
        rw [hsame] at hpassed
        exact hpassed.elim hempty htaken
      rw [beq_false_of_ne hne]
      exact ⟨⟨hempty, htaken⟩, hfind⟩
    · rename_i hcounts
      rcases List.mem_cons.mp h with rfl | h
      · rw [beq_self_eq_true]
        exact ⟨not_or.mp hcounts, rfl⟩
      · obtain ⟨⟨hempty, htaken⟩, hfind⟩ := ih h
        rw [List.mem_append, List.mem_singleton, not_or] at htaken
        rw [beq_false_of_ne (Ne.symm htaken.2)]
        exact ⟨⟨hempty, htaken.1⟩, hfind⟩

/-- Every name comes up for the first time or again. -/
lemma length_laterOccurrences (before names : List String) :
    (laterOccurrences before names).length
      + (names.filter (fun name => name ∉ before)).eraseDups.length = names.length := by
  induction names generalizing before with
  | nil => rfl
  | cons name names ih =>
    have hrest := ih (before ++ [name])
    rw [laterOccurrences, List.filter_cons]
    by_cases hbefore : name ∈ before
    · -- nothing new among the names before
      have hsame : names.filter (fun n => n ∉ before ++ [name])
          = names.filter fun n => n ∉ before := by
        apply List.filter_congr
        intro n _
        by_cases hn : n = name
        · simp [hn, hbefore]
        · simp [hn]
      rw [hsame] at hrest
      rw [if_pos hbefore, if_neg (by simpa using hbefore), List.length_cons, List.length_cons]
      omega
    · rw [filter_notMem_concat] at hrest
      rw [if_neg hbefore, if_pos (by simpa using hbefore), List.eraseDups_cons, List.length_cons,
        List.length_cons]
      omega

/-! ## What is noticed -/

/-- The notice that a name comes up again in a field. -/
def Context.duplicate (context : Context) (content name : String) : Notice :=
  .duplicateEntry content name (context.displayPath.getD "") context.startLine

/-- Whether a notice says that a name comes up again in a field. -/
def Notice.isDuplicateIn (content : String) : Notice → Bool
  | duplicateEntry field _ _ _ => field == content
  | _ => false

/-- A keyed field that can be read notices the names that have come up before. -/
lemma keyedEntries_notices {content : String} {context : Context} {elements : List Element}
    {entries results : List (String × String)} {before : List String}
    (hbefore : ∀ name, name ∈ before ↔ name ∈ entries.map Prod.fst)
    (h : (keyedEntries content context elements entries).result = .ok results) :
    (keyedEntries content context elements entries).notices
      = (laterOccurrences before (namesGiven elements)).map (context.duplicate content) := by
  induction elements generalizing entries before with
  | nil => rfl
  | cons e rest ih =>
    have hname : (e.attr? "name").getD "" = e.givenName := rfl
    rw [keyedEntries, hname] at h ⊢
    rw [namesGiven_cons]
    by_cases hempty : e.givenName = ""
    · rw [if_pos (by simp [hempty])] at h ⊢
      rw [if_pos hempty]
      exact ih hbefore h
    · rw [if_neg (by simpa using hempty)] at h ⊢
      rw [if_neg hempty, laterOccurrences]
      -- A name that has come up is noticed and makes no entry, a new one makes the last entry.
      by_cases htaken : e.givenName ∈ before
      · have hlookup : (entries.lookup e.givenName).isSome = true :=
          (isSome_lookup_iff entries _).mpr ((hbefore _).mp htaken)
        have hgrown : ∀ name, name ∈ before ++ [e.givenName] ↔ name ∈ entries.map Prod.fst := by
          intro name
          rw [List.mem_append, List.mem_singleton, ← hbefore]
          constructor
          · rintro (hname | rfl)
            · exact hname
            · exact htaken
          · exact Or.inl
        rw [if_pos hlookup] at h ⊢
        obtain ⟨_, -, hrest, hnotices⟩ := Reading.exists_of_bind_eq_ok h
        rw [hnotices, if_pos htaken, List.map_cons, ih hgrown hrest]
        rfl
      · have hlookup : ¬ (entries.lookup e.givenName).isSome = true := by
          rw [isSome_lookup_iff, ← hbefore]
          exact htaken
        rw [if_neg hlookup] at h ⊢
        obtain ⟨value, -, hrest, hnotices⟩ := Reading.exists_of_bind_eq_ok h
        have hgrown : ∀ name, name ∈ before ++ [e.givenName] ↔
            name ∈ (entries ++ [(e.givenName, value)]).map Prod.fst := by
          intro name
          rw [List.map_append, List.mem_append, List.mem_append, hbefore]
          rfl
        rw [hnotices, if_neg htaken, ih hgrown hrest]
        rfl

/-- A tree that can be read notices the names that come up again in its keyed fields. -/
lemma ofTree_notices {tree : Tree} {context : Context} {c : Comment}
    (h : (Comment.ofTree tree context).result = .ok c) :
    (Comment.ofTree tree context).notices
      = (laterOccurrences [] (namesGiven (tree.children "param"))).map
          (context.duplicate "parameter") ++
        (laterOccurrences [] (namesGiven (tree.children "typeparam"))).map
          (context.duplicate "type parameter") := by
  have hnone : ∀ name : String, name ∈ ([] : List String) ↔
      name ∈ ([] : List (String × String)).map Prod.fst := fun _ => Iff.rfl
  unfold Comment.ofTree at h ⊢
  obtain ⟨summary, -, h, hsummary⟩ := Reading.exists_of_bind_eq_ok h
  obtain ⟨remarks, -, h, hremarks⟩ := Reading.exists_of_bind_eq_ok h
  obtain ⟨returns, -, h, hreturns⟩ := Reading.exists_of_bind_eq_ok h
  obtain ⟨parameters, hparameters, h, hparameterNotices⟩ := Reading.exists_of_bind_eq_ok h
  obtain ⟨types, htypes, h, htypeNotices⟩ := Reading.exists_of_bind_eq_ok h
  obtain ⟨exceptions, -, h, hexceptions⟩ := Reading.exists_of_bind_eq_ok h
  obtain ⟨sees, -, h, hsees⟩ := Reading.exists_of_bind_eq_ok h
  obtain ⟨seeAlsos, -, h, hseeAlsos⟩ := Reading.exists_of_bind_eq_ok h
  obtain ⟨examples, -, h, hexamples⟩ := Reading.exists_of_bind_eq_ok h
  rw [hsummary, hremarks, hreturns, hparameterNotices, htypeNotices, hexceptions, hsees, hseeAlsos,
    hexamples, keyedEntries_notices hnone hparameters, keyedEntries_notices hnone htypes]
  simp only [Reading.notices_liftM, Reading.notices_pure, List.nil_append, List.append_nil]

lemma filter_map_duplicate (context : Context) (content : String) (names : List String) :
    (names.map (context.duplicate content)).filter (Notice.isDuplicateIn content)
      = names.map (context.duplicate content) := by
  refine List.filter_eq_self.mpr fun n hn => ?_
  obtain ⟨name, -, rfl⟩ := List.mem_map.mp hn
  exact beq_self_eq_true content

lemma filter_map_duplicate_of_ne (context : Context) {content other : String}
    (h : other ≠ content) (names : List String) :
    (names.map (context.duplicate other)).filter (Notice.isDuplicateIn content) = [] := by
  refine List.filter_eq_nil_iff.mpr fun n hn => ?_
  obtain ⟨name, -, rfl⟩ := List.mem_map.mp hn
  simpa [Context.duplicate, Notice.isDuplicateIn] using h

/-- Resolution says nothing about names. -/
lemma filter_resolved_notices (content : String) (context : Context) (listener : Listener)
    (root : Element) :
    (resolved context listener root).notices.filter (Notice.isDuplicateIn content) = [] := by
  have hsilent : ∀ n ∈ (resolved context listener root).notices,
      n.isDuplicateIn content = false := by
    apply forall_notices_resolved
    · intro n hn
      cases n <;> first | rfl | cases hn
    · intro n hn
      unfold contextDialect at hn
      split at hn
      · cases hn
      · obtain rfl := List.mem_singleton.mp hn
        rfl
  exact List.filter_eq_nil_iff.mpr fun n hn => by simp [hsilent n hn]

/-! ## Comments that have been built -/

section

variable {raw : String} {context : Context} {listener : Listener} {c : Comment} {tree : Tree}

/-- A comment that has been built is the one that its tree holds after resolution. -/
lemma ReadsAs.of_buildComment
    (hbuilt : (buildComment (some raw) context listener).result = .ok (some c))
    (hparse : parse raw = .ok tree) :
    ReadsAs raw tree ∧ c = heldComment (tree.resolved context listener) := by
  obtain hrefused | ⟨text, tree', htext, hreads⟩ := refused_or_readsAs (some raw)
  · cases (hrefused context listener).symm.trans hbuilt
  · obtain rfl := Option.some.inj htext
    obtain rfl : tree' = tree := Except.ok.inj (hreads.parsed.symm.trans hparse)
    rw [hreads.buildComment_result] at hbuilt
    exact ⟨hreads, Option.some.inj (ifReadable_eq_ok_iff.mp hbuilt).2⟩

/-- What is noticed while a comment is built: what resolution leaves alone, then what reading its
fields notices. -/
lemma ReadsAs.buildComment_notices (h : ReadsAs raw tree) :
    (buildComment (some raw) context listener).notices
      = (resolved context listener tree.root).notices ++
        (Comment.ofTree (tree.resolved context listener) context).notices := by
  rw [buildComment_of_parse h.visible h.unmarked h.parsed]
  rfl

/-- A comment that has been built was read from its tree after resolution. -/
lemma ReadsAs.ofTree_of_buildComment (h : ReadsAs raw tree)
    (hbuilt : (buildComment (some raw) context listener).result = .ok (some c)) :
    (Comment.ofTree (tree.resolved context listener) context).result = .ok c := by
  rw [buildComment_of_parse h.visible h.unmarked h.parsed] at hbuilt
  obtain ⟨c', hc', hsome⟩ := map_eq_ok.mp hbuilt
  rwa [Option.some.inj hsome] at hc'

/-- The direct children that are read are those of the tree before resolution, up to what stands
inside them. -/
lemma map_head_resolved (tree : Tree) (context : Context) (listener : Listener) (tag : String) :
    ((tree.resolved context listener).root.childrenNamed tag).map Element.head
      = (tree.root.childrenNamed tag).map Element.head := by
  have hnamed (root : Element) : (root.childrenNamed tag).map Element.head
      = root.topHeads.2.filter (·.1 == tag) := by
    rw [Element.childrenNamed, Element.topHeads, List.filter_map]
    rfl
  rw [hnamed, hnamed]
  exact congrArg (fun heads => heads.2.filter (·.1 == tag))
    (topHeads_resolved context listener tree.root)

lemma children_resolved (hroot : tree.root.tag = rootTag) (tag : String) :
    (tree.resolved context listener).children tag
      = (tree.resolved context listener).root.childrenNamed tag := by
  have htag : (tree.resolved context listener).root.tag = rootTag :=
    (congrArg Prod.fst (topHeads_resolved context listener tree.root)).trans hroot
  rw [Tree.children, if_pos htag]

/-! ## Keyed fields -/

/-- A keyed field of a comment: the tag of its elements, what notices call it, its entries and how it
is asked for one. -/
structure KeyedField where
  tag : String
  content : String
  entries : Comment → List (String × String)
  lookup : Comment → String → Except Comment.LookupError (Option String)

/-- The keyed fields of a comment. -/
def keyedFields : List KeyedField :=
  [⟨"param", "parameter", Comment.parameters, Comment.parameter⟩,
   ⟨"typeparam", "type parameter", Comment.typeParameters, Comment.typeParameter⟩]

namespace KeyedField

variable {field : KeyedField} (hfield : field ∈ keyedFields)

include hfield

lemma eq_or_eq : field = ⟨"param", "parameter", Comment.parameters, Comment.parameter⟩ ∨
    field = ⟨"typeparam", "type parameter", Comment.typeParameters, Comment.typeParameter⟩ := by
  simpa [keyedFields] using hfield

lemma entries_heldComment (tree : Tree) :
    field.entries (heldComment tree) = heldEntries tree field.tag := by
  rcases eq_or_eq hfield with rfl | rfl
  · rfl
  · rfl

/-- Asked for a name, a field looks it up in its entries. -/
lemma lookup_of_ne {name : String} (hname : name ≠ "") (c : Comment) :
    field.lookup c name = .ok ((field.entries c).lookup name) := by
  rcases eq_or_eq hfield with rfl | rfl
  · exact if_neg (by simpa using hname)
  · exact if_neg (by simpa using hname)

/-- A tree that can be read notices the names that come up again in a field. -/
lemma filter_ofTree_notices (h : (Comment.ofTree tree context).result = .ok c) :
    (Comment.ofTree tree context).notices.filter (Notice.isDuplicateIn field.content)
      = (laterOccurrences [] (namesGiven (tree.children field.tag))).map
        (context.duplicate field.content) := by
  rw [ofTree_notices h, List.filter_append]
  rcases eq_or_eq hfield with rfl | rfl
  · rw [filter_map_duplicate, filter_map_duplicate_of_ne context (by decide), List.append_nil]
  · rw [filter_map_duplicate, filter_map_duplicate_of_ne context (by decide), List.nil_append]

end KeyedField

/-- **Keyed fields keep the first entry and account for every other.** In a comment that is built
from a `member` element, a keyed field has the names that the direct children with its tag give, each
once and in the order in which they first come up. Under each stands the text of the first child with
the name, and that is what the field answers; under any other name there is nothing. Every later
child with a name that has come up before is noticed, in document order, and no other. -/
theorem keyedFields_firstNamed
    (hbuilt : (buildComment (some raw) context listener).result = .ok (some c))
    (hparse : parse raw = .ok tree) (hroot : tree.root.tag = rootTag) :
    ∀ field ∈ keyedFields,
      let children := tree.root.childrenNamed field.tag
      let read := (tree.resolved context listener).root.childrenNamed field.tag
      let noticed := (buildComment (some raw) context listener).notices.filter
        (Notice.isDuplicateIn field.content)
      read.map Element.head = children.map Element.head ∧
      (field.entries c).map Prod.fst = (namesGiven children).eraseDups ∧
      (∀ entry ∈ field.entries c,
        (read.find? (·.givenName == entry.1)).map elementValue = some entry.2) ∧
      (∀ name, name ≠ "" →
        field.lookup c name = .ok ((read.find? (·.givenName == name)).map elementValue)) ∧
      noticed = (laterOccurrences [] (namesGiven children)).map (context.duplicate field.content) ∧
      noticed.length + (field.entries c).length = (namesGiven children).length := by
  intro field hfield children read noticed
  obtain ⟨hreads, hc⟩ := ReadsAs.of_buildComment hbuilt hparse
  have hheads : read.map Element.head = children.map Element.head :=
    map_head_resolved tree context listener field.tag
  -- Entries are taken from the resolved tree, names and notices from the tree as it was read.
  -- Resolution leaves the heads alone, so both speak of the same children.
  have hentries : field.entries c
      = (firstNamed [] read).map fun e => (e.givenName, elementValue e) := by
    rw [hc, KeyedField.entries_heldComment hfield, heldEntries, children_resolved hroot]
  have hkeys : (field.entries c).map Prod.fst = (namesGiven children).eraseDups := by
    rw [hentries, List.map_map, ← namesGiven_congr hheads, ← filter_notMem_nil (namesGiven read)]
    exact map_givenName_firstNamed_eq [] read
  have hnoticed : noticed
      = (laterOccurrences [] (namesGiven children)).map (context.duplicate field.content) := by
    show List.filter _ (buildComment (some raw) context listener).notices = _
    rw [hreads.buildComment_notices, List.filter_append, filter_resolved_notices, List.nil_append,
      KeyedField.filter_ofTree_notices hfield (hreads.ofTree_of_buildComment hbuilt),
      children_resolved hroot, namesGiven_congr hheads]
  refine ⟨hheads, hkeys, ?_, ?_, hnoticed, ?_⟩
  · intro entry hentry
    rw [hentries] at hentry
    obtain ⟨e, he, rfl⟩ := List.mem_map.mp hentry
    rw [(find?_of_mem_firstNamed he).2]
    rfl
  · intro name hname
    rw [KeyedField.lookup_of_ne hfield hname, hentries,
      lookup_firstNamed hname List.not_mem_nil]
  · have hcount := length_laterOccurrences [] (namesGiven children)
    rwa [filter_notMem_nil, ← hkeys, List.length_map, ← List.length_map, ← hnoticed] at hcount

/-- A comment with elements of one name, without a name and of another tag between each other. -/
def repeatedNames : String :=
  "<member><param name='a'><see cref='T:A'/></param><param/><typeparam name='a'/>" ++
    "<param name='b'/>1<param name='a'/><param name='a'>2</param></member>"

/-- Each name is a key once, and the two further parameters of the first name are noticed. -/
theorem keyedFields_firstNamed_repeatedNames :
    ∃ c, (buildComment (some repeatedNames) {} .absent).result = .ok (some c) ∧
      c.parameters.map Prod.fst = ["a", "b"] ∧
      ((buildComment (some repeatedNames) {} .absent).notices.filter
        (Notice.isDuplicateIn "parameter")).length = 2 := by
  have hseen : (parse repeatedNames).toOption.map (fun tree => (tree.root.tag,
      tree.root.commentsLegible, namesGiven (tree.root.childrenNamed "param")))
        = some (rootTag, true, ["a", "b", "a", "a"]) := by
    decide +kernel
  obtain ⟨tree, hparse, hseen⟩ := exists_ok_of_map hseen
  simp only [Prod.mk.injEq] at hseen
  obtain ⟨hroot, hlegible, hnames⟩ := hseen
  have hreads := readsAs_of_startsMember (by decide +kernel) hparse
  obtain ⟨c, hbuilt⟩ : ∃ c, (buildComment (some repeatedNames) {} .absent).result = .ok (some c) :=
    ⟨_, hreads.buildComment_of_legible hlegible {} .absent⟩
  obtain ⟨-, hkeys, -, -, hnoticed, -⟩ :=
    keyedFields_firstNamed hbuilt hparse hroot _ List.mem_cons_self
  rw [hnames] at hkeys hnoticed
  exact ⟨c, hbuilt, hkeys, by rw [hnoticed]; rfl⟩

/-! ## Lists of references -/

/-- The comment id that an element refers to. -/
def Markup.Element.target? (e : Element) : Option CommentId :=
  CommentId.ofString? ((e.attr? "cref").getD "")

/-- The elements that refer to a comment id. -/
def targeting (elements : List Element) : List Element :=
  elements.filter (·.target?.isSome)

/-- An element that refers to a comment id has it for its value, as written. -/
lemma attr?_of_target? {e : Element} {id : CommentId} (h : e.target? = some id) :
    e.attr? "cref" = some id.raw := by
  obtain ⟨hraw, -⟩ := CommentId.ofString?_eq_some_iff.mp h
  cases hvalue : e.attr? "cref" with
  | none =>
    rw [hvalue] at hraw
    cases (CommentId.toList_raw id).symm.trans (congrArg String.toList hraw)
  | some value =>
    rw [hvalue] at hraw
    exact congrArg some hraw.symm

/-- What an element refers to, written again, is read as its kind and what stands behind the first
two characters. -/
lemma ofString?_raw_of_target? {e : Element} {id : CommentId} (h : e.target? = some id) :
    CommentId.ofString? id.raw = some ⟨id.kind, String.ofList (id.raw.toList.drop 2)⟩ := by
  obtain ⟨-, hidentifier⟩ := CommentId.ofString?_eq_some_iff.mp h
  have hbehind : String.ofList (id.raw.toList.drop 2) = id.identifier := by
    rw [CommentId.toList_raw]
    exact String.ofList_toList
  rw [hbehind]
  exact CommentId.ofString?_eq_some_iff.mpr ⟨rfl, hidentifier⟩

/-- The elements that are found are those that refer to something. -/
lemma map_fst_referring (elements : List Element) :
    (referring elements).map Prod.fst = targeting elements := by
  induction elements with
  | nil => rfl
  | cons e rest ih =>
    have htarget : CommentId.ofString? ((e.attr? "cref").getD "") = e.target? := rfl
    unfold targeting referring at ih ⊢
    rw [List.filter_cons, List.filterMap_cons, htarget]
    cases e.target? with
    | none => exact ih
    | some id => exact congrArg (e :: ·) ih

lemma target?_of_mem_referring {elements : List Element} {found : Element × CommentId}
    (h : found ∈ referring elements) : found.1.target? = some found.2 := by
  obtain ⟨e, -, hfound⟩ := List.mem_filterMap.mp h
  obtain ⟨id, hid, rfl⟩ := Option.map_eq_some_iff.mp hfound
  exact hid

/-- What is found for elements is their value, as written. -/
lemma map_raw_referring (elements : List Element) :
    (referring elements).map (fun found => some found.2.raw)
      = (targeting elements).map (·.attr? "cref") := by
  rw [← map_fst_referring, List.map_map]
  apply List.map_congr_left
  intro found hfound
  exact (attr?_of_target? (target?_of_mem_referring hfound)).symm

/-- Elements with the same heads that refer to something have the same heads. -/
lemma map_head_targeting {elements elements' : List Element}
    (h : elements.map Element.head = elements'.map Element.head) :
    (targeting elements).map Element.head = (targeting elements').map Element.head := by
  have hheads (l : List Element) : (targeting l).map Element.head = (l.map Element.head).filter
      fun head => (CommentId.ofString? ((head.2.get? "cref").getD "")).isSome := by
    rw [List.filter_map]
    rfl
  rw [hheads, hheads, h]

/-- The entry of an element that refers to a comment id; an empty text is no description. -/
def heldReference (found : Element × CommentId) : ReferenceEntry :=
  ⟨if (elementValue found.1).isEmpty then none else some (elementValue found.1), found.2⟩

/-- A reference that says nothing has no description rather than an empty one. -/
lemma heldReference_description_ne (found : Element × CommentId) :
    (heldReference found).description ≠ some "" := by
  unfold heldReference
  split
  · exact Option.some_ne_none _ |>.symm
  · rename_i htext
    intro hempty
    rw [Option.some.inj hempty] at htext
    exact htext rfl

lemma heldReferences_eq (tree : Tree) (tag : String) :
    heldReferences tree tag = if (referring (tree.children tag)).isEmpty then none
      else some ((referring (tree.children tag)).map heldReference) := by
  show (if ((referring (tree.children tag)).map heldReference).isEmpty then none else some _) = _
  rw [List.isEmpty_map]
  rfl

/-- A list of references has the entries of the elements that refer to something. -/
lemma getD_heldReferences (tree : Tree) (tag : String) :
    (heldReferences tree tag).getD [] = (referring (tree.children tag)).map heldReference := by
  rw [heldReferences_eq]
  cases referring (tree.children tag) with
  | nil => rfl
  | cons first rest => rfl

/-- Without any entry, a list of references is missing; it is never empty. -/
lemma heldReferences_eq_none_iff (tree : Tree) (tag : String) :
    (heldReferences tree tag = none ↔ (heldReferences tree tag).getD [] = []) ∧
      heldReferences tree tag ≠ some [] := by
  rw [heldReferences_eq]
  cases referring (tree.children tag) with
  | nil => simp
  | cons first rest => simp

/-- A list of references of a comment: the tag of its elements and its entries. -/
structure ReferenceList where
  tag : String
  entries : Comment → Option (List ReferenceEntry)

/-- The lists of references of a comment. -/
def referenceLists : List ReferenceList :=
  [⟨"exception", Comment.exceptions⟩, ⟨"see", Comment.sees⟩, ⟨"seealso", Comment.seeAlsos⟩]

lemma ReferenceList.entries_heldComment {list : ReferenceList} (hlist : list ∈ referenceLists)
    (tree : Tree) : list.entries (heldComment tree) = heldReferences tree list.tag := by
  simp only [referenceLists, List.mem_cons, List.not_mem_nil, or_false] at hlist
  rcases hlist with rfl | rfl | rfl
  · rfl
  · rfl
  · rfl

/-- **Lists of references hold exactly the direct children that refer to something.** In a comment
that is built from a `member` element, the entries of a list correspond, one by one and in document
order, to the direct children with its tag whose value is a comment id, whatever resolution has made
of the tree. The value as written is the target of the entry, and is read as its kind and what stands
behind the first two characters. The description is the text of the child and never empty. The list
is missing if there is no such child, and never empty. -/
theorem referenceLists_referring
    (hbuilt : (buildComment (some raw) context listener).result = .ok (some c))
    (hparse : parse raw = .ok tree) (hroot : tree.root.tag = rootTag) :
    ∀ list ∈ referenceLists,
      let children := targeting (tree.root.childrenNamed list.tag)
      let read := targeting ((tree.resolved context listener).root.childrenNamed list.tag)
      let entries := (list.entries c).getD []
      read.map Element.head = children.map Element.head ∧
      entries.map (fun entry => some entry.target.raw) = children.map (·.attr? "cref") ∧
      entries.map (·.description) = read.map (fun e =>
        if (elementValue e).isEmpty then none else some (elementValue e)) ∧
      (∀ entry ∈ entries,
        CommentId.ofString? entry.target.raw
          = some ⟨entry.target.kind, String.ofList (entry.target.raw.toList.drop 2)⟩ ∧
        entry.description ≠ some "") ∧
      (list.entries c = none ↔ children = []) ∧ list.entries c ≠ some [] := by
  intro list hlist children read entries
  obtain ⟨-, hc⟩ := ReadsAs.of_buildComment hbuilt hparse
  have hheads := map_head_resolved tree context listener list.tag
  have hheld : list.entries c = heldReferences (tree.resolved context listener) list.tag := by
    rw [hc, ReferenceList.entries_heldComment hlist]
  have hentries : entries = (referring ((tree.resolved context listener).root.childrenNamed
      list.tag)).map heldReference := by
    show (list.entries c).getD [] = _
    rw [hheld, getD_heldReferences, children_resolved hroot]
  have hcrefs : entries.map (fun entry => some entry.target.raw)
      = children.map (·.attr? "cref") := by
    rw [← map_raw_referring, hentries, List.map_map]
    have hsame := congrArg (List.map fun id : CommentId => some id.raw) (map_snd_referring hheads)
    rwa [List.map_map, List.map_map] at hsame
  have hempty : entries = [] ↔ children = [] := by
    rw [← List.length_eq_zero_iff, ← List.length_eq_zero_iff, ← List.length_map, hcrefs,
      List.length_map]
  obtain ⟨hmissing, hnever⟩ :=
    heldReferences_eq_none_iff (tree.resolved context listener) list.tag
  rw [← hheld] at hmissing hnever
  refine ⟨map_head_targeting hheads, hcrefs, ?_, ?_, hmissing.trans hempty, hnever⟩
  · show entries.map (·.description) = (targeting _).map _
    rw [← map_fst_referring, hentries, List.map_map, List.map_map]
    rfl
  · intro entry hentry
    rw [hentries] at hentry
    obtain ⟨found, hfound, rfl⟩ := List.mem_map.mp hentry
    exact ⟨ofString?_raw_of_target? (target?_of_mem_referring hfound),
      heldReference_description_ne found⟩

/-- A comment with references that are no comment ids, that stand deeper and that say nothing. -/
def scatteredReferences : String :=
  "<member><see cref='T:A'/><see cref='x'/><summary><see cref='T:B'/></summary>" ++
    "<see cref='M:C.D()'>1 <see cref='T:E'/></see><seealso/></member>"

/-- Only the two direct children with a comment id are listed, and there is no list without any. -/
theorem referenceLists_referring_scatteredReferences :
    ∃ c, (buildComment (some scatteredReferences) {} .recorder).result = .ok (some c) ∧
      (c.sees.getD []).map (fun entry => some entry.target.raw)
        = [some "T:A", some "M:C.D()"] ∧
      c.seeAlsos = none := by
  have hseen : (parse scatteredReferences).toOption.map (fun tree => (tree.root.tag,
      tree.root.commentsLegible, (targeting (tree.root.childrenNamed "see")).map (·.attr? "cref"),
      (targeting (tree.root.childrenNamed "seealso")).isEmpty))
        = some (rootTag, true, [some "T:A", some "M:C.D()"], true) := by
    decide +kernel
  obtain ⟨tree, hparse, hseen⟩ := exists_ok_of_map hseen
  simp only [Prod.mk.injEq] at hseen
  obtain ⟨hroot, hlegible, hcrefs, hempty⟩ := hseen
  have hreads := readsAs_of_startsMember (by decide +kernel) hparse
  obtain ⟨c, hbuilt⟩ : ∃ c, (buildComment (some scatteredReferences) {} .recorder).result
      = .ok (some c) :=
    ⟨_, hreads.buildComment_of_legible hlegible {} .recorder⟩
  have hlists := referenceLists_referring hbuilt hparse hroot
  obtain ⟨-, hsees, -⟩ := hlists ⟨"see", Comment.sees⟩ (by simp [referenceLists])
  obtain ⟨-, -, -, -, hnone, -⟩ := hlists ⟨"seealso", Comment.seeAlsos⟩ (by simp [referenceLists])
  exact ⟨c, hbuilt, hsees.trans hcrefs, hnone.mpr (List.isEmpty_iff.mp hempty)⟩

end

end DocComment
