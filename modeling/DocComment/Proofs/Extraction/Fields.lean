import DocComment.Proofs.Extraction.Legible
import DocComment.Proofs.Resolution.Discovery

/-!
# The fields of a comment

Reading the fields of a tree one after the other goes wrong at the first text that cannot be read.
If there is none, it gives the comment that the tree holds.

* `readElements`: the elements whose text is read;
* `heldComment`: the comment with their texts;
* `ofTree_result`: reading a tree gives this comment, unless one of these texts cannot be read;
* `ReadsAs.buildComment_result`: so does building, with the tree after resolution;
* `ReadsAs.buildComment_of_legible`: it never fails on a text whose comments are legible.
-/

namespace DocComment

open Markup Text

/-! ## What is read -/

/-- The name that an element gives; an element without one gives the empty name. -/
def Markup.Element.givenName (e : Element) : String :=
  (e.attr? "name").getD ""

/-- The elements of a keyed field that count: those with a name that is not taken yet. -/
def firstNamed : (taken : List String) → List Element → List Element
  | _, [] => []
  | taken, e :: rest =>
    if e.givenName = "" ∨ e.givenName ∈ taken then firstNamed taken rest
    else e :: firstNamed (taken ++ [e.givenName]) rest

/-- The elements of a tree whose text is read, in this order. -/
def readElements (tree : Tree) : List Element :=
  ["summary", "remarks", "returns"].flatMap (fun tag => (tree.firstChild? tag).toList) ++
    ["param", "typeparam"].flatMap (fun tag => firstNamed [] (tree.children tag)) ++
    ["exception", "see", "seealso"].flatMap
      (fun tag => (referring (tree.children tag)).map Prod.fst) ++
    tree.children "example"

/-- The entries of a keyed field, with the texts of the elements that count. -/
def heldEntries (tree : Tree) (tag : String) : List (String × String) :=
  (firstNamed [] (tree.children tag)).map fun e => (e.givenName, elementValue e)

/-- The entries of a list of references, with the texts of the elements. -/
def heldReferences (tree : Tree) (tag : String) : Option (List ReferenceEntry) :=
  let entries := (referring (tree.children tag)).map fun found =>
    ReferenceEntry.mk (if (elementValue found.1).isEmpty then none else some (elementValue found.1))
      found.2
  if entries.isEmpty then none else some entries

/-- The comment that a tree holds. -/
def heldComment (tree : Tree) : Comment where
  summary := (tree.firstChild? "summary").map elementValue
  remarks := (tree.firstChild? "remarks").map elementValue
  returns := (tree.firstChild? "returns").map elementValue
  parameters := heldEntries tree "param"
  typeParameters := heldEntries tree "typeparam"
  exceptions := heldReferences tree "exception"
  sees := heldReferences tree "see"
  seeAlsos := heldReferences tree "seealso"
  examples := (tree.children "example").map elementValue

/-- A value that is found if the texts of some elements can be read; otherwise the first that cannot
is to blame. -/
def ifReadable {α : Type} (elements : List Element) (value : α) : Except TooManyDigits α :=
  match elements.findSome? overlongIn? with
  | some error => .error error
  | none => .ok value

lemma ifReadable_eq_ok_iff {α : Type} {elements : List Element} {value v : α} :
    ifReadable elements value = .ok v ↔ (∀ e ∈ elements, overlongIn? e = none) ∧ v = value := by
  rw [ifReadable, ← List.findSome?_eq_none_iff]
  cases elements.findSome? overlongIn? with
  | none => simp [eq_comm]
  | some error => simp

lemma ifReadable_bind {α β : Type} (elements others : List Element) (value : α) (f : α → β) :
    (ifReadable elements value >>= fun a => ifReadable others (f a))
      = ifReadable (elements ++ others) (f value) := by
  rw [ifReadable, ifReadable, List.findSome?_append]
  cases elements.findSome? overlongIn? with
  | none => rfl
  | some error => rfl

lemma ifReadable_map {α β : Type} (elements : List Element) (value : α) (f : α → β) :
    (ifReadable elements value).map f = ifReadable elements (f value) := by
  rw [ifReadable, ifReadable]
  cases elements.findSome? overlongIn? with
  | none => rfl
  | some error => rfl

/-! ## Reading one field -/

lemma readValue_eq (e : Element) : readValue e = ifReadable [e] (elementValue e) := by
  rw [readValue, ifReadable, List.findSome?_cons, List.findSome?_nil]
  cases overlongIn? e with
  | none => rfl
  | some error => rfl

/-- Elements are read one after the other. -/
lemma mapM_eq_ifReadable {α β : Type} {f : α → Except TooManyDigits β} {g : α → β}
    (element : α → Element) (hf : ∀ a, f a = ifReadable [element a] (g a)) (l : List α) :
    l.mapM f = ifReadable (l.map element) (l.map g) := by
  induction l with
  | nil => rfl
  | cons a l ih =>
    have hrest (b : β) : (l.mapM f >>= fun bs => pure (b :: bs))
        = ifReadable (l.map element) (b :: l.map g) := by
      rw [ih]
      exact ifReadable_map _ _ _
    simp only [List.mapM_cons, hrest, hf]
    exact ifReadable_bind [element a] (l.map element) (g a) (· :: l.map g)

/-- A field of its own is that of the first child of the tag. -/
lemma singleValue_eq (tree : Tree) (tag : String) :
    singleValue tree tag = ifReadable (tree.firstChild? tag).toList
      ((tree.firstChild? tag).map elementValue) := by
  rw [singleValue]
  cases tree.firstChild? tag with
  | none => rfl
  | some e =>
    dsimp only
    rw [readValue_eq, ifReadable_map]
    rfl

lemma allValues_eq (tree : Tree) (tag : String) :
    allValues tree tag = ifReadable (tree.children tag) ((tree.children tag).map elementValue) := by
  rw [allValues, mapM_eq_ifReadable id readValue_eq, List.map_id]

/-- The entries of references are those of the children that refer, if all of them can be read. -/
lemma referenceEntries_eq (tree : Tree) (tag : String) :
    referenceEntries tree tag
      = ifReadable ((referring (tree.children tag)).map Prod.fst) (heldReferences tree tag) := by
  have hentry (found : Element × CommentId) : referenceEntry found = ifReadable [found.1]
      ⟨if (elementValue found.1).isEmpty then none else some (elementValue found.1), found.2⟩ := by
    rw [referenceEntry, readValue_eq, ifReadable_map]
  rw [referenceEntries, mapM_eq_ifReadable Prod.fst hentry]
  exact ifReadable_map _ _ _

lemma isSome_lookup_iff (entries : List (String × String)) (name : String) :
    (entries.lookup name).isSome = true ↔ name ∈ entries.map Prod.fst := by
  induction entries with
  | nil => simp
  | cons entry entries ih =>
    obtain ⟨other, value⟩ := entry
    rw [List.lookup_cons, List.map_cons, List.mem_cons]
    by_cases hname : name = other
    · simp [hname]
    · have hbeq : (name == other) = false := beq_false_of_ne hname
      simp [hbeq, hname, ih]

/-- A keyed field has the entries that it started with and those of the elements that count. -/
lemma keyedEntries_result (content : String) (context : Context) (elements : List Element)
    (entries : List (String × String)) :
    (keyedEntries content context elements entries).result
      = ifReadable (firstNamed (entries.map Prod.fst) elements)
        (entries ++ (firstNamed (entries.map Prod.fst) elements).map
          fun e => (e.givenName, elementValue e)) := by
  induction elements generalizing entries with
  | nil => simp [keyedEntries, firstNamed, ifReadable]
  | cons e rest ih =>
    have hname : (e.attr? "name").getD "" = e.givenName := rfl
    rw [keyedEntries, firstNamed, hname]
    by_cases hempty : e.givenName = ""
    · rw [if_pos (by simp [hempty]), if_pos (Or.inl hempty), ih]
    · rw [if_neg (by simpa using hempty)]
      by_cases htaken : e.givenName ∈ entries.map Prod.fst
      · -- a notice is made, and the element is passed over
        rw [if_pos ((isSome_lookup_iff entries _).mpr htaken), if_pos (Or.inr htaken),
          Reading.result_bind, ih]
        rfl
      · have hlookup : ¬ (entries.lookup e.givenName).isSome = true := fun h =>
          htaken ((isSome_lookup_iff entries _).mp h)
        rw [if_neg hlookup, if_neg (by tauto)]
        simp only [Reading.result_bind, Reading.result_liftM, readValue_eq, ih, List.map_append,
          List.map_cons, List.map_nil, ifReadable_bind]
        rw [List.append_assoc]
        rfl

/-! ## Reading a tree -/

/-- Reading a tree gives the comment that it holds, unless there is a text that cannot be read. -/
theorem ofTree_result (tree : Tree) (context : Context) :
    (Comment.ofTree tree context).result = ifReadable (readElements tree) (heldComment tree) := by
  have hlast {α β : Type} (elements : List Element) (value : α) (f : α → β) :
      (ifReadable elements value >>= fun a => .ok (f a)) = ifReadable elements (f value) :=
    ifReadable_map elements value f
  simp only [Comment.ofTree, Reading.result_bind, Reading.result_liftM, Reading.result_pure,
    singleValue_eq, keyedEntries_result, referenceEntries_eq, allValues_eq, hlast, ifReadable_bind]
  simp only [readElements, List.flatMap_cons, List.flatMap_nil, List.append_nil, List.append_assoc]
  rfl

/-! ## Legible trees -/

/-- The first element of a name is one of the elements. -/
lemma mem_of_mem_firstNamed {taken : List String} {elements : List Element} {e : Element}
    (h : e ∈ firstNamed taken elements) : e ∈ elements := by
  induction elements generalizing taken with
  | nil => exact h
  | cons other rest ih =>
    rw [firstNamed] at h
    split at h
    · exact List.mem_cons_of_mem _ (ih h)
    · rcases List.mem_cons.mp h with rfl | h
      · exact List.mem_cons_self
      · exact List.mem_cons_of_mem _ (ih h)

/-- Only texts of direct children of the root are read. -/
lemma exists_mem_children_of_mem_readElements {tree : Tree} {e : Element}
    (h : e ∈ readElements tree) : ∃ tag, e ∈ tree.children tag := by
  simp only [readElements, List.mem_append, List.mem_flatMap, List.mem_map,
    Option.mem_toList] at h
  rcases h with ((⟨tag, -, he⟩ | ⟨tag, -, he⟩) | ⟨tag, -, found, hfound, rfl⟩) | he
  · exact ⟨tag, List.mem_of_head? he⟩
  · exact ⟨tag, mem_of_mem_firstNamed he⟩
  · obtain ⟨other, hother, hsome⟩ := List.mem_filterMap.mp hfound
    obtain ⟨id, -, rfl⟩ := Option.map_eq_some_iff.mp hsome
    exact ⟨tag, hother⟩
  · exact ⟨"example", he⟩

/-- The children of a tag are nodes of the content of the root. -/
lemma toNode_mem_content {tree : Tree} {tag : String} {e : Element} (h : e ∈ tree.children tag) :
    e.toNode ∈ tree.root.content := by
  rw [Tree.children] at h
  split at h
  · obtain ⟨he, -⟩ := List.mem_filter.mp h
    obtain ⟨n, hn, hsome⟩ := List.mem_filterMap.mp he
    cases n with
    | text value => cases hsome
    | comment value => cases hsome
    | element tag attrs place content =>
      obtain rfl := Option.some.inj hsome
      exact hn
  · cases h

/-- All texts of a legible tree can be read. -/
lemma ifReadable_of_legible {α : Type} {tree : Tree} (h : tree.root.toNode.Legible) (value : α) :
    ifReadable (readElements tree) value = .ok value := by
  refine ifReadable_eq_ok_iff.mpr ⟨fun e he => ?_, rfl⟩
  obtain ⟨tag, hchild⟩ := exists_mem_children_of_mem_readElements he
  cases h with
  | element _ _ hcontent => exact overlongIn?_of_legible (hcontent _ (toNode_mem_content hchild))

/-! ## Building -/

/-- The tree that the fields of a comment are read from. -/
def Markup.Tree.resolved (tree : Tree) (context : Context) (listener : Listener) : Tree :=
  { tree with root := (DocComment.resolved context listener tree.root).root }

/-- Whether a text is read as a tree: it is neither white nor the compiler's marker. -/
structure ReadsAs (raw : String) (tree : Tree) : Prop where
  visible : Text.allBlank raw.toList = false
  unmarked : malformedMarker.toList.isPrefixOf raw.toList = false
  parsed : parse raw = .ok tree

namespace ReadsAs

variable {raw : String} {tree : Tree}

/-- Building gives the comment that the tree holds after resolution, unless there is a text that
cannot be read. -/
theorem buildComment_result (h : ReadsAs raw tree) (context : Context) (listener : Listener) :
    (buildComment (some raw) context listener).result
      = ifReadable (readElements (tree.resolved context listener))
        (some (heldComment (tree.resolved context listener))) := by
  rw [buildComment_of_parse h.visible h.unmarked h.parsed]
  dsimp only
  rw [ofTree_result, ifReadable_map]
  rfl

lemma buildComment_ne_none (h : ReadsAs raw tree) (context : Context) (listener : Listener) :
    (buildComment (some raw) context listener).result ≠ .ok none := by
  rw [h.buildComment_result]
  intro hnone
  cases (ifReadable_eq_ok_iff.mp hnone).2

/-- Whether the comments in a text are legible can be computed. -/
lemma commentsLegible (h : ReadsAs raw tree)
    (hcomments : (parse raw).toOption.map (·.root.commentsLegible) = some true) :
    tree.root.commentsLegible = true := by
  rw [h.parsed] at hcomments
  exact Option.some.inj hcomments

/-- Building does not fail on a text whose comments are legible. -/
theorem buildComment_of_legible (h : ReadsAs raw tree)
    (hcomments : tree.root.commentsLegible = true) (context : Context) (listener : Listener) :
    (buildComment (some raw) context listener).result
      = .ok (some (heldComment (tree.resolved context listener))) := by
  rw [h.buildComment_result]
  exact ifReadable_of_legible
    (legible_resolved (legible_of_parse h.parsed hcomments) context listener) _

end ReadsAs

end DocComment
