import DocComment.Proofs.Extraction.Members
import DocComment.Proofs.Extraction.Reported

/-!
# How often references are counted

A member is written out with everything inside it, so a reference is counted once for each member
that it stands in, and not at all outside of members. If no member stands inside another, no
reference is counted twice.

* `count_reportsOf_le`: a member reports each of its references at most once;
* `sublist_elements`: the parts of a tree that do not overlap make up no more than the tree;
* `count_tallyReferences_le`: the tally of a file counts a reference at most once for each member
  around it.
-/

namespace DocComment.Markup

/-! ## References of changed trees -/

/-- Whether what is picked of an element depends on its tag and its attributes alone. -/
def PicksByHead {α : Type} (f : Element → Option α) : Prop :=
  ∀ tag attrs place place' content content',
    f ⟨tag, attrs, place, content⟩ = f ⟨tag, attrs, place', content'⟩

mutual

/-- What is picked by tag and attributes is still there after a change of data and places. -/
theorem filterMap_elements_changed {α : Type} {f : Element → Option α} (hf : PicksByHead f)
    (data : String → String) (place : Option Position → Option Position) (n : Node) :
    (n.changed data place).elements.filterMap f = n.elements.filterMap f := by
  match n with
  | .text _ => rfl
  | .comment _ => rfl
  | .element tag attrs p content =>
    rw [Node.changed, Node.elements, Node.elements, List.filterMap_cons, List.filterMap_cons,
      hf tag attrs (place p) p (changedNodes data place content) content,
      filterMap_elementsOf_changed hf data place content]

/-- Neither data nor places show in what is picked by tags and attributes. -/
theorem filterMap_elementsOf_changed {α : Type} {f : Element → Option α} (hf : PicksByHead f)
    (data : String → String) (place : Option Position → Option Position) (content : List Node) :
    (elementsOf (changedNodes data place content)).filterMap f
      = (elementsOf content).filterMap f := by
  match content with
  | [] => rfl
  | n :: rest =>
    rw [changedNodes, elementsOf, elementsOf, List.filterMap_append, List.filterMap_append,
      filterMap_elements_changed hf data place n, filterMap_elementsOf_changed hf data place rest]

end

/-- An element that is the same up to places and line feeds has the same. -/
lemma filterMap_elements_of_same {α : Type} {f : Element → Option α} (hf : PicksByHead f)
    {e e' : Element} (h : e'.unplaced = e.withLineFeeds.unplaced) :
    e'.elements.filterMap f = e.elements.filterMap f := by
  have hunplaced (x : Element) : x.unplaced.elements.filterMap f = x.elements.filterMap f := by
    have hnode : x.unplaced.toNode = x.toNode.unplaced :=
      (unplaced_element x.tag x.attrs x.place x.content).symm
    exact (congrArg (fun n : Node => n.elements.filterMap f) hnode).trans
      (filterMap_elements_changed hf id (fun _ => none) x.toNode)
  have hfeeds : e.withLineFeeds.elements.filterMap f = e.elements.filterMap f :=
    (congrArg (fun n : Node => n.elements.filterMap f) (toNode_withLineFeeds e)).trans
      (filterMap_elements_changed hf lineFeeds id e.toNode)
  rw [← hunplaced e', h, hunplaced, hfeeds]

/-! ## Parts that do not overlap -/

section

variable {p : Element → Bool}

mutual

/-- The picked elements of a node, with all that is inside them, make up no more than the node, if
none of them stands inside another. -/
theorem sublist_elements (n : Node)
    (h : ∀ outer ∈ n.elements, p outer = true → ∀ inner ∈ elementsOf outer.content,
      p inner = false) :
    ((n.elements.filter p).flatMap Element.elements).Sublist n.elements := by
  match n with
  | .text _ => exact List.Sublist.refl _
  | .comment _ => exact List.Sublist.refl _
  | .element tag attrs place content =>
    rw [Node.elements] at h ⊢
    obtain ⟨hself, hcontent⟩ := List.forall_mem_cons.mp h
    cases hp : p ⟨tag, attrs, place, content⟩ with
    | true =>
      -- nothing inside is picked
      have hnone : (elementsOf content).filter p = [] :=
        List.filter_eq_nil_iff.mpr fun inner hinner => by simp [hself hp inner hinner]
      rw [List.filter_cons_of_pos hp, hnone, List.flatMap_cons, List.flatMap_nil, List.append_nil]
      exact List.Sublist.refl _
    | false =>
      rw [List.filter_cons_of_neg (by simp [hp])]
      exact (sublist_elementsOf content hcontent).cons _

/-- Of elements that are not in each other, the parts stand one after the other in the whole. -/
theorem sublist_elementsOf (content : List Node)
    (h : ∀ outer ∈ elementsOf content, p outer = true → ∀ inner ∈ elementsOf outer.content,
      p inner = false) :
    (((elementsOf content).filter p).flatMap Element.elements).Sublist (elementsOf content) := by
  match content with
  | [] => exact List.Sublist.refl _
  | n :: rest =>
    rw [elementsOf] at h ⊢
    obtain ⟨hn, hrest⟩ := List.forall_mem_append.mp h
    rw [List.filter_append, List.flatMap_append]
    exact (sublist_elements n hn).append (sublist_elementsOf rest hrest)

end

end

end DocComment.Markup

namespace DocComment

open Markup

/-! ## Members -/

/-- The `member` elements of a tree. -/
def memberElements (root : Element) : List Element :=
  root.elements.filter (·.tag == rootTag)

/-- Whether a member stands inside another. -/
def NestsMembers (root : Element) : Prop :=
  ∃ outer ∈ root.elements, outer.tag = rootTag ∧
    ∃ inner ∈ elementsOf outer.content, inner.tag = rootTag

instance (root : Element) : Decidable (NestsMembers root) :=
  inferInstanceAs (Decidable (∃ outer ∈ root.elements, outer.tag = rootTag ∧
    ∃ inner ∈ elementsOf outer.content, inner.tag = rootTag))

/-- A tree that is read reports each of its references at most once. -/
lemma count_reportedIn_le (root : Element) (u : String) :
    (reportedIn root).count u ≤ (root.elements.filterMap referenceIdentifier?).count u := by
  have hall := (perm_referenceIdentifier root.elements).trans
    ((perm_seealso_rewrite .csharp root).append_left _)
  rw [hall.count_eq, ← List.append_assoc, List.count_append, reportedIn]
  exact Nat.le_add_right _ _

/-- A member reports each of its references at most once. -/
lemma count_reportsOf_le {xml : String} {file : Tree} (h : parse xml false = .ok file) {e : Element}
    (he : e ∈ file.root.elements) (htag : e.tag = rootTag) (u : String) :
    (reportsOf (Member.ofElement file e).xml).count u
      ≤ (e.elements.filterMap referenceIdentifier?).count u := by
  obtain ⟨tree, hreads, -, hsame⟩ := exists_readsAs_ofElement h he htag
  have hreferences : tree.root.elements.filterMap referenceIdentifier?
      = e.elements.filterMap referenceIdentifier? :=
    filterMap_elements_of_same (fun _ _ _ _ _ _ => rfl) hsame
  rw [reportsOf, hreads.reports_recorder rfl, ← hreferences]
  exact count_reportedIn_le tree.root u

/-- Counts that are at most others are so in sum. -/
lemma count_flatMap_le {α : Type} {f g : α → List String} {l : List α} {u : String}
    (h : ∀ a ∈ l, (f a).count u ≤ (g a).count u) : (l.flatMap f).count u ≤ (l.flatMap g).count u := by
  induction l with
  | nil => exact Nat.le_refl _
  | cons a l ih =>
    obtain ⟨ha, hl⟩ := List.forall_mem_cons.mp h
    rw [List.flatMap_cons, List.flatMap_cons, List.count_append, List.count_append]
    exact Nat.add_le_add ha (ih hl)

/-- **References are not counted too often.** In the tally of the members of a file, an identifier is
counted at most once for each `see` or `seealso` that refers to it and each member around that
element. If no member stands inside another, it is counted at most once for each such element of the
file. -/
theorem count_tallyReferences_le {xml : String} {ms : List Member} (h : members xml = .ok ms)
    {settings : Settings} {path : String} {tally : Tally}
    (htally : (tallyReferences settings path ms).result = .ok tally) (u : String) :
    ∃ file, parse xml false = .ok file ∧
      tally.count u ≤ (((memberElements file.root).flatMap Element.elements).filterMap
        referenceIdentifier?).count u ∧
      (¬ NestsMembers file.root →
        tally.count u ≤ (file.root.elements.filterMap referenceIdentifier?).count u) := by
  obtain ⟨file, hfile, rfl⟩ := map_eq_ok.mp h
  obtain ⟨-, rfl⟩ := tallyReferences_eq_ok_iff.mp htally
  have hmembers : ((({} : Tally).addAll
      (((membersOfTree file).map Member.xml).flatMap reportsOf)).count u)
        ≤ (((memberElements file.root).flatMap Element.elements).filterMap
          referenceIdentifier?).count u := by
    rw [Tally.count_addAll, membersOfTree, List.map_map, List.flatMap_map, List.filterMap_flatMap]
    refine count_flatMap_le fun e he => ?_
    obtain ⟨he, htag⟩ := List.mem_filter.mp he
    exact count_reportsOf_le hfile he (beq_iff_eq.mp htag) u
  refine ⟨file, hfile, hmembers, fun hnests => hmembers.trans ?_⟩
  have hsublist : ((memberElements file.root).flatMap Element.elements).Sublist
      file.root.elements := by
    refine sublist_elements file.root.toNode fun outer houter htag inner hinner => ?_
    refine beq_false_of_ne fun hinnerTag => hnests ?_
    exact ⟨outer, houter, beq_iff_eq.mp htag, inner, hinner, hinnerTag⟩
  exact (hsublist.filterMap referenceIdentifier?).count_le u

/-- A file with two references to one declaration. -/
def twiceReferred : String :=
  "<d><member><see cref=\"T:A\"/><b><see cref=\"T:A\"/></b></member></d>"

/-- Both references are counted, and there are no more of them in the file. -/
theorem count_tallyReferences_le_twiceReferred :
    ∃ ms tally, members twiceReferred = .ok ms ∧ (tallyReferences {} "" ms).result = .ok tally ∧
      tally.count "A" = 2 ∧ ∃ file, parse twiceReferred false = .ok file ∧
        tally.count "A" ≤ (file.root.elements.filterMap referenceIdentifier?).count "A" := by
  have hread : (members twiceReferred).toOption.map
      (fun ms => (tallyReferences {} "" ms).result.toOption.map (·.count "A")) = some (some 2) := by
    decide +kernel
  have hnests : (parse twiceReferred false).toOption.map (fun file => decide (NestsMembers file.root))
      = some false := by
    decide +kernel
  obtain ⟨ms, hms, hresult⟩ := exists_ok_of_map hread
  obtain ⟨tally, htally, hcount⟩ := exists_ok_of_map hresult
  obtain ⟨file, hfile, -, hbound⟩ := count_tallyReferences_le hms htally "A"
  rw [hfile] at hnests
  exact ⟨ms, tally, hms, htally, hcount, file, hfile,
    hbound (of_decide_eq_false (Option.some.inj hnests))⟩

/-- A file with a reference in a member in a member. -/
def memberInMember : String :=
  "<d><member><member><see cref=\"T:A\"/></member></member></d>"

/-- The one reference of `memberInMember` is counted for both members. -/
theorem count_tallyReferences_le_memberInMember :
    (members memberInMember).toOption.map
        (fun ms => (tallyReferences {} "" ms).result.toOption.map (·.count "A")) = some (some 2) ∧
      (parse memberInMember false).toOption.map
        (fun file => (file.root.elements.filterMap referenceIdentifier?).count "A") = some 1 := by
  constructor
  · decide +kernel
  · decide +kernel

end DocComment
