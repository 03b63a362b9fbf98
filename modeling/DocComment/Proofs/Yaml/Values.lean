import DocComment.Proofs.Yaml.Documents
import DocComment.Yaml.Value
import Mathlib.Logic.Relation

/-!
# How reading the values of a document can end

Before a mapping is read, its merge keys are replaced by the entries that they offer, and the keys
that mark default values become texts. What is part of a node afterwards could be reached from it
before (`Derived`). So if a value is bad, there was a node in the document already whose tag promises
a value that its own text, or that of a scalar inside it, is none of (`ends_readAll`).
-/

namespace DocComment.Yaml

/-- The nodes inside a node: the items of a sequence and the values of the entries of a mapping. -/
def Node.parts : Node → List Nat
  | scalar _ _ => []
  | sequence _ items => items
  | mapping _ entries => entries.map Prod.snd

namespace Graph

open Relation

variable {g₀ g : Graph} {id : Nat} {offered : List (Nat × Nat)}

/-! ## Parts of nodes -/

/-- Whether a node is another one, or a part of it, or a part of a part, and so on. -/
abbrev Holds (g : Graph) : Nat → Nat → Prop :=
  ReflTransGen fun id part => part ∈ (g.node id).parts

/-- Whether a value is bad in a graph: the tag of a node promises a value that the text of the node,
or of a scalar inside it, is none of. -/
def HasBadValue (g : Graph) (e : BadValue) : Prop :=
  ∃ id inner tag text, g.Holds id inner ∧ g.node inner = .scalar tag text ∧
    Scalar.read (g.node id).tag text = .error (.badValue e)

/-- Whether a graph came from another one by merging: tags stay, or become that of texts; the texts
of scalars stay; and what is part of a node could be reached from it before. -/
structure Derived (g₀ g : Graph) : Prop where
  tag : ∀ id, (g.node id).tag = (g₀.node id).tag ∨ (g.node id).tag = .str
  text : ∀ id tag text, g.node id = .scalar tag text → ∃ tag₀, g₀.node id = .scalar tag₀ text
  part : ∀ id, ∀ part ∈ (g.node id).parts, g₀.Holds id part

lemma Derived.refl (g : Graph) : Derived g g :=
  ⟨fun _ => Or.inl rfl, fun _ tag _ h => ⟨tag, h⟩, fun _ _ h => .single h⟩

/-- After a node is set, every node is the new one or as before. -/
lemma node_set (g : Graph) (id other : Nat) (n : Node) :
    (other = id ∧ (g.set id n).node other = n) ∨ (g.set id n).node other = g.node other := by
  rw [node, node, set]
  by_cases hother : other = id
  · subst hother
    by_cases hlt : other < g.nodes.length
    · rw [List.getElem?_set_self hlt]
      exact Or.inl ⟨rfl, rfl⟩
    · rw [List.set_eq_of_length_le (Nat.le_of_not_lt hlt)]
      exact Or.inr rfl
  · rw [List.getElem?_set_ne (Ne.symm hother)]
    exact Or.inr rfl

/-- A node may be changed if it keeps its tag, or becomes a text, keeps its text and gets no parts
that could not be reached before. -/
lemma Derived.set (h : Derived g₀ g) {n : Node} (htag : n.tag = (g₀.node id).tag ∨ n.tag = .str)
    (htext : ∀ tag text, n = .scalar tag text → ∃ tag₀, g₀.node id = .scalar tag₀ text)
    (hpart : ∀ part ∈ n.parts, g₀.Holds id part) : Derived g₀ (g.set id n) := by
  refine ⟨fun other => ?_, fun other tag text hnode => ?_, fun other part hmem => ?_⟩
  · obtain ⟨rfl, hset⟩ | hset := g.node_set id other n
    · rw [hset]
      exact htag
    · rw [hset]
      exact h.tag other
  · obtain ⟨rfl, hset⟩ | hset := g.node_set id other n
    · exact htext tag text (hset.symm.trans hnode)
    · exact h.text other tag text (hset.symm.trans hnode)
  · obtain ⟨rfl, hset⟩ | hset := g.node_set id other n
    · rw [hset] at hmem
      exact hpart part hmem
    · rw [hset] at hmem
      exact h.part other part hmem

/-! ## Merging -/

/-- A node may become a text. -/
lemma Derived.asText (h : Derived g₀ g) (id : Nat) : Derived g₀ (g.asText id) := by
  have hparts := h.part id
  rw [Graph.asText]
  split
  · rename_i tag text hnode
    refine h.set (Or.inr rfl) (fun tag' text' hscalar => ?_) nofun
    obtain ⟨-, rfl⟩ := Node.scalar.inj hscalar
    exact h.text id tag text hnode
  · rename_i hnode
    rw [hnode] at hparts
    exact h.set (Or.inr rfl) nofun hparts
  · rename_i hnode
    rw [hnode] at hparts
    exact h.set (Or.inr rfl) nofun hparts

/-- Whether a node holds the values of all of some entries. -/
def HoldsAll (g : Graph) (id : Nat) (entries : List (Nat × Nat)) : Prop :=
  ∀ entry ∈ entries, g.Holds id entry.2

lemma holdsAll_nil (g : Graph) (id : Nat) : g.HoldsAll id [] :=
  fun _ hmem => by cases hmem

lemma HoldsAll.append {entries others : List (Nat × Nat)} (h : g.HoldsAll id entries)
    (h' : g.HoldsAll id others) : g.HoldsAll id (entries ++ others) :=
  List.forall_mem_append.mpr ⟨h, h'⟩

lemma HoldsAll.of_holds {outer : Nat} {entries : List (Nat × Nat)} (h : g.HoldsAll id entries)
    (houter : g.Holds outer id) : g.HoldsAll outer entries :=
  fun entry hmem => houter.trans (h entry hmem)

lemma Derived.holdsAll_entries (h : Derived g₀ g) (id : Nat) : g₀.HoldsAll id (g.entries id) := by
  intro entry hmem
  refine h.part id entry.2 ?_
  rw [entries] at hmem
  split at hmem
  · rename_i hnode
    rw [hnode]
    exact List.mem_map_of_mem hmem
  · cases hmem

/-- A mapping may get other entries that could be reached from it before. -/
lemma Derived.setEntries (h : Derived g₀ g) {entries : List (Nat × Nat)}
    (hentries : g₀.HoldsAll id entries) : Derived g₀ (g.setEntries id entries) := by
  have htag := h.tag id
  rw [Graph.setEntries]
  split
  · rename_i tag _ hnode
    rw [hnode] at htag
    exact h.set htag nofun (List.forall_mem_map.mpr hentries)
  · exact h

/-- Replacing merge keys comes to a derived graph, or there is something that cannot be merged. -/
lemma ends_flatten {excuse : BadValue → Prop} (fuel index : Nat) (h : Derived g₀ g)
    (hoffered : g₀.HoldsAll id offered) :
    Ends (MayFail excuse) (Derived g₀) (flatten fuel g id index offered) := by
  induction fuel generalizing g id index offered with
  | zero => exact h
  | succ fuel ih =>
    have hentries := h.holdsAll_entries id
    rw [flatten]
    dsimp only
    split
    · refine ends_ok ?_
      split
      · exact h
      · exact h.setEntries (hoffered.append hentries)
    · rename_i key value hentry
      have hvalue : g₀.Holds id value := hentries (key, value) (List.mem_of_getElem? hentry)
      split
      · have herased : Derived g₀ (g.setEntries id ((g.entries id).eraseIdx index)) :=
          h.setEntries fun entry hmem => hentries entry (List.mem_of_mem_eraseIdx hmem)
        generalize g.setEntries id ((g.entries id).eraseIdx index) = g' at herased ⊢
        -- a merge key offers the entries of a mapping, or of each mapping in a sequence
        split
        · refine ends_bind (ih 0 herased (holdsAll_nil _ _)) fun g'' hmerged => ?_
          exact ih index hmerged (hoffered.append ((hmerged.holdsAll_entries value).of_holds hvalue))
        · rename_i items hnode
          have hitems (item : Nat) (hmem : item ∈ items) : g₀.Holds id item := by
            refine hvalue.trans (herased.part value item ?_)
            rw [hnode]
            exact hmem
          -- the graph and what the items before have offered
          refine ends_bind (P := fun acc => Derived g₀ acc.1 ∧ g₀.HoldsAll id acc.2.flatten)
            (ends_foldlM ⟨herased, holdsAll_nil _ _⟩ fun acc hacc item hitem => ?_)
            fun ⟨g'', taken⟩ ⟨hmerged, htaken⟩ => ih index hmerged (hoffered.append htaken)
          refine ends_ite (fun _ => ends_malformed _) fun _ => ?_
          refine ends_bind (ih 0 hacc.1 (holdsAll_nil _ _)) fun g'' hmerged => ⟨hmerged, ?_⟩
          have hown := (hmerged.holdsAll_entries item).of_holds (hitems item hitem)
          exact hown.append hacc.2
        · exact ends_malformed _
      · exact ih (index + 1) (h.asText key) hoffered
      · exact ih (index + 1) h hoffered

/-! ## Reading -/

/-- The text of a node is that of a scalar that it holds. -/
lemma ends_scalarText {excuse : BadValue → Prop} (h : Derived g₀ g) (fuel id : Nat) :
    Ends (MayFail excuse)
      (fun text => ∃ inner tag, g₀.Holds id inner ∧ g₀.node inner = .scalar tag text)
      (g.scalarText fuel id) := by
  induction fuel generalizing id with
  | zero => exact ends_malformed _
  | succ fuel ih =>
    have hparts := h.part id
    rw [scalarText]
    split
    · rename_i tag text hnode
      obtain ⟨tag₀, hscalar⟩ := h.text id tag text hnode
      exact ends_ok ⟨id, tag₀, .refl, hscalar⟩
    · exact ends_malformed _
    · rename_i tag entries hnode
      split
      · rename_i key value hfind
        have hvalue : g₀.Holds id value := by
          refine hparts value ?_
          rw [hnode]
          exact List.mem_map_of_mem (List.mem_of_find?_eq_some hfind)
        refine (ih value).mono (fun _ he => he) fun text ⟨inner, tag, hinner, hscalar⟩ => ?_
        exact ⟨inner, tag, hvalue.trans hinner, hscalar⟩
      · exact ends_malformed _

/-- Reading a text as a value has nothing to do with bytes. -/
lemma read_ne_undecodable (tag : Tag) (text : Text.CodePoints) (e : Text.Utf8.DecodeError) :
    Scalar.read tag text ≠ .error (.undecodable e) := by
  have hvalued {α : Type} (result : Except BadValue α) (f : BadValue → BadValue) :
      result.mapError (fun e => LoadError.badValue (f e)) ≠ .error (.undecodable e) := by
    cases result with
    | ok value => exact nofun
    | error e => exact nofun
  rw [Scalar.read.eq_def]
  dsimp only
  split
  · exact nofun
  · exact hvalued _ _
  · exact hvalued _ _
  · exact hvalued _ _
  · exact hvalued _ _
  · split
    · exact nofun
    · exact nofun
  · exact nofun
  · exact nofun

/-- A scalar is read, or is malformed, or is a bad value of the document. -/
lemma ends_scalar (h : Derived g₀ g) (id : Nat) :
    Ends (MayFail g₀.HasBadValue) (fun _ => True) (g.scalar id) := by
  rw [scalar]
  refine ends_bind (ends_scalarText h _ id) fun text ⟨inner, tag, hinner, hscalar⟩ => ?_
  cases hread : Scalar.read (g.node id).tag text with
  | ok value => trivial
  | error e =>
    cases e with
    | malformed cause => trivial
    | badValue cause =>
      obtain htag | hstr := h.tag id
      · rw [htag] at hread
        exact ⟨id, inner, tag, text, hinner, hscalar, hread⟩
      · -- every text is a value for the tag of texts
        rw [hstr] at hread
        cases hread
    | undecodable cause => exact absurd hread (read_ne_undecodable _ _ _)

lemma ends_meet (h : Derived g₀ g) (id : Nat) :
    Ends (MayFail g₀.HasBadValue) (fun _ => True) (g.meet id) := by
  rw [meet]
  exact ends_ite (fun _ => trivial) fun _ => ends_bind (ends_scalar h id) fun _ _ => trivial

lemma ends_meetEntry (h : Derived g₀ g) (entry : Nat × Nat) :
    Ends (MayFail g₀.HasBadValue) (fun _ => True) (g.meetEntry entry) := by
  rw [meetEntry]
  refine ends_bind (ends_meet h entry.1) fun _ _ => ?_
  exact ends_ite (fun _ => ends_malformed _) fun _ => ends_meet h entry.2

lemma ends_meetPair (h : Derived g₀ g) (item : Nat) :
    Ends (MayFail g₀.HasBadValue) (fun _ => True) (g.meetPair item) := by
  rw [meetPair]
  split
  · refine ends_bind (ends_meet h _) fun _ _ => ends_bind (ends_meet h _) fun _ _ => trivial
  · exact ends_malformed _

/-- Sequences and mappings are read by what they hold, and only merging changes the graph. -/
lemma ends_readCollection (h : Derived g₀ g) (id : Nat) :
    Ends (MayFail g₀.HasBadValue) (fun read => Derived g₀ read.1) (g.readCollection id) := by
  have hmapping : Ends (MayFail g₀.HasBadValue) (fun read => Derived g₀ read.1) (do
      let g ← g.flatten (2 * g.size + 2) id 0 []
      let found ← (g.entries id).mapM g.meetEntry
      return (g, found.flatten)) := by
    refine ends_bind (ends_flatten _ 0 h (holdsAll_nil _ _)) fun g' hmerged => ?_
    exact ends_bind (ends_mapM fun entry _ => ends_meetEntry hmerged entry) fun _ _ => hmerged
  rw [readCollection]
  split
  · exact ends_bind (ends_mapM fun item _ => ends_meet h item) fun _ _ => h
  · exact hmapping
  · exact hmapping
  · exact ends_bind (ends_mapM fun item _ => ends_meetPair h item) fun _ _ => h
  · exact ends_bind (ends_mapM fun item _ => ends_meetPair h item) fun _ _ => h
  · exact ends_malformed _

/-- Reading all collections fails only where a document is malformed or holds a bad value. -/
lemma ends_readAll (h : Derived g₀ g) (fuel : Nat) (waiting done : List Nat) :
    Ends (MayFail g₀.HasBadValue) (fun _ => True) (readAll fuel g waiting done) := by
  induction fuel generalizing g waiting done with
  | zero => trivial
  | succ fuel ih =>
    cases waiting with
    | nil => trivial
    | cons id waiting =>
      have hread := ends_readCollection h id
      rw [readAll]
      refine ends_ite (fun _ => ih h _ _) fun _ => ?_
      split
      · rename_i e hfailed
        rw [hfailed] at hread
        exact hread
      · rename_i g' found hdone
        rw [hdone] at hread
        exact ih hread _ _

end Graph

/-! ## Loading -/

/-- How reading the values of a document ends. -/
lemma ends_load {source : Source} {g : Graph} {root : Option Nat}
    (h : graphOf source = .ok (g, root)) (depth : Nat) :
    Ends (MayFail g.HasBadValue) (fun _ => True) (load depth source) := by
  have hself := Graph.Derived.refl g
  rw [load, h]
  cases root with
  | none => exact ends_pure trivial
  | some root =>
    show Ends _ _ (g.meet root >>= _)
    refine ends_bind (Graph.ends_meet hself root) fun first _ => ?_
    exact ends_bind (Graph.ends_readAll hself _ first []) fun _ _ => trivial

/-- **How loading ends.** With a value, if the text holds a document; or because the text is
malformed; or at the fault behind the text; or at a number in the text that is too large or too long;
or at a bad value of the document. -/
theorem load_cases (depth : Nat) (source : Source) :
    (∃ found value, graphOf source = .ok found ∧ load depth source = .ok value) ∨
    (∃ cause, load depth source = .error (.malformed cause)) ∨
    (∃ e, source.fault = some e ∧ load depth source = .error e) ∨
    (∃ e, hasExcess source.text = true ∧ load depth source = .error (.badValue e)) ∨
    ∃ g root e, graphOf source = .ok (g, root) ∧ g.HasBadValue e ∧
      load depth source = .error (.badValue e) := by
  cases hgraph : graphOf source with
  | ok found =>
    obtain ⟨g, root⟩ := found
    have hends := ends_load hgraph depth
    cases hload : load depth source with
    | ok value => exact Or.inl ⟨_, value, rfl, rfl⟩
    | error e =>
      rw [hload] at hends
      cases e with
      | malformed cause => exact Or.inr (Or.inl ⟨cause, rfl⟩)
      | badValue cause => exact Or.inr (Or.inr (Or.inr (Or.inr ⟨g, root, cause, rfl, hends, rfl⟩)))
      | undecodable cause => exact absurd hends id
  | error e =>
    have hload : load depth source = .error e := by
      rw [load, hgraph]
      rfl
    rw [hload]
    obtain ⟨cause, rfl⟩ | htokens := graphOf_eq_error hgraph
    · exact Or.inr (Or.inl ⟨cause, rfl⟩)
    · obtain hfault | hfail := tokensOf_fault htokens
      · exact Or.inr (Or.inr (Or.inl ⟨e, hfault, rfl⟩))
      · cases e with
        | malformed cause => exact Or.inr (Or.inl ⟨cause, rfl⟩)
        | badValue cause => exact Or.inr (Or.inr (Or.inr (Or.inl ⟨cause, hfail, rfl⟩)))
        | undecodable cause => exact absurd hfail id

end DocComment.Yaml
