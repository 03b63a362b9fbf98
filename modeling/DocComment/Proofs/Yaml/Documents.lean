import DocComment.Proofs.Yaml.Tokens
import DocComment.Yaml.Graph.Grammar

/-!
# How reading a document can end

A document is read token by token and never goes back, so it can be read to its end only if the end
of the stream is among the tokens (`end_mem_of_graphOf`); and if it cannot be read, it is no document
or the tokens ended at a fault (`graphOf_eq_error`).
-/

namespace DocComment.Yaml.Composer

variable {α β : Type}

/-- Whether an action passes over tokens only, and fails only where the text is no document or at
the fault that ends the tokens. -/
structure Orderly (m : M α) : Prop where
  ok : ∀ s a s', m s = .ok (a, s') → s'.tokens <:+ s.tokens ∧ s'.fault = s.fault
  error : ∀ s e, m s = .error e → (∃ cause, e = .malformed cause) ∨ s.fault = some e

/-! ## Rules -/

lemma orderly_pure (a : α) : Orderly (pure a : M α) := by
  refine ⟨fun s b s' h => ?_, fun s e h => ?_⟩
  · obtain ⟨-, rfl⟩ := Prod.mk.inj (Except.ok.inj h)
    exact ⟨List.suffix_refl _, rfl⟩
  · cases h

/-- Steps that are orderly are so together. -/
lemma orderly_bind {m : M α} {f : α → M β} (hm : Orderly m) (hf : ∀ a, Orderly (f a)) :
    Orderly (m >>= f) := by
  refine ⟨fun s b s'' h => ?_, fun s e h => ?_⟩
  · obtain ⟨⟨a, s'⟩, hfirst, hsecond⟩ := bind_eq_ok.mp h
    obtain ⟨htokens, hfault⟩ := hm.ok s a s' hfirst
    obtain ⟨htokens', hfault'⟩ := (hf a).ok s' b s'' hsecond
    exact ⟨htokens'.trans htokens, hfault'.trans hfault⟩
  · obtain hfirst | ⟨⟨a, s'⟩, hfirst, hsecond⟩ := bind_eq_error.mp h
    · exact hm.error s e hfirst
    · rw [← (hm.ok s a s' hfirst).2]
      exact (hf a).error s' e hsecond

lemma orderly_fail (cause : Malformed) : Orderly (fail cause : M α) := by
  refine ⟨fun s a s' h => ?_, fun s e h => ?_⟩
  · cases h
  · exact Or.inl ⟨cause, (Except.error.inj h).symm⟩

lemma orderly_ite {p : Prop} [Decidable p] {m n : M α} (hm : p → Orderly m) (hn : ¬ p → Orderly n) :
    Orderly (if p then m else n) := by
  split
  · exact hm ‹_›
  · exact hn ‹_›

lemma orderly_get : Orderly (get : M Composer) := by
  refine ⟨fun s a s' h => ?_, fun s e h => ?_⟩
  · obtain ⟨-, rfl⟩ := Prod.mk.inj (Except.ok.inj h)
    exact ⟨List.suffix_refl _, rfl⟩
  · cases h

lemma orderly_modify {f : Composer → Composer}
    (hf : ∀ s, (f s).tokens <:+ s.tokens ∧ (f s).fault = s.fault) :
    Orderly (modify f : M PUnit) := by
  refine ⟨fun s a s' h => ?_, fun s e h => ?_⟩
  · obtain ⟨-, rfl⟩ := Prod.mk.inj (Except.ok.inj h)
    exact hf s
  · cases h

/-! ## Tokens and nodes -/

lemma peek_cons {s : Composer} {token : Token} {rest : List Token} (h : s.tokens = token :: rest) :
    peek s = .ok (token, s) := by
  obtain ⟨tokens, fault, graph, anchors, handles⟩ := s
  obtain rfl := h
  rfl

lemma peek_nil {s : Composer} (h : s.tokens = []) :
    peek s = .error (s.fault.getD (.malformed .unexpectedToken)) := by
  obtain ⟨tokens, fault, graph, anchors, handles⟩ := s
  obtain rfl := h
  cases fault with
  | none => rfl
  | some e => rfl

/-- The next token is the first one that is left. -/
lemma peek_eq_ok {s s' : Composer} {token : Token} (h : peek s = .ok (token, s')) :
    s' = s ∧ token ∈ s.tokens := by
  cases htokens : s.tokens with
  | nil =>
    rw [peek_nil htokens] at h
    cases h
  | cons first rest =>
    rw [peek_cons htokens] at h
    obtain ⟨rfl, rfl⟩ := Prod.mk.inj (Except.ok.inj h)
    exact ⟨rfl, List.mem_cons_self⟩

/-- Looking at the next token fails only where the tokens end at a fault, or where there is none. -/
lemma orderly_peek : Orderly peek := by
  refine ⟨fun s token s' h => ?_, fun s e h => ?_⟩
  · obtain ⟨rfl, -⟩ := peek_eq_ok h
    exact ⟨List.suffix_refl _, rfl⟩
  · cases htokens : s.tokens with
    | nil =>
      rw [peek_nil htokens] at h
      obtain rfl := Except.error.inj h
      cases s.fault with
      | none => exact Or.inl ⟨_, rfl⟩
      | some e => exact Or.inr rfl
    | cons first rest =>
      rw [peek_cons htokens] at h
      cases h

lemma orderly_pop : Orderly pop :=
  orderly_modify fun s => ⟨List.drop_suffix 1 s.tokens, rfl⟩

lemma orderly_accept (token : Token) : Orderly (accept token) := by
  refine orderly_bind orderly_peek fun next => orderly_ite (fun _ => ?_) fun _ => orderly_pure _
  exact orderly_bind orderly_pop fun _ => orderly_pure _

lemma orderly_expect (token : Token) : Orderly (expect token) :=
  orderly_bind (orderly_accept token) fun _ =>
    orderly_ite (fun _ => orderly_fail _) fun _ => orderly_pure _

/-- What comes of adding a node: it fails if its anchor was given before. -/
lemma addNode_apply (anchor : Option String) (n : Node) (s : Composer) :
    addNode anchor n s = .error (.malformed .repeatedAnchor) ∨
      ∃ anchors, addNode anchor n s
        = .ok (s.graph.nodes.length, { s with graph := (s.graph.add n).1, anchors }) := by
  cases anchor with
  | none => exact Or.inr ⟨s.anchors, rfl⟩
  | some name =>
    have happly : addNode (some name) n s
        = (if (s.anchors.lookup name).isSome then fail .repeatedAnchor
          else do
            set { s with
              graph := (s.graph.add n).1, anchors := (name, s.graph.nodes.length) :: s.anchors }
            return s.graph.nodes.length : M Nat) s := rfl
    rw [happly]
    split
    · exact Or.inl rfl
    · exact Or.inr ⟨_, rfl⟩

/-- Adding a node fails only if its anchor is taken. -/
lemma orderly_addNode (anchor : Option String) (n : Node) : Orderly (addNode anchor n) := by
  refine ⟨fun s id s' h => ?_, fun s e h => ?_⟩
  · obtain hfailed | ⟨anchors, hadded⟩ := addNode_apply anchor n s
    · rw [hfailed] at h
      cases h
    · rw [hadded] at h
      obtain ⟨-, rfl⟩ := Prod.mk.inj (Except.ok.inj h)
      exact ⟨List.suffix_refl _, rfl⟩
  · obtain hfailed | ⟨anchors, hadded⟩ := addNode_apply anchor n s
    · rw [hfailed] at h
      exact Or.inl ⟨_, (Except.error.inj h).symm⟩
    · rw [hadded] at h
      cases h

lemma orderly_setNode (id : Nat) (n : Node) : Orderly (setNode id n) :=
  orderly_modify fun _ => ⟨List.suffix_refl _, rfl⟩

lemma orderly_emptyNode : Orderly emptyNode :=
  orderly_addNode none _

lemma orderly_resolveTag (handle : Option String) (suffix : String) :
    Orderly (resolveTag handle suffix) := by
  cases handle with
  | none => exact orderly_pure _
  | some handle =>
    refine orderly_bind orderly_get fun s => ?_
    dsimp only
    split
    · exact orderly_pure _
    · exact orderly_bind (orderly_fail _) fun _ => orderly_pure _

/-- An anchor and a tag are read in either order. -/
lemma orderly_properties : Orderly properties := by
  refine orderly_bind orderly_peek fun next => ?_
  split
  · refine orderly_bind orderly_pop fun _ => orderly_bind orderly_peek fun next => ?_
    split
    · refine orderly_bind orderly_pop fun _ => ?_
      exact orderly_bind (orderly_resolveTag _ _) fun _ => orderly_pure _
    · exact orderly_pure _
  · refine orderly_bind orderly_pop fun _ => orderly_bind orderly_peek fun next => ?_
    split
    · refine orderly_bind orderly_pop fun _ => ?_
      exact orderly_bind (orderly_resolveTag _ _) fun _ => orderly_pure _
    · exact orderly_bind (orderly_resolveTag _ _) fun _ => orderly_pure _
  · exact orderly_pure _

/-! ## Nodes and collections -/

/-- Whether everything that is read with so much fuel is orderly. -/
structure OrderlyWithin (fuel : Nat) : Prop where
  node : ∀ block indentless, Orderly (node fuel block indentless)
  blockItems : Orderly (blockItems fuel)
  indentlessItems : Orderly (indentlessItems fuel)
  blockEntries : Orderly (blockEntries fuel)
  blockValue : Orderly (blockValue fuel)
  flowItems : ∀ isFirst, Orderly (flowItems fuel isFirst)
  flowValue : ∀ closing, Orderly (flowValue fuel closing)
  flowEntries : ∀ isFirst, Orderly (flowEntries fuel isFirst)

section

variable {fuel : Nat}

/-- A collection is added before its parts are read, and completed afterwards. -/
lemma orderly_collection {anchor : Option String} {empty : Node} {parts : M α} (hparts : Orderly parts)
    (whole : α → Node) :
    Orderly (do
      let id ← addNode anchor empty
      let read ← parts
      setNode id (whole read)
      return id) := by
  refine orderly_bind (orderly_addNode _ _) fun id => orderly_bind hparts fun read => ?_
  exact orderly_bind (orderly_setNode _ _) fun _ => orderly_pure _

/-- A comma stands before every part of a flow collection but the first. -/
lemma orderly_separated {isFirst : Bool} {next : PUnit → M α} (hnext : ∀ u, Orderly (next u)) :
    Orderly (if !isFirst then do
        let u ← expect .flowEntry
        next u
      else next ⟨⟩) :=
  orderly_ite (fun _ => orderly_bind (orderly_expect _) hnext) fun _ => hnext ⟨⟩

/-- A node is an alias, a scalar, a collection, or left out. -/
lemma OrderlyWithin.succ_node (h : OrderlyWithin fuel) (block indentless : Bool) :
    Orderly (Composer.node (fuel + 1) block indentless) := by
  rw [Composer.node]
  refine orderly_bind orderly_peek fun next => ?_
  split
  · refine orderly_bind orderly_pop fun _ => orderly_bind orderly_get fun s => ?_
    split
    · exact orderly_pure _
    · exact orderly_fail _
  · refine orderly_bind orderly_properties fun ⟨anchor, tag⟩ => ?_
    refine orderly_bind orderly_peek fun token => ?_
    refine orderly_ite (fun _ => orderly_collection h.indentlessItems _) fun _ => ?_
    split
    · exact orderly_bind orderly_pop fun _ => orderly_addNode _ _
    · exact orderly_bind orderly_pop fun _ => orderly_collection (h.flowItems true) _
    · exact orderly_bind orderly_pop fun _ => orderly_collection (h.flowEntries true) _
    · refine orderly_ite (fun _ => ?_) fun _ => orderly_ite (fun _ => ?_) fun _ => ?_
      · exact orderly_bind orderly_pop fun _ => orderly_collection h.blockItems _
      · exact orderly_bind orderly_pop fun _ => orderly_collection h.blockEntries _
      · exact orderly_ite (fun _ => orderly_addNode _ _) fun _ => orderly_fail _

lemma OrderlyWithin.succ_blockItems (h : OrderlyWithin fuel) :
    Orderly (Composer.blockItems (fuel + 1)) := by
  rw [Composer.blockItems]
  refine orderly_bind (orderly_accept _) fun accepted => orderly_ite (fun _ => ?_) fun _ => ?_
  · refine orderly_bind orderly_peek fun next => ?_
    have hrest (item : Nat) : Orderly (do return item :: (← Composer.blockItems fuel)) :=
      orderly_bind h.blockItems fun _ => orderly_pure _
    exact orderly_ite (fun _ => orderly_bind orderly_emptyNode hrest) fun _ =>
      orderly_bind (h.node _ _) hrest
  · exact orderly_bind (orderly_expect _) fun _ => orderly_pure _

lemma OrderlyWithin.succ_indentlessItems (h : OrderlyWithin fuel) :
    Orderly (Composer.indentlessItems (fuel + 1)) := by
  rw [Composer.indentlessItems]
  refine orderly_bind (orderly_accept _) fun accepted => orderly_ite (fun _ => ?_) fun _ => ?_
  · refine orderly_bind orderly_peek fun next => ?_
    have hrest (item : Nat) : Orderly (do return item :: (← Composer.indentlessItems fuel)) :=
      orderly_bind h.indentlessItems fun _ => orderly_pure _
    exact orderly_ite (fun _ => orderly_bind orderly_emptyNode hrest) fun _ =>
      orderly_bind (h.node _ _) hrest
  · exact orderly_pure _

/-- The entries of a block mapping are read one by one, and a key may be missing. -/
lemma OrderlyWithin.succ_blockEntries (h : OrderlyWithin fuel) :
    Orderly (Composer.blockEntries (fuel + 1)) := by
  rw [Composer.blockEntries]
  refine orderly_bind orderly_peek fun next => orderly_ite (fun _ => ?_) fun _ => ?_
  · refine orderly_bind orderly_pop fun _ => orderly_bind orderly_peek fun ahead => ?_
    have hrest (key : Nat) : Orderly (do
        let value ← Composer.blockValue fuel
        return (key, value) :: (← Composer.blockEntries fuel)) :=
      orderly_bind h.blockValue fun _ => orderly_bind h.blockEntries fun _ => orderly_pure _
    exact orderly_ite (fun _ => orderly_bind orderly_emptyNode hrest) fun _ =>
      orderly_bind (h.node _ _) hrest
  · exact orderly_bind (orderly_expect _) fun _ => orderly_pure _

lemma OrderlyWithin.succ_blockValue (h : OrderlyWithin fuel) :
    Orderly (Composer.blockValue (fuel + 1)) := by
  rw [Composer.blockValue]
  refine orderly_bind (orderly_accept _) fun accepted => orderly_ite (fun _ => ?_) fun _ => ?_
  · refine orderly_bind orderly_peek fun next => ?_
    exact orderly_ite (fun _ => orderly_emptyNode) fun _ => h.node _ _
  · exact orderly_emptyNode

/-- The items of a flow sequence are read one by one, and an item may be an entry. -/
lemma OrderlyWithin.succ_flowItems (h : OrderlyWithin fuel) (isFirst : Bool) :
    Orderly (Composer.flowItems (fuel + 1) isFirst) := by
  rw [Composer.flowItems]
  have hrest (item : Nat) : Orderly (do return item :: (← Composer.flowItems fuel false)) :=
    orderly_bind (h.flowItems false) fun _ => orderly_pure _
  refine orderly_bind (orderly_accept _) fun accepted =>
    orderly_ite (fun _ => orderly_pure _) fun _ => ?_
  refine orderly_separated fun _ => orderly_bind orderly_peek fun next => ?_
  refine orderly_ite (fun _ => ?_) fun _ => orderly_ite (fun _ => ?_) fun _ => ?_
  · -- a key without braces: the mapping of one entry is added first
    refine orderly_bind orderly_pop fun _ => orderly_bind (orderly_addNode _ _) fun id => ?_
    have hentry (key : Nat) : Orderly (do
        let value ← Composer.flowValue fuel .flowSequenceEnd
        setNode id (.mapping .map [(key, value)])
        return id :: (← Composer.flowItems fuel false)) :=
      orderly_bind (h.flowValue _) fun _ => orderly_bind (orderly_setNode _ _) fun _ => hrest id
    refine orderly_bind orderly_peek fun ahead => ?_
    exact orderly_ite (fun _ => orderly_bind orderly_emptyNode hentry) fun _ =>
      orderly_bind (h.node _ _) hentry
  · exact orderly_bind orderly_pop fun _ => orderly_pure _
  · exact orderly_bind (h.node _ _) hrest

lemma OrderlyWithin.succ_flowValue (h : OrderlyWithin fuel) (closing : Token) :
    Orderly (Composer.flowValue (fuel + 1) closing) := by
  rw [Composer.flowValue]
  refine orderly_bind (orderly_accept _) fun accepted => orderly_ite (fun _ => ?_) fun _ => ?_
  · refine orderly_bind orderly_peek fun ahead => ?_
    exact orderly_ite (fun _ => orderly_emptyNode) fun _ => h.node _ _
  · exact orderly_emptyNode

/-- The entries of a flow mapping are read one by one, and a key or a value may be missing. -/
lemma OrderlyWithin.succ_flowEntries (h : OrderlyWithin fuel) (isFirst : Bool) :
    Orderly (Composer.flowEntries (fuel + 1) isFirst) := by
  rw [Composer.flowEntries]
  have hrest (entry : Nat × Nat) : Orderly (do return entry :: (← Composer.flowEntries fuel false)) :=
    orderly_bind (h.flowEntries false) fun _ => orderly_pure _
  refine orderly_bind (orderly_accept _) fun accepted =>
    orderly_ite (fun _ => orderly_pure _) fun _ => ?_
  refine orderly_separated fun _ => orderly_bind orderly_peek fun next => ?_
  refine orderly_ite (fun _ => ?_) fun _ => orderly_ite (fun _ => ?_) fun _ => ?_
  · have hentry (key : Nat) : Orderly (do
        let value ← Composer.flowValue fuel .flowMappingEnd
        return (key, value) :: (← Composer.flowEntries fuel false)) :=
      orderly_bind (h.flowValue _) fun value => hrest (key, value)
    refine orderly_bind orderly_pop fun _ => orderly_bind orderly_peek fun ahead => ?_
    exact orderly_ite (fun _ => orderly_bind orderly_emptyNode hentry) fun _ =>
      orderly_bind (h.node _ _) hentry
  · exact orderly_bind orderly_pop fun _ => orderly_pure _
  · refine orderly_bind (h.node _ _) fun key => ?_
    exact orderly_bind orderly_emptyNode fun value => hrest (key, value)

end

/-- Whatever is read is orderly. -/
lemma orderlyWithin (fuel : Nat) : OrderlyWithin fuel := by
  induction fuel with
  | zero =>
    exact ⟨fun _ _ => orderly_fail _, orderly_fail _, orderly_fail _, orderly_fail _,
      orderly_fail _, fun _ => orderly_fail _, fun _ => orderly_fail _, fun _ => orderly_fail _⟩
  | succ fuel ih =>
    exact ⟨ih.succ_node, ih.succ_blockItems, ih.succ_indentlessItems, ih.succ_blockEntries,
      ih.succ_blockValue, ih.succ_flowItems, ih.succ_flowValue, ih.succ_flowEntries⟩

/-! ## Documents -/

/-- Directives are read until there is none any more, and a second version is malformed. -/
lemma orderly_directives (fuel : Nat) (hasVersion : Bool) (handles : List (String × String)) :
    Orderly (directives fuel hasVersion handles) := by
  induction fuel generalizing hasVersion handles with
  | zero => exact orderly_fail _
  | succ fuel ih =>
    rw [directives]
    refine orderly_bind orderly_peek fun next => ?_
    split
    · refine orderly_bind orderly_pop fun _ => orderly_ite (fun _ => orderly_fail _) fun _ => ?_
      exact orderly_ite (fun _ => orderly_fail _) fun _ => ih _ _
    · refine orderly_bind orderly_pop fun _ => ?_
      exact orderly_ite (fun _ => orderly_fail _) fun _ => ih _ _
    · exact orderly_bind orderly_pop fun _ => ih _ _
    · exact orderly_modify fun _ => ⟨List.suffix_refl _, rfl⟩

lemma orderly_content (fuel : Nat) : Orderly (content fuel) := by
  refine orderly_bind orderly_peek fun next => ?_
  exact orderly_ite (fun _ => orderly_emptyNode) fun _ => (orderlyWithin fuel).node _ _

lemma orderly_skipDocumentEnds (fuel : Nat) : Orderly (skipDocumentEnds fuel) := by
  induction fuel with
  | zero => exact orderly_pure _
  | succ fuel ih =>
    refine orderly_bind (orderly_accept _) fun accepted => ?_
    exact orderly_ite (fun _ => ih) fun _ => orderly_pure _

/-- Whether an action is orderly and succeeds only if the end of the stream is among the tokens. -/
structure ReachesEnd (m : M α) : Prop extends Orderly m where
  end_mem : ∀ s a s', m s = .ok (a, s') → .streamEnd ∈ s.tokens

lemma reachesEnd_bind {m : M α} {f : α → M β} (hm : Orderly m) (hf : ∀ a, ReachesEnd (f a)) :
    ReachesEnd (m >>= f) := by
  refine ⟨orderly_bind hm fun a => (hf a).toOrderly, fun s b s'' h => ?_⟩
  obtain ⟨⟨a, s'⟩, hfirst, hsecond⟩ := bind_eq_ok.mp h
  exact (hm.ok s a s' hfirst).1.subset ((hf a).end_mem s' b s'' hsecond)

lemma reachesEnd_fail (cause : Malformed) : ReachesEnd (fail cause : M α) :=
  ⟨orderly_fail cause, fun _ _ _ h => by cases h⟩

/-- Whoever has seen the end of the stream has reached it. -/
lemma reachesEnd_peek {m : M α} {f : Token → M α} (hm : Orderly m)
    (hf : ∀ token, ReachesEnd (f token)) :
    ReachesEnd (do
      let token ← peek
      if token = .streamEnd then m else f token) := by
  refine ⟨orderly_bind orderly_peek fun token =>
    orderly_ite (fun _ => hm) fun _ => (hf token).toOrderly, fun s a s'' h => ?_⟩
  obtain ⟨⟨token, s'⟩, hpeek, hrest⟩ := bind_eq_ok.mp h
  obtain ⟨rfl, hmem⟩ := peek_eq_ok hpeek
  dsimp only at hrest
  split at hrest
  · rename_i hend
    exact hend ▸ hmem
  · exact (hf token).end_mem s' a s'' hrest

/-- A document is read to the end of the stream, or there is another document behind it. -/
lemma reachesEnd_document (fuel : Nat) : ReachesEnd (document fuel) := by
  -- behind the root the stream ends, or there is another document
  have hending (root : Nat) : ReachesEnd (do
      skipDocumentEnds fuel
      if (← peek) = .streamEnd then return some root
      else
        directives fuel false []
        expect .documentStart
        fail .severalDocuments) := by
    refine reachesEnd_bind (orderly_skipDocumentEnds fuel) fun _ => ?_
    refine reachesEnd_peek (orderly_pure _) fun next => ?_
    refine reachesEnd_bind (orderly_directives _ _ _) fun _ => ?_
    exact reachesEnd_bind (orderly_expect _) fun _ => reachesEnd_fail _
  refine reachesEnd_peek (orderly_pure _) fun first => ?_
  dsimp only
  split
  · refine reachesEnd_bind (orderly_directives _ _ _) fun _ => ?_
    refine reachesEnd_bind (orderly_expect _) fun _ => ?_
    exact reachesEnd_bind (orderly_content fuel) hending
  · refine reachesEnd_bind (orderly_modify fun _ => ⟨List.suffix_refl _, rfl⟩) fun _ => ?_
    exact reachesEnd_bind ((orderlyWithin fuel).node _ _) hending

end DocComment.Yaml.Composer

namespace DocComment.Yaml

/-- Where a text holds no document, it is malformed or its tokens end at a fault. -/
lemma graphOf_eq_error {source : Source} {e : LoadError} (h : graphOf source = .error e) :
    (∃ cause, e = .malformed cause) ∨ (tokensOf source).2 = some e := by
  obtain hdocument | ⟨⟨root, state⟩, -, h⟩ := bind_eq_error.mp h
  · exact (Composer.reachesEnd_document _).error _ e hdocument
  · cases h

end DocComment.Yaml
