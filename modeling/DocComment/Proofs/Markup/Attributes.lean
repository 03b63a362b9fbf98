import DocComment.Markup.Doctype.Grammar
import DocComment.Proofs.Markup.Tokens
import DocComment.Proofs.Steps

/-!
# The attributes of a tree

The attributes of an element come from its tag and from the declared defaults of the document type.
Either way their names are names, their values hold characters of documents, and no name occurs
twice, so that a tag can be written with them.

* `Doctype.expand_isChar`: what the pieces of a value stand for;
* `RulesWellFormed` and `step_proper`: what the declarations of a prolog keep true;
* `Doctype.attributes_wellFormed`: the attributes that an element gets.
-/

namespace DocComment.Markup

/-! ## Values -/

/-- The pieces of a text are proper. -/
lemma piecesOf_proper (after : Nat) (s : List Char) :
    ∀ piece ∈ (piecesOf after s).1, piece.Proper := by
  fun_induction piecesOf after s with
  | case1 => simp
  | case2 c rest piece next hpiece pieces complaint hothers ih =>
    have hproper := scanPiece_finds c rest piece next hpiece
    rw [hothers] at ih
    refine List.forall_mem_cons.mpr ⟨?_, ih⟩
    cases piece with
    | character c => exact hproper
    | reference target remaining => exact hproper
  | case3 => simp
  | case4 => simp

lemma isChar_of_predefined? {name : String} {c : Char} (h : predefined? name = some c) :
    isChar c = true := by
  rw [predefined?.eq_def] at h
  split at h <;> cases h <;> rfl

/-- The characters that proper pieces stand for may stand in a document. -/
lemma Doctype.expand_isChar (doc : Doctype) (depth : Nat) (opened : List String)
    (pieces : List Piece) (hpieces : ∀ piece ∈ pieces, piece.Proper) {chars : List Char}
    (h : doc.expand depth opened pieces = .ok chars) : ∀ c ∈ chars, isChar c = true := by
  induction depth generalizing opened pieces chars with
  | zero => cases h
  | succ depth ih =>
    rw [Doctype.expand] at h
    obtain ⟨parts, hparts, h⟩ := bind_eq_ok.mp h
    obtain rfl := pure_eq_ok.mp h
    rw [mapM_eq_ok_iff] at hparts
    intro c hc
    obtain ⟨part, hpart, hc⟩ := List.mem_flatten.mp hc
    obtain ⟨piece, hpiece, hpart⟩ := exists_mem_of_forall₂ hparts hpart
    -- a character is its own piece, or comes from a reference
    have hproper := hpieces piece hpiece
    split at hpart
    · cases hpart
      obtain rfl := List.mem_singleton.mp hc
      split
      · rfl
      · exact hproper
    · cases hpart
      obtain rfl := List.mem_singleton.mp hc
      exact hproper
    · cases hpart
    · split at hpart
      · rename_i hpredefined
        cases hpart
        obtain rfl := List.mem_singleton.mp hc
        exact isChar_of_predefined? hpredefined
      · split at hpart
        · split at hpart
          · cases hpart
            exact absurd hc List.not_mem_nil
          · cases hpart
        · split at hpart
          · cases hpart
          · split at hpart
            · cases hpart
            · cases hpart
            · dsimp only at hpart
              split at hpart
              · cases hpart
              · cases hpart
              · rename_i hinner _
                cases hpart
                exact ih _ _ (piecesOf_proper 0 _) hinner c hc

/-- Collapsing blanks only drops characters. -/
lemma collapseBlanksAfter_sublist (last : Option Char) (s : List Char) :
    (collapseBlanksAfter last s).Sublist s := by
  fun_induction collapseBlanksAfter last s with
  | case1 => exact List.Sublist.refl _
  | case2 last rest _ ih => exact ih.cons _
  | case3 last rest _ ih => exact ih.cons_cons _
  | case4 last c rest _ ih => exact ih.cons_cons _

/-- An attribute value that proper pieces stand for. -/
lemma Doctype.attributeValue_isChar (doc : Doctype) (opened : List String) (tokenized : Bool)
    (pieces : List Piece) (hpieces : ∀ piece ∈ pieces, piece.Proper) {value : String}
    (h : doc.attributeValue opened tokenized pieces = .ok value) :
    ∀ c ∈ value.toList, isChar c = true := by
  obtain ⟨chars, hchars, h⟩ := bind_eq_ok.mp h
  obtain rfl := pure_eq_ok.mp h
  have hexpanded := doc.expand_isChar doc.depth opened pieces hpieces hchars
  rw [String.toList_ofList]
  split
  · intro c hc
    exact hexpanded c ((collapseBlanksAfter_sublist none chars).subset hc)
  · exact hexpanded

/-! ## Attributes that a tag gives -/

/-- Attributes that a tag can be written with. -/
structure Attributes.WellFormed (attrs : Attributes) : Prop where
  names : ∀ a ∈ attrs, isName a.1.toList = true
  values : ∀ a ∈ attrs, ∀ c ∈ a.2.toList, isChar c = true
  nodup : (attrs.map Prod.fst).Nodup

lemma Attributes.wellFormed_nil : Attributes.WellFormed [] :=
  ⟨by simp, by simp, List.nodup_nil⟩

lemma Attributes.WellFormed.cons {attrs : Attributes} (h : attrs.WellFormed) {name value : String}
    (hname : isName name.toList = true) (hvalue : ∀ c ∈ value.toList, isChar c = true)
    (hnew : name ∉ attrs.map Prod.fst) : Attributes.WellFormed ((name, value) :: attrs) where
  names := List.forall_mem_cons.mpr ⟨hname, h.names⟩
  values := List.forall_mem_cons.mpr ⟨hvalue, h.values⟩
  nodup := List.nodup_cons.mpr ⟨hnew, h.nodup⟩

lemma Attributes.WellFormed.of_cons {attrs : Attributes} {a : String × String}
    (h : Attributes.WellFormed (a :: attrs)) :
    isName a.1.toList = true ∧ (∀ c ∈ a.2.toList, isChar c = true) ∧ attrs.WellFormed where
  left := h.names a List.mem_cons_self
  right.left := h.values a List.mem_cons_self
  right.right :=
    { names := fun b hb => h.names b (List.mem_cons_of_mem _ hb)
      values := fun b hb => h.values b (List.mem_cons_of_mem _ hb)
      nodup := (List.nodup_cons.mp h.nodup).2 }

/-- Attributes may follow others if no name is in both. -/
lemma Attributes.WellFormed.append {attrs more : Attributes} (h : attrs.WellFormed)
    (hmore : more.WellFormed)
    (hdisjoint : ∀ a ∈ attrs, ∀ b ∈ more, a.1 ≠ b.1) : (attrs ++ more).WellFormed where
  names := List.forall_mem_append.mpr ⟨h.names, hmore.names⟩
  values := List.forall_mem_append.mpr ⟨h.values, hmore.values⟩
  nodup := by
    rw [List.map_append, List.nodup_append]
    refine ⟨h.nodup, hmore.nodup, ?_⟩
    intro name hname other hother
    obtain ⟨a, ha, rfl⟩ := List.mem_map.mp hname
    obtain ⟨b, hb, rfl⟩ := List.mem_map.mp hother
    exact hdisjoint a ha b hb

/-- The attributes that a tag gives can be written, and none has a name that was seen before. -/
lemma Doctype.givenAttributes_wellFormed (doc : Doctype) (opened : List String) (tag : String)
    (seen : List String) (raw : List RawAttribute) (hraw : ∀ a ∈ raw, a.Proper)
    {attrs : Attributes} (h : doc.givenAttributes opened tag seen raw = .ok attrs) :
    attrs.WellFormed ∧ ∀ a ∈ attrs, a.1 ∉ seen := by
  induction raw generalizing seen attrs with
  | nil =>
    cases h
    exact ⟨Attributes.wellFormed_nil, by simp⟩
  | cons a rest ih =>
    rw [Doctype.givenAttributes] at h
    split at h
    · cases h
    · rename_i hseen
      obtain ⟨value, hvalue, h⟩ := bind_eq_ok.mp h
      obtain ⟨others, hothers, h⟩ := bind_eq_ok.mp h
      obtain rfl := pure_eq_ok.mp h
      obtain ⟨ha, hrest⟩ := List.forall_mem_cons.mp hraw
      obtain ⟨hwf, hfresh⟩ := ih (a.name :: seen) hrest hothers
      have hnew : a.name ∉ others.map Prod.fst := by
        intro hmem
        obtain ⟨b, hb, heq⟩ := List.mem_map.mp hmem
        exact hfresh b hb (heq ▸ List.mem_cons_self)
      refine ⟨hwf.cons ha.1 (doc.attributeValue_isChar opened _ _ ha.2 hvalue) hnew, ?_⟩
      refine List.forall_mem_cons.mpr ⟨?_, ?_⟩
      · exact fun hmem => hseen (List.contains_iff_mem.mpr hmem)
      · exact fun b hb hmem => hfresh b hb (List.mem_cons_of_mem _ hmem)

/-! ## Attributes that are declared -/

/-- The attribute rules of a document type: names are names, defaults hold characters of documents,
and a rule for an attribute that has one already brings no default. -/
structure RulesWellFormed (rules : List (String × AttributeRule)) : Prop where
  names : ∀ r ∈ rules, isName r.2.name.toList = true
  values : ∀ r ∈ rules, ∀ value, r.2.default = some value → ∀ c ∈ value.toList, isChar c = true
  first : rules.Pairwise fun r r' => r.1 = r'.1 → r.2.name = r'.2.name → r'.2.default = none

lemma rulesWellFormed_nil : RulesWellFormed [] :=
  ⟨by simp, by simp, List.Pairwise.nil⟩

namespace Doctype

/-- Declaring an attribute keeps the rules well-formed. -/
lemma declareAttribute_wellFormed {doc : Doctype} (h : RulesWellFormed doc.rules) (tag : String)
    (rule : AttributeRule) (isId : Bool) (hname : isName rule.name.toList = true)
    (hvalue : ∀ value, rule.default = some value → ∀ c ∈ value.toList, isChar c = true) :
    RulesWellFormed (doc.declareAttribute tag rule isId).rules := by
  rw [declareAttribute]
  split
  · exact h
  · rename_i hnew
    refine ⟨?_, ?_, ?_⟩
    · exact List.forall_mem_append.mpr ⟨h.names, by simpa using hname⟩
    · exact List.forall_mem_append.mpr ⟨h.values, by simpa using hvalue⟩
    · refine List.pairwise_append.mpr ⟨h.first, List.pairwise_singleton _ _, ?_⟩
      intro r hr r' hr' htag hsame
      obtain rfl := List.mem_singleton.mp hr'
      -- a default is recorded only where no rule for the attribute stands yet
      cases hdefault : rule.default with
      | none => rfl
      | some value =>
        refine absurd ?_ hnew
        have hany : (doc.rulesFor tag).any (·.name == rule.name) = true := by
          refine List.any_eq_true.mpr ⟨r.2, ?_, beq_iff_eq.mpr hsame⟩
          exact List.mem_map_of_mem (List.mem_filter.mpr ⟨hr, beq_iff_eq.mpr htag⟩)
        rw [hdefault, hany]
        rfl

/-- A rule with a proper name and a proper default may be recorded. -/
lemma record_wellFormed {doc : Doctype} (h : RulesWellFormed doc.rules) {attr : Declaring}
    (hname : isName attr.name.toList = true) {default : Option String}
    (hvalue : ∀ value, default = some value → ∀ c ∈ value.toList, isChar c = true) :
    RulesWellFormed (record doc attr default).rules := by
  rw [record]
  split
  · exact h
  · exact declareAttribute_wellFormed h attr.tag _ attr.isId hname hvalue

/-- The literal of a default value stands for characters of documents. -/
lemma defaultValue_isChar {doc : Doctype} {attr : Declaring} {here after : Nat} {body : List Char}
    {value : String} (h : defaultValue doc attr here after body = .ok value) :
    ∀ c ∈ value.toList, isChar c = true := by
  rw [defaultValue] at h
  dsimp only at h
  split at h
  · cases h
  · cases h
  · rename_i hvalue _
    cases h
    exact doc.attributeValue_isChar [] attr.tokenized _ (piecesOf_proper _ _) hvalue

/-- Recording a default adds a name to the rules, and characters of documents as its value. -/
lemma recordDefault_wellFormed {doc doc' : Doctype} (hdoc : RulesWellFormed doc.rules)
    {attr : Declaring} (hname : isName attr.name.toList = true) {here after : Nat}
    {body : List Char} (h : recordDefault doc attr here after body = .ok doc') :
    RulesWellFormed doc'.rules := by
  rw [recordDefault] at h
  split at h
  · obtain rfl := pure_eq_ok.mp h
    exact hdoc
  · obtain ⟨value, hvalue, h⟩ := bind_eq_ok.mp h
    obtain rfl := pure_eq_ok.mp h
    refine record_wellFormed hdoc hname ?_
    intro _ heq
    obtain rfl := Option.some.inj heq
    exact defaultValue_isChar hvalue

@[grind =]
lemma declareBody_rules (doc : Doctype) (entity : Option String) (body : EntityBody) :
    (declareBody doc entity body).rules = doc.rules := by
  cases entity with
  | none => rfl
  | some name =>
    rw [declareBody, declareEntity]
    split <;> rfl

/-- In a state of the prolog that carries the name of an attribute, it is a name. -/
@[grind]
def Expect.Proper : Expect → Prop
  | attributeType _ name => isName name.toList = true
  | choiceValue attr => isName attr.name.toList = true
  | choiceNext attr => isName attr.name.toList = true
  | notationOpen attr => isName attr.name.toList = true
  | notationValue attr => isName attr.name.toList = true
  | notationNext attr => isName attr.name.toList = true
  | attributeDefault attr => isName attr.name.toList = true
  | fixedDefault attr => isName attr.name.toList = true
  | _ => True

@[grind .]
lemma afterGroup_proper (joints : List (Option Joint)) : (afterGroup joints).Proper := by
  cases joints <;> trivial

attribute [grind] Token.Plain

/-- One step of the prolog keeps names and rules well-formed. -/
lemma step_proper {doc doc' : Doctype} {state state' : Expect} {token : Token} {here after : Nat}
    (hstate : state.Proper) (htoken : token.Plain) (hdoc : RulesWellFormed doc.rules)
    (h : step doc state token here after = .ok (state', doc')) :
    state'.Proper ∧ RulesWellFormed doc'.rules := by
  unfold step at h
  dsimp only at h
  split at h
  all_goals grind [record_wellFormed, recordDefault_wellFormed]

/-- The rules that a whole prolog declares are well-formed. -/
lemma readProlog_wellFormed {doc doc' : Doctype} {state : Expect} {s body : List Char}
    (hstate : state.Proper) (hdoc : RulesWellFormed doc.rules)
    (h : readProlog doc state s = .ok (doc', body)) : RulesWellFormed doc'.rules := by
  fun_induction readProlog doc state s with
  | case1 => cases h
  | case2 => cases h
  | case3 => cases h
  | case4 doc state c rest after hnext hroot =>
    cases h
    exact hdoc
  | case5 => cases h
  | case6 => cases h
  | case7 doc state c rest token after hroot hnext nextState nextDoc hstep ih =>
    rcases Token.next_finds c rest token after hnext with htoken | ⟨rfl, -⟩
    · obtain ⟨hstate', hdoc'⟩ := step_proper hstate htoken hdoc hstep
      exact ih hstate' hdoc' h
    · exact absurd rfl hroot

/-! ## Attributes that an element gets -/

lemma mem_rules_of_mem_rulesFor {doc : Doctype} {tag : String} {rule : AttributeRule}
    (h : rule ∈ doc.rulesFor tag) : (tag, rule) ∈ doc.rules := by
  obtain ⟨⟨tag', rule'⟩, hmem, rfl⟩ := List.mem_map.mp h
  obtain ⟨hrule, htag⟩ := List.mem_filter.mp hmem
  obtain rfl := beq_iff_eq.mp htag
  exact hrule

/-- Of the rules for an element only the first for an attribute brings a default. -/
lemma rulesFor_pairwise {doc : Doctype} (h : RulesWellFormed doc.rules) (tag : String) :
    (doc.rulesFor tag).Pairwise fun rule rule' =>
      rule.name = rule'.name → rule'.default = none := by
  rw [rulesFor, List.pairwise_map]
  refine (h.first.filter _).imp_of_mem ?_
  intro r r' hr hr' hfirst
  have htag := beq_iff_eq.mp (List.mem_filter.mp hr).2
  have htag' := beq_iff_eq.mp (List.mem_filter.mp hr').2
  exact hfirst (htag.trans htag'.symm)

/-- The declared defaults of the attributes that a tag does not give. -/
lemma defaults_wellFormed {doc : Doctype} (h : RulesWellFormed doc.rules) (tag : String)
    (given : Attributes) :
    Attributes.WellFormed ((doc.rulesFor tag).filterMap fun rule =>
      if given.any (·.1 == rule.name) then none else rule.default.map (rule.name, ·)) := by
  have hrule : ∀ {rule : AttributeRule} {a : String × String},
      (if given.any (·.1 == rule.name) then none else rule.default.map (rule.name, ·)) = some a →
        a.1 = rule.name ∧ rule.default = some a.2 := by
    intro rule a ha
    split at ha
    · cases ha
    · obtain ⟨value, hvalue, rfl⟩ := Option.map_eq_some_iff.mp ha
      exact ⟨rfl, hvalue⟩
  refine ⟨?_, ?_, ?_⟩
  · intro a ha
    obtain ⟨rule, hmem, ha⟩ := List.mem_filterMap.mp ha
    rw [(hrule ha).1]
    exact h.names _ (mem_rules_of_mem_rulesFor hmem)
  · intro a ha
    obtain ⟨rule, hmem, ha⟩ := List.mem_filterMap.mp ha
    exact h.values _ (mem_rules_of_mem_rulesFor hmem) _ (hrule ha).2
  · rw [List.Nodup, List.pairwise_map, List.pairwise_filterMap]
    refine (rulesFor_pairwise h tag).imp ?_
    intro rule rule' hfirst a ha b hb heq
    rw [(hrule ha).1, (hrule hb).1] at heq
    have hdefault := (hrule hb).2
    rw [hfirst heq] at hdefault
    cases hdefault

/-- An element gets attributes that a tag can be written with. -/
theorem attributes_wellFormed {doc : Doctype} (hdoc : RulesWellFormed doc.rules)
    (opened : List String) (tag : String) (raw : List RawAttribute) (hraw : ∀ a ∈ raw, a.Proper)
    {attrs : Attributes} (h : doc.attributes opened tag raw = .ok attrs) : attrs.WellFormed := by
  obtain ⟨given, hgiven, h⟩ := bind_eq_ok.mp h
  obtain rfl := pure_eq_ok.mp h
  have hwf := (doc.givenAttributes_wellFormed opened tag [] raw hraw hgiven).1
  refine hwf.append (defaults_wellFormed hdoc tag given) ?_
  intro a ha b hb heq
  obtain ⟨rule, -, hb⟩ := List.mem_filterMap.mp hb
  split at hb
  · cases hb
  · rename_i hother
    obtain ⟨value, -, rfl⟩ := Option.map_eq_some_iff.mp hb
    exact hother (List.any_eq_true.mpr ⟨a, ha, beq_iff_eq.mpr heq⟩)

end Doctype

end DocComment.Markup
