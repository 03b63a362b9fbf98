import DocComment.Extraction
import DocComment.Proofs.Extraction.Refusals
import DocComment.Proofs.Tally

/-!
# What is counted

Counting the references of members takes no more than their texts: what a member reports does not
depend on the settings, on its name or on where it stands, and whether its comment can be built
depends on how keywords are treated alone.

* `reports_eq_reportsOf`: a text reports the same in all contexts that resolve references;
* `exists_result_eq_ok_congr`: whether a comment is built is the same in contexts that treat keywords
  alike;
* `tallyReferences_eq_ok_iff`: the tally of members counts what their texts report, if all their
  comments can be built.
-/

namespace DocComment

open Markup

/-! ## Reports -/

/-- The identifiers that resolution reports of a tree: the `see` elements, then the `seealso` elements
that the pass over `see` leaves. -/
def reportedIn (root : Element) : List String :=
  root.elements.filterMap (crefIdentifier? "see") ++
    (root.rewrite (crefPlaceholder? "see" .csharp)).elements.filterMap (crefIdentifier? "seealso")

/-- The identifiers that a text reports. -/
def reportsOf (text : String) : List String :=
  (buildComment (some text) {} .recorder).reports

section

variable {text : String} {tree : Tree} {context context' : Context}

/-- Every dialect has the same placeholders for references. -/
lemma crefPlaceholder?_eq_csharp (selector : String) (dialect : Dialect) :
    crefPlaceholder? selector dialect = crefPlaceholder? selector .csharp := rfl

lemma recorder_neverRefuses : Listener.recorder.NeverRefuses :=
  fun _ => rfl

/-- What is reported of a text that is read is what its tree gives. -/
lemma ReadsAs.reports_recorder (h : ReadsAs text tree)
    (hresolve : context.preserveRawReferences = false) :
    (buildComment (some text) context .recorder).reports = reportedIn tree.root := by
  rw [buildComment_of_parse h.visible h.unmarked h.parsed]
  dsimp only
  rw [resolved, hresolve, if_neg Bool.false_ne_true,
    resolveReferences_reports recorder_neverRefuses, crefPlaceholder?_eq_csharp]
  rfl

/-- A text reports the same in all contexts that resolve references. -/
lemma reports_eq_reportsOf (hresolve : context.preserveRawReferences = false) :
    (buildComment (some text) context .recorder).reports = reportsOf text := by
  obtain hrefused | ⟨other, tree, hother, h⟩ := refused_or_readsAs (some text)
  · rw [reportsOf, (reports_of_result_eq_none context .recorder (hrefused _ _)).1,
      (reports_of_result_eq_none {} .recorder (hrefused _ _)).1]
  · obtain rfl := Option.some.inj hother
    rw [reportsOf, h.reports_recorder hresolve, h.reports_recorder rfl]

/-! ## Trees -/

lemma contextDialect_congr (h : context.language = context'.language) :
    (contextDialect context).1 = (contextDialect context').1 := by
  rw [contextDialect, contextDialect, h]
  split
  · rfl
  · rfl

/-- Replacing keywords goes by the tree alone. -/
lemma rewriteCandidates_root_congr (dialect : Dialect) (candidates : List (Path × String))
    {p p' : Progress} (h : p.root = p'.root) :
    (rewriteCandidates dialect candidates p).root
      = (rewriteCandidates dialect candidates p').root := by
  induction candidates generalizing p p' with
  | nil => exact h
  | cons candidate rest ih =>
    obtain ⟨path, word⟩ := candidate
    rw [rewriteCandidates, rewriteCandidates]
    split
    · exact ih h
    · split
      · refine ih ?_
        rw [Progress.replace, Progress.replace]
        split
        · exact h
        · rw [h]
      · exact h

/-- The tree that resolution leaves to a listener that never refuses, apart from keywords. -/
def linked (root : Element) : Element :=
  (root.rewrite (crefPlaceholder? "see" .csharp)).rewrite (crefPlaceholder? "seealso" .csharp)

/-- The tree does not depend on the listener or the dialect but for the keywords. -/
lemma resolved_recorder_root (hresolve : context.preserveRawReferences = false) (root : Element) :
    (resolved context .recorder root).root
      = if context.rewriteLangwords then
          (rewriteLangwords (contextDialect context).1 { root := linked root }).root
        else linked root := by
  have hlinked (p : Progress) : (resolveCrefs "seealso" .recorder (contextDialect context).1
      (some context) (resolveCrefs "see" .recorder (contextDialect context).1 (some context) p)).root
        = linked p.root := by
    rw [resolveCrefs_root recorder_neverRefuses, resolveCrefs_root recorder_neverRefuses,
      crefPlaceholder?_eq_csharp "see", crefPlaceholder?_eq_csharp "seealso", linked]
  rw [resolved, hresolve, if_neg Bool.false_ne_true, resolveReferences]
  dsimp only
  split
  · rw [rewriteLangwords, rewriteLangwords, hlinked]
    exact rewriteCandidates_root_congr _ _ (hlinked _)
  · exact hlinked _

/-- Contexts that treat keywords alike lead to the same tree. -/
lemma resolved_recorder_congr (hresolve : context.preserveRawReferences = false)
    (hresolve' : context'.preserveRawReferences = false)
    (hwords : context.rewriteLangwords = context'.rewriteLangwords)
    (hlanguage : context.language = context'.language) (root : Element) :
    (resolved context .recorder root).root = (resolved context' .recorder root).root := by
  rw [resolved_recorder_root hresolve, resolved_recorder_root hresolve', hwords,
    contextDialect_congr hlanguage]

/-- Whether a comment is built is the same in contexts that treat keywords alike. -/
lemma exists_result_eq_ok_congr (hresolve : context.preserveRawReferences = false)
    (hresolve' : context'.preserveRawReferences = false)
    (hwords : context.rewriteLangwords = context'.rewriteLangwords)
    (hlanguage : context.language = context'.language) :
    (∃ c, (buildComment (some text) context .recorder).result = .ok c)
      ↔ ∃ c, (buildComment (some text) context' .recorder).result = .ok c := by
  obtain hrefused | ⟨other, tree, hother, h⟩ := refused_or_readsAs (some text)
  · exact iff_of_true ⟨none, hrefused _ _⟩ ⟨none, hrefused _ _⟩
  · obtain rfl := Option.some.inj hother
    rw [h.buildComment_result, h.buildComment_result, Tree.resolved, Tree.resolved,
      resolved_recorder_congr hresolve hresolve' hwords hlanguage]

end

/-! ## Tallies -/

/-- Whether the comment of a text can be built when references are counted. -/
def CanBeCounted (settings : Settings) (text : String) : Prop :=
  let context := { settings with preserveRawReferences := false }.contextFor none none none
  ∃ c, (buildComment (some text) context .recorder).result = .ok c

/-- Settings that treat keywords alike count the same texts. -/
lemma canBeCounted_congr {settings settings' : Settings}
    (hwords : settings.rewriteLangwords = settings'.rewriteLangwords)
    (hlanguage : settings.language = settings'.language) (text : String) :
    CanBeCounted settings text ↔ CanBeCounted settings' text :=
  exists_result_eq_ok_congr rfl rfl hwords hlanguage

/-- Texts with legible comments can always be counted. -/
lemma canBeCounted_of_legible {text : String}
    (h : ∀ tree, ReadsAs text tree → tree.root.commentsLegible = true) (settings : Settings) :
    CanBeCounted settings text := by
  obtain hrefused | ⟨other, tree, hother, hreads⟩ := refused_or_readsAs (some text)
  · exact ⟨none, hrefused _ _⟩
  · obtain rfl := Option.some.inj hother
    exact ⟨_, hreads.buildComment_of_legible (h tree hreads) _ _⟩

/-- Steps that succeed exactly under a condition succeed together exactly if it holds of all. -/
lemma mapM_eq_ok_iff_forall {ε α β : Type} {f : α → Except ε β} {g : α → β} {p : α → Prop}
    (hf : ∀ a b, f a = .ok b ↔ p a ∧ b = g a) {l : List α} {results : List β} :
    l.mapM f = .ok results ↔ (∀ a ∈ l, p a) ∧ results = l.map g := by
  induction l generalizing results with
  | nil =>
    rw [List.mapM_nil, pure_eq_ok]
    simp [eq_comm]
  | cons a l ih =>
    rw [List.mapM_cons, bind_eq_ok, List.forall_mem_cons, List.map_cons]
    constructor
    · rintro ⟨b, hb, h⟩
      obtain ⟨others, hothers, h⟩ := bind_eq_ok.mp h
      obtain ⟨ha, rfl⟩ := (hf a b).mp hb
      obtain ⟨hl, rfl⟩ := ih.mp hothers
      exact ⟨⟨ha, hl⟩, (pure_eq_ok.mp h).symm⟩
    · rintro ⟨⟨ha, hl⟩, rfl⟩
      exact ⟨g a, (hf a _).mpr ⟨ha, rfl⟩, bind_eq_ok.mpr ⟨l.map g, ih.mpr ⟨hl, rfl⟩, rfl⟩⟩

/-- What comes of building a member when references are counted. -/
lemma build_counting (settings : Settings) (path : String) (m : Member) :
    let outcome := m.build { settings with preserveRawReferences := false } path .recorder
    ((∃ c, outcome.result = .ok c) ↔ CanBeCounted settings m.xml) ∧
      outcome.reports = reportsOf m.xml := by
  intro outcome
  exact ⟨exists_result_eq_ok_congr rfl rfl rfl rfl, reports_eq_reportsOf rfl⟩

/-- The tally of members counts what their texts report, if all their comments can be built. -/
theorem tallyReferences_eq_ok_iff {settings : Settings} {path : String} {ms : List Member}
    {tally : Tally} :
    (tallyReferences settings path ms).result = .ok tally ↔
      (∀ text ∈ ms.map Member.xml, CanBeCounted settings text) ∧
        tally = ({} : Tally).addAll ((ms.map Member.xml).flatMap reportsOf) := by
  have hmember (m : Member) (reports : List String) :
      ((m.build { settings with preserveRawReferences := false } path .recorder).result.map fun _ =>
          (m.build { settings with preserveRawReferences := false } path .recorder).reports)
        = .ok reports ↔ CanBeCounted settings m.xml ∧ reports = reportsOf m.xml := by
    obtain ⟨hbuilt, hreports⟩ := build_counting settings path m
    rw [map_eq_ok, hreports, ← hbuilt, exists_and_right, eq_comm]
  have hflatten : (ms.map fun m => reportsOf m.xml).flatten
      = (ms.map Member.xml).flatMap reportsOf := by
    rw [List.flatMap_def, List.map_map]
    rfl
  rw [tallyReferences, Reading.result_bind, Reading.result_mapM, bind_eq_ok, List.forall_mem_map]
  constructor
  · rintro ⟨reports, hreports, htally⟩
    obtain ⟨hall, rfl⟩ := (mapM_eq_ok_iff_forall hmember).mp hreports
    rw [hflatten] at htally
    exact ⟨hall, (Except.ok.inj htally).symm⟩
  · rintro ⟨hall, rfl⟩
    refine ⟨_, (mapM_eq_ok_iff_forall hmember).mpr ⟨hall, rfl⟩, ?_⟩
    rw [hflatten]
    rfl

end DocComment
