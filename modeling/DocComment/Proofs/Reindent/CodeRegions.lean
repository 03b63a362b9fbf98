import DocComment.Proofs.Reindent.Blanks
import Mathlib.Data.List.Infix

/-!
# Code regions

A code region goes from `<code` and the first `>` behind it to the first `</code>` behind that. What
the search for regions finds is said here without the search:

* `codeRegion?_eq_some_iff`: where a region stands at the start of a text;
* `codeRegion?_eq_none_iff`: where none does;
* `trimCode_region`, `trimCode_cons`: what becomes of a text in both cases;
* `trimCode_of_not_closes`: a text in which no region can end stays as it is.
-/

namespace DocComment.Reindent

open DocComment.Text

/-! ## Occurrences of a pattern -/

section

variable {pattern : List Char}

/-- A pattern in front of a text ends before the first character that it does not hold. -/
lemma prefix_of_prefix_append_cons {c : Char} (hc : c ∉ pattern) {a b : List Char}
    (h : pattern <+: a ++ c :: b) : pattern <+: a := by
  induction a generalizing pattern with
  | nil =>
    cases pattern with
    | nil => exact List.nil_prefix
    | cons d pattern =>
      obtain ⟨rfl, -⟩ := List.cons_prefix_cons.mp h
      exact absurd List.mem_cons_self hc
  | cons d a ih =>
    cases pattern with
    | nil => exact List.nil_prefix
    | cons e pattern =>
      obtain ⟨rfl, htail⟩ := List.cons_prefix_cons.mp h
      have hrest := ih (fun hmem => hc (List.mem_cons_of_mem _ hmem)) htail
      exact List.cons_prefix_cons.mpr ⟨rfl, hrest⟩

/-- A pattern occurs on one side of a character that it does not hold. -/
lemma infix_append_cons_iff {c : Char} (hc : c ∉ pattern) (hne : pattern ≠ []) {a b : List Char} :
    pattern <:+: a ++ c :: b ↔ pattern <:+: a ∨ pattern <:+: b := by
  constructor
  · intro h
    induction a with
    | nil =>
      rcases List.infix_cons_iff.mp h with hbegins | hwithin
      · have hnil := prefix_of_prefix_append_cons (a := []) hc hbegins
        exact absurd (List.prefix_nil.mp hnil) hne
      · exact Or.inr hwithin
    | cons d a ih =>
      rcases List.infix_cons_iff.mp h with hbegins | hwithin
      · exact Or.inl (prefix_of_prefix_append_cons (a := d :: a) hc hbegins).isInfix
      · exact (ih hwithin).imp_left List.infix_cons
  · rintro (h | h)
    · exact h.trans (List.prefix_append _ _).isInfix
    · exact h.trans (List.suffix_append_of_suffix (List.suffix_cons c b)).isInfix

/-- What stands before the first occurrence holds none. -/
lemma not_infix_of_cutAt? (hne : pattern ≠ []) {s before after : List Char}
    (h : cutAt? pattern s = some (before, after)) : ¬ pattern <:+: before := by
  induction s generalizing before with
  | nil =>
    rw [cutAt?, if_neg (by simpa using hne)] at h
    cases h
  | cons c rest ih =>
    have hcut := cutAt?_eq_some h
    rw [cutAt?] at h
    split at h
    · cases h
      simpa using hne
    · rename_i hfront
      obtain ⟨⟨b, a⟩, hrest, heq⟩ := Option.map_eq_some_iff.mp h
      cases heq
      intro hwithin
      rcases List.infix_cons_iff.mp hwithin with hbegins | hwithin
      · rw [hcut] at hfront
        exact hfront (List.isPrefixOf_iff_prefix.mpr (hbegins.trans (List.prefix_append _ _)))
      · exact ih hrest hwithin

/-- A pattern that occurs is found. -/
lemma exists_cutAt?_of_isInfix {s : List Char} (h : pattern <:+: s) :
    ∃ before after, cutAt? pattern s = some (before, after) := by
  induction s with
  | nil =>
    obtain rfl := List.infix_nil.mp h
    exact ⟨[], [], rfl⟩
  | cons c rest ih =>
    rw [cutAt?]
    split
    · exact ⟨_, _, rfl⟩
    · rename_i hfront
      have hrest := (List.infix_cons_iff.mp h).resolve_left
        fun hbegins => hfront (List.isPrefixOf_iff_prefix.mpr hbegins)
      obtain ⟨before, after, hcut⟩ := ih hrest
      exact ⟨c :: before, after, by rw [hcut]; rfl⟩

/-- A pattern whose first character does not come again in it is found where it first occurs. -/
lemma cutAt?_append {c : Char} (hc : c ∉ pattern) {before : List Char}
    (hbefore : ¬ c :: pattern <:+: before) (after : List Char) :
    cutAt? (c :: pattern) (before ++ (c :: pattern ++ after)) = some (before, after) := by
  induction before with
  | nil =>
    rw [List.nil_append, List.cons_append, cutAt?, if_pos (by simp)]
    simp
  | cons d before ih =>
    obtain ⟨hbegins, hwithin⟩ := not_or.mp (mt List.infix_cons_iff.mpr hbefore)
    rw [List.cons_append, cutAt?, if_neg, ih hwithin]
    · rfl
    · -- an occurrence that begins earlier would end before the next one begins
      intro hfront
      obtain ⟨rfl, hrest⟩ := List.cons_prefix_cons.mp (List.isPrefixOf_iff_prefix.mp hfront)
      exact hbegins (List.cons_prefix_cons.mpr ⟨rfl, prefix_of_prefix_append_cons hc hrest⟩)

end

/-! ## Regions -/

lemma notMem_of_cutAt? {c : Char} {s before after : List Char}
    (h : cutAt? [c] s = some (before, after)) : c ∉ before := by
  intro hmem
  exact not_infix_of_cutAt? (by simp) h ((List.singleton_infix_iff c before).mpr hmem)

/-- A region is read back as its attributes, its body and what follows. -/
lemma codeRegion?_region {attrs body : List Char} (hattrs : '>' ∉ attrs)
    (hbody : ¬ codeClose <:+: body) (after : List Char) :
    codeRegion? (codeOpen ++ (attrs ++ '>' :: (body ++ (codeClose ++ after))))
      = some (attrs, body, after) := by
  have htag : cutAt? ['>'] (attrs ++ '>' :: (body ++ (codeClose ++ after)))
      = some (attrs, body ++ (codeClose ++ after)) :=
    cutAt?_append (by simp) (mt (List.singleton_infix_iff _ _).mp hattrs) _
  have hclose : cutAt? codeClose (body ++ (codeClose ++ after)) = some (body, after) :=
    cutAt?_append (c := '<') (by decide) hbody after
  rw [codeRegion?, if_pos (List.isPrefixOf_iff_prefix.mpr (List.prefix_append _ _)),
    List.drop_left, htag]
  dsimp only
  rw [hclose]

/-- A code region at the start of a text: an opening tag up to its first `>`, a body up to the first
closing tag, and the rest. -/
theorem codeRegion?_eq_some_iff {s attrs body after : List Char} :
    codeRegion? s = some (attrs, body, after) ↔
      s = codeOpen ++ (attrs ++ '>' :: (body ++ (codeClose ++ after))) ∧ '>' ∉ attrs ∧
        ¬ codeClose <:+: body := by
  constructor
  · intro h
    refine ⟨codeRegion?_eq_some h, ?_⟩
    rw [codeRegion?] at h
    split at h
    · split at h
      · rename_i hattrs
        split at h
        · rename_i hbody
          cases h
          exact ⟨notMem_of_cutAt? hattrs, not_infix_of_cutAt? (by decide) hbody⟩
        · cases h
      · cases h
    · cases h
  · rintro ⟨rfl, hattrs, hbody⟩
    exact codeRegion?_region hattrs hbody after

/-- Whether behind a `>` there is a closing tag. -/
def Closes (s : List Char) : Prop :=
  ∃ tag rest, s = tag ++ '>' :: rest ∧ codeClose <:+: rest

lemma Closes.append {s : List Char} (h : Closes s) (t : List Char) : Closes (t ++ s) := by
  obtain ⟨tag, rest, rfl, hrest⟩ := h
  exact ⟨t ++ tag, rest, (List.append_assoc _ _ _).symm, hrest⟩

lemma Closes.isInfix {s : List Char} (h : Closes s) : codeClose <:+: s := by
  obtain ⟨tag, rest, rfl, hrest⟩ := h
  exact hrest.trans (List.suffix_append_of_suffix (List.suffix_cons '>' rest)).isInfix

/-- What is behind any `>` is behind the first one. -/
lemma suffix_of_append_cons_eq {c : Char} {u v s t : List Char} (hc : c ∉ u)
    (h : v ++ c :: t = u ++ c :: s) : t <:+ s := by
  induction u generalizing v with
  | nil =>
    cases v with
    | nil =>
      obtain ⟨-, rfl⟩ := List.cons.inj h
      exact List.suffix_rfl
    | cons d v =>
      obtain ⟨-, rfl⟩ := List.cons.inj h
      exact List.suffix_append_of_suffix (List.suffix_cons c t)
  | cons d u ih =>
    obtain ⟨hd, hu⟩ := not_or.mp (mt List.mem_cons.mpr hc)
    cases v with
    | nil => exact absurd (List.cons.inj h).1 hd
    | cons e v => exact ih hu (List.cons.inj h).2

/-- No region stands at the start of a text unless it begins with `<code` and a region can end in
what follows. -/
theorem codeRegion?_eq_none_iff {s : List Char} :
    codeRegion? s = none ↔ ∀ t, s = codeOpen ++ t → ¬ Closes t := by
  constructor
  · rintro hnone t rfl ⟨tag, rest, rfl, hrest⟩
    -- the first `>` and the first closing tag behind it bound a region
    have hend : ['>'] <:+: tag ++ '>' :: rest := ⟨tag, rest, by simp⟩
    obtain ⟨attrs, inner, htag⟩ := exists_cutAt?_of_isInfix hend
    have hsplit := cutAt?_eq_some htag
    have hinner := suffix_of_append_cons_eq (notMem_of_cutAt? htag) hsplit
    obtain ⟨body, after, hclose⟩ := exists_cutAt?_of_isInfix (hrest.trans hinner.isInfix)
    have hregion := codeRegion?_region (notMem_of_cutAt? htag)
      (not_infix_of_cutAt? (by decide) hclose) after
    rw [← cutAt?_eq_some hclose] at hregion
    rw [hsplit] at hnone
    exact absurd (hnone.symm.trans hregion) (by simp)
  · intro h
    cases hregion : codeRegion? s with
    | none => rfl
    | some region =>
      obtain ⟨hs, -, -⟩ := codeRegion?_eq_some_iff.mp hregion
      exact absurd ⟨_, _, rfl, List.infix_append' _ _ _⟩ (h _ hs)

/-! ## Trimmed texts -/

@[simp] lemma trimCode_nil : trimCode [] = [] := by
  rw [trimCode]
  rfl

/-- The first region is trimmed, and what is behind it is trimmed on its own. -/
lemma trimCode_region {attrs body : List Char} (hattrs : '>' ∉ attrs)
    (hbody : ¬ codeClose <:+: body) (after : List Char) :
    trimCode (codeOpen ++ (attrs ++ '>' :: (body ++ (codeClose ++ after))))
      = codeOpen ++ (attrs ++ '>' ::
          (trimWhile (· = '\n') body ++ (codeClose ++ trimCode after))) := by
  have hregion := codeRegion?_region hattrs hbody after
  rw [trimCode]
  split
  · rename_i heq
    rw [hregion] at heq
    cases heq
    simp only [List.append_assoc, List.singleton_append]
    rfl
  · rename_i heq
    rw [hregion] at heq
    cases heq

/-- A character that no region begins with stays. -/
lemma trimCode_cons {c : Char} {s : List Char} (h : codeRegion? (c :: s) = none) :
    trimCode (c :: s) = c :: trimCode s := by
  rw [trimCode]
  split
  · rename_i heq
    rw [h] at heq
    cases heq
  · rfl

/-- Only `<code` begins a region. -/
lemma trimCode_cons_of_not_codeOpen {c : Char} {s : List Char} (h : ¬ codeOpen <+: c :: s) :
    trimCode (c :: s) = c :: trimCode s := by
  refine trimCode_cons (codeRegion?_eq_none_iff.mpr fun t ht => ?_)
  exact absurd (ht ▸ List.prefix_append _ _) h

/-- No region begins in a text without `<`. -/
lemma trimCode_append_of_notMem {s : List Char} (hs : '<' ∉ s) (t : List Char) :
    trimCode (s ++ t) = s ++ trimCode t := by
  induction s with
  | nil => rfl
  | cons c s ih =>
    obtain ⟨hc, hs⟩ := not_or.mp (mt List.mem_cons.mpr hs)
    rw [List.cons_append, trimCode_cons_of_not_codeOpen, ih hs, List.cons_append]
    rintro ⟨r, hr⟩
    exact hc (List.cons.inj hr).1

/-- A text without tags has no code regions. -/
lemma trimCode_of_notMem {s : List Char} (hs : '<' ∉ s) : trimCode s = s := by
  have htrim := trimCode_append_of_notMem hs []
  rwa [trimCode_nil, List.append_nil] at htrim

/-- A text in which no region can end stays as it is. -/
lemma trimCode_of_not_closes {s : List Char} (h : ¬ Closes s) : trimCode s = s := by
  induction s with
  | nil => exact trimCode_nil
  | cons c s ih =>
    rw [trimCode_cons, ih fun hs => h (hs.append [c])]
    refine codeRegion?_eq_none_iff.mpr fun t ht hcloses => h ?_
    rw [ht]
    exact hcloses.append codeOpen

end DocComment.Reindent
