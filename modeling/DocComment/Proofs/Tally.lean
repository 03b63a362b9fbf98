import DocComment.Tally
import Mathlib.Algebra.GroupWithZero.Nat
import Mathlib.Data.List.Perm.Basic

/-!
# Tallies count

The items of a tally increase, so each identifier has one item. Counting is a matter of which
identifiers there are and not of their order.

* `addAll_perm`: the order of the identifiers does not matter;
* `Increasing.insert`: counting keeps the items increasing;
* `count_addAll`: an identifier is counted as often as it occurs.
-/

namespace DocComment.Tally

variable {a u other : String} {n : Nat} {rest items : List (String × Nat)}

/-! ## One more occurrence -/

lemma insert_self (other : String) (n : Nat) (rest : List (String × Nat)) :
    insert other ((other, n) :: rest) = (other, n + 1) :: rest :=
  if_pos rfl

lemma insert_of_lt (h : a < other) (n : Nat) (rest : List (String × Nat)) :
    insert a ((other, n) :: rest) = (a, 1) :: (other, n) :: rest := by
  have hne : a ≠ other := fun heq => String.lt_irrefl _ (heq ▸ h)
  rw [insert, if_neg hne, if_pos h]

lemma insert_of_gt (h : other < a) (n : Nat) (rest : List (String × Nat)) :
    insert a ((other, n) :: rest) = (other, n) :: insert a rest := by
  have hne : a ≠ other := fun heq => String.lt_irrefl _ (heq ▸ h)
  rw [insert, if_neg hne, if_neg (String.lt_asymm h)]

/-- An identifier comes before another, is the same or comes after it. -/
lemma before_or_same_or_after (a other : String) : a < other ∨ a = other ∨ other < a := by
  by_cases hlt : a < other
  · exact Or.inl hlt
  · by_cases hgt : other < a
    · exact Or.inr (Or.inr hgt)
    · exact Or.inr (Or.inl (String.le_antisymm (String.not_lt.mp hgt) (String.not_lt.mp hlt)))

/-! ## Order does not matter -/

/-- Two occurrences can be counted in either order. -/
lemma insert_comm (a b : String) (items : List (String × Nat)) :
    insert a (insert b items) = insert b (insert a items) := by
  induction items with
  | nil =>
    obtain h | rfl | h := before_or_same_or_after a b
    · rw [insert, insert, insert_of_lt h, insert_of_gt h, insert]
    · rfl
    · rw [insert, insert, insert_of_gt h, insert_of_lt h, insert]
  | cons item rest ih =>
    obtain ⟨other, n⟩ := item
    obtain ha | rfl | ha := before_or_same_or_after a other
    · obtain hb | rfl | hb := before_or_same_or_after b other
      · -- both come before the first item, in the order that they have
        obtain h | rfl | h := before_or_same_or_after a b
        · rw [insert_of_lt hb, insert_of_lt ha, insert_of_lt h, insert_of_gt h, insert_of_lt hb]
        · rfl
        · rw [insert_of_lt hb, insert_of_lt ha, insert_of_gt h, insert_of_lt h, insert_of_lt ha]
      · rw [insert_self, insert_of_lt ha, insert_of_lt ha, insert_of_gt ha, insert_self]
      · rw [insert_of_gt hb, insert_of_lt ha, insert_of_lt ha, insert_of_gt (String.lt_trans ha hb),
          insert_of_gt hb]
    · obtain hb | rfl | hb := before_or_same_or_after b a
      · rw [insert_of_lt hb, insert_self, insert_of_gt hb, insert_self, insert_of_lt hb]
      · rfl
      · rw [insert_of_gt hb, insert_self, insert_self, insert_of_gt hb]
    · obtain hb | rfl | hb := before_or_same_or_after b other
      · rw [insert_of_lt hb, insert_of_gt ha, insert_of_gt (String.lt_trans hb ha), insert_of_gt ha,
          insert_of_lt hb]
      · rw [insert_self, insert_of_gt ha, insert_of_gt ha, insert_self]
      · rw [insert_of_gt hb, insert_of_gt ha, insert_of_gt ha, insert_of_gt hb, ih]

lemma add_right_comm (t : Tally) (a b : String) : (t.add a).add b = (t.add b).add a := by
  rw [add, add, add, add, insert_comm]

/-- The order in which identifiers are counted does not matter. -/
theorem addAll_perm {l l' : List String} (h : l.Perm l') (t : Tally) : t.addAll l = t.addAll l' :=
  h.foldl_eq' (fun a _ b _ t => add_right_comm t a b) t

/-! ## Counts -/

/-- Whether the identifiers of items increase. -/
def Increasing (items : List (String × Nat)) : Prop :=
  items.Pairwise fun item later => item.1 < later.1

/-- One more occurrence makes a new item or adds one to the count of the item that there is; the
other items stay. -/
lemma insert_cases (a : String) (items : List (String × Nat)) :
    (∃ before after, items = before ++ after ∧ insert a items = before ++ (a, 1) :: after) ∨
      ∃ before n after, items = before ++ (a, n) :: after ∧
        insert a items = before ++ (a, n + 1) :: after := by
  induction items with
  | nil => exact Or.inl ⟨[], [], rfl, rfl⟩
  | cons first rest ih =>
    obtain ⟨other, n⟩ := first
    obtain hlt | rfl | hgt := before_or_same_or_after a other
    · exact Or.inl ⟨[], (other, n) :: rest, rfl, insert_of_lt hlt n rest⟩
    · exact Or.inr ⟨[], n, rest, rfl, insert_self a n rest⟩
    · rw [insert_of_gt hgt]
      obtain ⟨before, after, hrest, hinsert⟩ | ⟨before, m, after, hrest, hinsert⟩ := ih
      · exact Or.inl ⟨(other, n) :: before, after, by rw [hrest]; rfl, by rw [hinsert]; rfl⟩
      · exact Or.inr ⟨(other, n) :: before, m, after, by rw [hrest]; rfl, by rw [hinsert]; rfl⟩

/-- One more occurrence adds no item for another identifier. -/
lemma fst_of_mem_insert {item : String × Nat} (h : item ∈ insert a items) :
    item.1 = a ∨ item.1 ∈ items.map Prod.fst := by
  obtain ⟨before, after, rfl, hinsert⟩ | ⟨before, n, after, rfl, hinsert⟩ := insert_cases a items
  all_goals
    rw [hinsert, List.mem_append, List.mem_cons] at h
    rw [List.map_append, List.mem_append]
  · rcases h with h | rfl | h
    · exact Or.inr (Or.inl (List.mem_map_of_mem h))
    · exact Or.inl rfl
    · exact Or.inr (Or.inr (List.mem_map_of_mem h))
  · rcases h with h | rfl | h
    · exact Or.inr (Or.inl (List.mem_map_of_mem h))
    · exact Or.inl rfl
    · exact Or.inr (Or.inr (List.mem_cons_of_mem a (List.mem_map_of_mem h)))

/-- Counting keeps the counts positive. -/
lemma positive_insert (h : ∀ item ∈ items, 0 < item.2) : ∀ item ∈ insert a items, 0 < item.2 := by
  obtain ⟨before, after, rfl, hinsert⟩ | ⟨before, n, after, rfl, hinsert⟩ := insert_cases a items
  all_goals
    obtain ⟨hbefore, hafter⟩ := List.forall_mem_append.mp h
    rw [hinsert, List.forall_mem_append, List.forall_mem_cons]
  · exact ⟨hbefore, Nat.zero_lt_one, hafter⟩
  · exact ⟨hbefore, Nat.zero_lt_succ n, (List.forall_mem_cons.mp hafter).2⟩

/-- Counting adds one to the sum of all counts. -/
lemma sum_insert (a : String) (items : List (String × Nat)) :
    ((insert a items).map Prod.snd).sum = (items.map Prod.snd).sum + 1 := by
  obtain ⟨before, after, rfl, hinsert⟩ | ⟨before, n, after, rfl, hinsert⟩ := insert_cases a items
  all_goals
    rw [hinsert]
    simp only [List.map_append, List.map_cons, List.sum_append, List.sum_cons]
    omega

/-- Counting keeps the items increasing. -/
lemma Increasing.insert (h : Increasing items) (a : String) : Increasing (insert a items) := by
  induction items with
  | nil => exact List.pairwise_singleton _ _
  | cons first rest ih =>
    obtain ⟨other, n⟩ := first
    obtain ⟨hfirst, hrest⟩ := List.pairwise_cons.mp h
    obtain hlt | rfl | hgt := before_or_same_or_after a other
    · rw [insert_of_lt hlt]
      refine List.pairwise_cons.mpr ⟨List.forall_mem_cons.mpr ⟨hlt, fun item hitem => ?_⟩, h⟩
      exact String.lt_trans hlt (hfirst item hitem)
    · rw [insert_self]
      exact List.pairwise_cons.mpr ⟨hfirst, hrest⟩
    · rw [insert_of_gt hgt]
      refine List.pairwise_cons.mpr ⟨fun item hitem => ?_, ih hrest⟩
      rcases fst_of_mem_insert hitem with heq | hmem
      · exact heq ▸ hgt
      · obtain ⟨later, hlater, heq⟩ := List.mem_map.mp hmem
        exact heq ▸ hfirst later hlater

lemma lookup_cons_of_ne (h : u ≠ other) (n : Nat) (rest : List (String × Nat)) :
    ((other, n) :: rest).lookup u = rest.lookup u := by
  rw [List.lookup_cons, beq_false_of_ne h]

/-- There is no item for an identifier that comes before all others. -/
lemma lookup_eq_none_of_lt (h : ∀ item ∈ items, u < item.1) : items.lookup u = none := by
  refine List.lookup_eq_none_iff.mpr fun item hitem => ?_
  have hne : u ≠ item.1 := fun heq => String.lt_irrefl item.1 (heq ▸ h item hitem)
  simpa using hne

/-- An identifier has no more than one item. -/
lemma Increasing.mem_iff_lookup (h : Increasing items) :
    (u, n) ∈ items ↔ items.lookup u = some n := by
  rw [List.lookup_eq_some_iff]
  constructor
  · intro hmem
    obtain ⟨before, after, rfl⟩ := List.append_of_mem hmem
    refine ⟨before, after, rfl, fun item hitem => ?_⟩
    have hlt := (List.pairwise_append.mp h).2.2 item hitem (u, n) List.mem_cons_self
    have hne : u ≠ item.1 := fun heq => String.lt_irrefl u (heq ▸ hlt)
    exact bne_iff_ne.mpr hne
  · intro hlookup
    obtain ⟨before, after, rfl, -⟩ := hlookup
    exact List.mem_append_right before List.mem_cons_self

/-- The count of one identifier goes up by one, the others stay. -/
lemma Increasing.lookup_insert (h : Increasing items) (a u : String) :
    ((Tally.insert a items).lookup u).getD 0
      = (items.lookup u).getD 0 + if a = u then 1 else 0 := by
  induction items with
  | nil =>
    by_cases hu : a = u
    · subst hu
      simp [Tally.insert]
    · rw [Tally.insert, lookup_cons_of_ne (Ne.symm hu), if_neg hu]
      rfl
  | cons first rest ih =>
    obtain ⟨other, n⟩ := first
    obtain ⟨hfirst, hrest⟩ := List.pairwise_cons.mp h
    -- the new identifier goes in front of the first one, counts there, or goes behind it
    obtain hlt | rfl | hgt := before_or_same_or_after a other
    · rw [insert_of_lt hlt]
      by_cases hu : a = u
      · subst hu
        have hnone : ((other, n) :: rest).lookup a = none :=
          lookup_eq_none_of_lt (List.forall_mem_cons.mpr
            ⟨hlt, fun item hitem => String.lt_trans hlt (hfirst item hitem)⟩)
        rw [hnone, List.lookup_cons_self, if_pos rfl]
        rfl
      · rw [lookup_cons_of_ne (Ne.symm hu), if_neg hu]
        rfl
    · rw [insert_self]
      by_cases hu : a = u
      · subst hu
        rw [List.lookup_cons_self, List.lookup_cons_self, if_pos rfl]
        rfl
      · rw [lookup_cons_of_ne (Ne.symm hu), lookup_cons_of_ne (Ne.symm hu), if_neg hu]
        rfl
    · rw [insert_of_gt hgt]
      by_cases hu : u = other
      · subst hu
        have hne : a ≠ u := fun heq => String.lt_irrefl u (heq ▸ hgt)
        rw [List.lookup_cons_self, List.lookup_cons_self, if_neg hne]
        rfl
      · rw [lookup_cons_of_ne hu, lookup_cons_of_ne hu]
        exact ih hrest

/-- Identifiers are counted on top of those that have been counted. -/
lemma count_addAll_of_increasing {t : Tally} (h : Increasing t.items) (l : List String)
    (u : String) : (t.addAll l).count u = t.count u + l.count u := by
  induction l generalizing t with
  | nil => rfl
  | cons a l ih =>
    have hstep : (t.add a).count u = t.count u + if a = u then 1 else 0 := h.lookup_insert a u
    calc ((t.add a).addAll l).count u
        = (t.add a).count u + l.count u := ih (h.insert a)
      _ = t.count u + (a :: l).count u := by
        rw [hstep, List.count_cons]
        simp only [beq_iff_eq]
        omega

/-- An identifier is counted as often as it occurs. -/
theorem count_addAll (l : List String) (u : String) :
    (({} : Tally).addAll l).count u = l.count u := by
  have hcount := count_addAll_of_increasing (t := {}) List.Pairwise.nil l u
  rw [hcount]
  exact Nat.zero_add _

end DocComment.Tally
