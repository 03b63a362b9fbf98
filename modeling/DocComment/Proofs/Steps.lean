import Mathlib.Data.List.Forall2
import Mathlib.Tactic.Common

/-!
# Steps that may fail

When steps in a row succeed: each of them does, and hands its result on.
-/

namespace DocComment

@[grind =]
lemma bind_eq_ok {ε α β : Type} {x : Except ε α} {f : α → Except ε β} {b : β} :
    (x >>= f) = .ok b ↔ ∃ a, x = .ok a ∧ f a = .ok b := by
  cases x with
  | error e => simp [bind, Except.bind]
  | ok a => simp [bind, Except.bind]

/-- Steps in a row fail where the first of them does that fails. -/
lemma bind_eq_error {ε α β : Type} {x : Except ε α} {f : α → Except ε β} {e : ε} :
    (x >>= f) = .error e ↔ x = .error e ∨ ∃ a, x = .ok a ∧ f a = .error e := by
  cases x with
  | error e => simp [bind, Except.bind]
  | ok a => simp [bind, Except.bind]

@[grind =]
lemma pure_eq_ok {ε α : Type} {a b : α} : (pure a : Except ε α) = .ok b ↔ a = b := by
  simp [pure, Except.pure]

lemma map_eq_ok {ε α β : Type} {x : Except ε α} {f : α → β} {b : β} :
    x.map f = .ok b ↔ ∃ a, x = .ok a ∧ f a = b := by
  cases x with
  | error e => simp [Except.map]
  | ok a => simp [Except.map]

/-- A list of steps succeeds if each of them does, and gives their results. -/
lemma mapM_eq_ok_iff {ε α β : Type} {f : α → Except ε β} {l : List α} {results : List β} :
    l.mapM f = .ok results ↔ List.Forall₂ (fun a b => f a = .ok b) l results := by
  induction l generalizing results with
  | nil =>
    rw [List.mapM_nil, pure_eq_ok, List.forall₂_nil_left_iff]
    exact eq_comm
  | cons a l ih =>
    rw [List.mapM_cons, bind_eq_ok, List.forall₂_cons_left_iff]
    constructor
    · rintro ⟨b, hb, h⟩
      obtain ⟨others, hothers, h⟩ := bind_eq_ok.mp h
      exact ⟨b, others, hb, ih.mp hothers, (pure_eq_ok.mp h).symm⟩
    · rintro ⟨b, others, hb, hothers, rfl⟩
      exact ⟨b, hb, bind_eq_ok.mpr ⟨others, ih.mpr hothers, rfl⟩⟩

/-- A step whose result shows something has succeeded. -/
lemma exists_ok_of_map {ε α β : Type} {x : Except ε α} {f : α → β} {b : β}
    (h : x.toOption.map f = some b) : ∃ a, x = .ok a ∧ f a = b := by
  cases x with
  | error e => cases h
  | ok a => exact ⟨a, rfl, Option.some.inj h⟩

lemma exists_mem_of_forall₂ {α β : Type} {R : α → β → Prop} {l : List α} {results : List β}
    (h : List.Forall₂ R l results) {b : β} (hb : b ∈ results) : ∃ a ∈ l, R a b := by
  induction h with
  | nil => exact absurd hb List.not_mem_nil
  | cons hab _ ih =>
    rcases List.mem_cons.mp hb with rfl | hb
    · exact ⟨_, List.mem_cons_self, hab⟩
    · obtain ⟨a, ha, hab⟩ := ih hb
      exact ⟨a, List.mem_cons_of_mem _ ha, hab⟩

/-- Checks of all items of a list succeed if each of them does. -/
lemma forM_eq_ok_iff {ε α : Type} {f : α → Except ε Unit} {l : List α} :
    l.forM f = .ok () ↔ ∀ a ∈ l, f a = .ok () := by
  induction l with
  | nil => simp [List.forM, pure_eq_ok]
  | cons a l ih =>
    show (f a >>= fun _ => l.forM f) = _ ↔ _
    rw [bind_eq_ok, List.forall_mem_cons, ← ih]
    exact ⟨fun ⟨⟨⟩, ha, hl⟩ => ⟨ha, hl⟩, fun ⟨ha, hl⟩ => ⟨⟨⟩, ha, hl⟩⟩

lemma mapError_eq_ok {ε ε' α : Type} {x : Except ε α} {f : ε → ε'} {a : α} :
    x.mapError f = .ok a ↔ x = .ok a := by
  cases x <;> simp [Except.mapError]

/-! ## How steps end -/

/-- How steps end: with a result for which one thing holds, or with an error for which another does.
-/
def Ends {ε α : Type} (F : ε → Prop) (P : α → Prop) : Except ε α → Prop
  | .ok a => P a
  | .error e => F e

section

variable {ε α β : Type} {F : ε → Prop} {P : α → Prop} {Q : β → Prop} {x : Except ε α}

lemma ends_ok {a : α} (h : P a) : Ends F P (.ok a) := h

lemma ends_pure {a : α} (h : P a) : Ends F P (pure a) := h

lemma Ends.mono {F' : ε → Prop} {P' : α → Prop} (h : Ends F P x) (hF : ∀ e, F e → F' e)
    (hP : ∀ a, P a → P' a) : Ends F' P' x := by
  cases x with
  | ok a => exact hP a h
  | error e => exact hF e h

lemma ends_bind {f : α → Except ε β} (hx : Ends F P x) (hf : ∀ a, P a → Ends F Q (f a)) :
    Ends F Q (x >>= f) := by
  cases x with
  | ok a => exact hf a hx
  | error e => exact hx

lemma ends_map {f : α → β} (hx : Ends F P x) (hf : ∀ a, P a → Q (f a)) : Ends F Q (x.map f) := by
  cases x with
  | ok a => exact hf a hx
  | error e => exact hx

lemma ends_ite {p : Prop} [Decidable p] {y : Except ε α} (hx : p → Ends F P x)
    (hy : ¬ p → Ends F P y) : Ends F P (if p then x else y) := by
  split
  · exact hx ‹_›
  · exact hy ‹_›

/-- Steps for each item of a list fail only where one of them does. -/
lemma ends_mapM {f : α → Except ε β} {l : List α} (hf : ∀ a ∈ l, Ends F (fun _ => True) (f a)) :
    Ends F (fun _ => True) (l.mapM f) := by
  induction l with
  | nil => trivial
  | cons a l ih =>
    obtain ⟨ha, hl⟩ := List.forall_mem_cons.mp hf
    rw [List.mapM_cons]
    exact ends_bind ha fun _ _ => ends_bind (ih hl) fun _ _ => trivial

/-- What each step keeps is kept by all of them in a row. -/
lemma ends_foldlM {f : β → α → Except ε β} {l : List α} {b : β} (hb : Q b)
    (hf : ∀ b, Q b → ∀ a ∈ l, Ends F Q (f b a)) : Ends F Q (l.foldlM f b) := by
  induction l generalizing b with
  | nil => exact hb
  | cons a l ih =>
    rw [List.foldlM_cons]
    refine ends_bind (hf b hb a List.mem_cons_self) fun c hc => ?_
    exact ih hc fun b hb a ha => hf b hb a (List.mem_cons_of_mem _ ha)

end

end DocComment
