import DocComment.Notice
import DocComment.Text.Digits

/-!
# Readings

Reading the fields of a comment makes notices on the way and ends early at a number that has too
many digits. What was noticed until then stays.
-/

namespace DocComment

/-- What comes of reading something: a result, unless a number had too many digits, and the notices.
-/
structure Reading (α : Type) where
  result : Except Text.TooManyDigits α
  notices : List Notice := []

namespace Reading

variable {α β : Type}

/-- Goes on with the result of a reading, if there is one. -/
def andThen (r : Reading α) (next : α → Reading β) : Reading β :=
  match r.result with
  | .ok a => ⟨(next a).result, r.notices ++ (next a).notices⟩
  | .error e => ⟨.error e, r.notices⟩

instance : Monad Reading where
  pure a := ⟨.ok a, []⟩
  bind := andThen

instance : MonadLift (Except Text.TooManyDigits) Reading where
  monadLift result := ⟨result, []⟩

/-- Makes a notice. -/
def notice (n : Notice) : Reading Unit :=
  ⟨.ok (), [n]⟩

instance : LawfulMonad Reading := by
  refine .mk' _ ?_ ?_ ?_
  · rintro α ⟨_ | a, notices⟩
    · rfl
    · exact congrArg (Reading.mk _) (List.append_nil _)
  · intro α β a next
    rfl
  · rintro α β γ ⟨_ | a, notices⟩ next last
    · rfl
    · show andThen (andThen _ next) last = andThen _ _
      cases hnext : (next a).result with
      | error e => simp [andThen, bind, hnext]
      | ok b => simp [andThen, bind, hnext]

@[simp] theorem result_pure (a : α) : (pure a : Reading α).result = .ok a := rfl

@[simp] theorem notices_pure (a : α) : (pure a : Reading α).notices = [] := rfl

@[simp] theorem result_bind (r : Reading α) (next : α → Reading β) :
    (r >>= next).result = r.result >>= fun a => (next a).result := by
  obtain ⟨_ | a, notices⟩ := r
  · rfl
  · rfl

@[simp] theorem result_liftM (result : Except Text.TooManyDigits α) :
    (liftM result : Reading α).result = result := rfl

@[simp] theorem notices_liftM (result : Except Text.TooManyDigits α) :
    (liftM result : Reading α).notices = [] := rfl

/-- A reading that goes on and has a result: both parts have one, and the notices of both are made.
-/
theorem exists_of_bind_eq_ok {r : Reading α} {next : α → Reading β} {b : β}
    (h : (r >>= next).result = .ok b) :
    ∃ a, r.result = .ok a ∧ (next a).result = .ok b ∧
      (r >>= next).notices = r.notices ++ (next a).notices := by
  obtain ⟨_ | a, notices⟩ := r
  · cases h
  · exact ⟨a, rfl, h, rfl⟩

@[simp] theorem result_mapM (f : α → Reading β) (l : List α) :
    (l.mapM f).result = l.mapM fun a => (f a).result := by
  induction l with
  | nil => rfl
  | cons a l ih =>
    simp only [List.mapM_cons, result_bind, ih, result_pure]
    rfl

/-- What holds of the notices of both parts holds of those of a reading that goes on. -/
theorem forall_notices_bind {p : Notice → Prop} {r : Reading α} {next : α → Reading β}
    (hr : ∀ n ∈ r.notices, p n) (hnext : ∀ a, ∀ n ∈ (next a).notices, p n) :
    ∀ n ∈ (r >>= next).notices, p n := by
  obtain ⟨_ | a, notices⟩ := r
  · exact hr
  · intro n hn
    rcases List.mem_append.mp hn with hn | hn
    · exact hr n hn
    · exact hnext a n hn

/-- What holds of the notices of all items holds of those of a list that is read. -/
theorem forall_notices_mapM {p : Notice → Prop} {f : α → Reading β}
    (hf : ∀ a, ∀ n ∈ (f a).notices, p n) (l : List α) : ∀ n ∈ (l.mapM f).notices, p n := by
  induction l with
  | nil => exact fun n hn => by cases hn
  | cons a l ih =>
    rw [List.mapM_cons]
    refine forall_notices_bind (hf a) fun _ => forall_notices_bind ih fun _ => ?_
    exact fun n hn => by cases hn

end Reading

end DocComment
