import DocComment.Comment
import Mathlib.Tactic.Common

/-!
# What is noticed while a comment is built

Once the dialect of a context has been found, resolution and reading make remarks only: resolution on
references that are no comment ids and on passes that were abandoned, reading on names that come
twice. So whatever holds of such remarks holds of all that they notice (`forall_notices_resolved`,
`forall_notices_ofTree`), and of all that building a comment notices, if it also holds of what is
said about the dialect and of refusals (`forall_notices_buildComment`).
-/

namespace DocComment

open Markup

/-- Whether a notice says that a comment was refused. -/
def Notice.isRefusal : Notice → Bool
  | malformedMarker _ => true
  | unparsable _ _ => true
  | _ => false

/-- Whether a notice is a remark on the content of a comment. -/
def Notice.isRemark : Notice → Bool
  | invalidCref _ _ => true
  | crefsAbandoned _ => true
  | langwordsAbandoned => true
  | duplicateEntry _ _ _ _ => true
  | _ => false

/-- Whether a notice is a remark on what resolution left alone. -/
def Notice.isUnresolved : Notice → Bool
  | invalidCref _ _ => true
  | crefsAbandoned _ => true
  | langwordsAbandoned => true
  | _ => false

lemma Notice.isRemark_of_isUnresolved {n : Notice} (h : n.isUnresolved = true) :
    n.isRemark = true := by
  cases n <;> first | rfl | cases h

section

variable {P : Notice → Prop}

lemma forall_notices_notice {p : Progress} (h : ∀ n ∈ p.notices, P n) {n : Notice} (hn : P n) :
    ∀ m ∈ (p.notice n).notices, P m :=
  List.forall_mem_append.mpr ⟨h, by simpa using hn⟩

lemma forall_notices_replace {p : Progress} (h : ∀ n ∈ p.notices, P n) (path : Path)
    (new : Element) : ∀ n ∈ (p.replace path new).notices, P n := by
  rw [Progress.replace]
  split
  · exact h
  · exact h

/-! ## Resolution -/

section

variable (hunresolved : ∀ n : Notice, n.isUnresolved = true → P n)

include hunresolved

/-- A pass over references notices only that an id is invalid or that the listener refuses. -/
lemma forall_notices_resolveCandidates {selector detail : String} {listener : Listener}
    {dialect : Dialect} (candidates : List (Path × String)) {p : Progress}
    (h : ∀ n ∈ p.notices, P n) :
    ∀ n ∈ (resolveCandidates selector listener dialect detail candidates p).notices, P n := by
  induction candidates generalizing p with
  | nil => exact h
  | cons candidate rest ih =>
    obtain ⟨path, value⟩ := candidate
    rw [resolveCandidates]
    split
    · exact ih (forall_notices_notice h (hunresolved _ rfl))
    · rename_i id hid
      have hreplaced := forall_notices_replace h path (dialect.reference id.identifier)
      split
      · exact ih hreplaced
      · -- a report adds no notice, and a refusing listener ends the pass only
        dsimp only
        split
        · exact forall_notices_notice (p := Progress.report _ _) hreplaced (hunresolved _ rfl)
        · exact ih hreplaced

/-- A pass over keywords notices only that a keyword is unknown. -/
lemma forall_notices_rewriteCandidates {dialect : Dialect} (candidates : List (Path × String))
    {p : Progress} (h : ∀ n ∈ p.notices, P n) :
    ∀ n ∈ (rewriteCandidates dialect candidates p).notices, P n := by
  induction candidates generalizing p with
  | nil => exact h
  | cons candidate rest ih =>
    obtain ⟨path, word⟩ := candidate
    rw [rewriteCandidates]
    split
    · exact ih h
    · split
      · rename_i placeholder _
        exact ih (forall_notices_replace h path placeholder)
      · exact forall_notices_notice h (hunresolved _ rfl)

/-- What holds of remarks on what was left alone and of what is said about the dialect holds of all
that resolution notices, whoever listens. -/
lemma forall_notices_resolved {context : Context} (hdialect : ∀ n ∈ (contextDialect context).2, P n)
    (listener : Listener) (root : Element) :
    ∀ n ∈ (resolved context listener root).notices, P n := by
  rw [resolved]
  split
  · exact fun n hn => by cases hn
  · have hcrefs (selector : String) {p : Progress} (h : ∀ n ∈ p.notices, P n) :
        ∀ n ∈ (resolveCrefs selector listener (contextDialect context).1 (some context) p).notices,
          P n :=
      forall_notices_resolveCandidates hunresolved _ h
    have hpasses := hcrefs "seealso" (hcrefs "see"
      (p := { root, notices := (contextDialect context).2 }) hdialect)
    rw [resolveReferences]
    dsimp only
    split
    · exact forall_notices_rewriteCandidates hunresolved _ hpasses
    · exact hpasses

end

variable (hremark : ∀ n : Notice, n.isRemark = true → P n)

include hremark

/-! ## Reading -/

/-- Collecting entries by name notices only that a name is missing or comes again. -/
lemma forall_notices_keyedEntries (content : String) (context : Context) (elements : List Element)
    (entries : List (String × String)) :
    ∀ n ∈ (keyedEntries content context elements entries).notices, P n := by
  induction elements generalizing entries with
  | nil => exact fun n hn => by cases hn
  | cons e rest ih =>
    rw [keyedEntries]
    split
    · exact ih entries
    · split
      · refine Reading.forall_notices_bind (fun n hn => ?_) fun _ => ih entries
        obtain rfl := List.mem_singleton.mp hn
        exact hremark _ rfl
      · exact Reading.forall_notices_bind (fun n hn => by cases hn) fun _ => ih _

/-- What holds of remarks holds of all that reading the fields of a tree notices. -/
lemma forall_notices_ofTree (tree : Tree) (context : Context) :
    ∀ n ∈ (Comment.ofTree tree context).notices, P n := by
  have hlift {α β : Type} {result : Except Text.TooManyDigits α} {next : α → Reading β}
      (hnext : ∀ a, ∀ n ∈ (next a).notices, P n) :
      ∀ n ∈ ((liftM result : Reading α) >>= next).notices, P n :=
    Reading.forall_notices_bind (fun n hn => by cases hn) hnext
  have hkeyed (content : String) (elements : List Element) :=
    forall_notices_keyedEntries hremark content context elements []
  rw [Comment.ofTree]
  refine hlift fun summary => hlift fun remarks => hlift fun returns => ?_
  refine Reading.forall_notices_bind (hkeyed _ _) fun parameters => ?_
  refine Reading.forall_notices_bind (hkeyed _ _) fun types => ?_
  refine hlift fun exceptions => hlift fun sees => hlift fun seeAlsos => hlift fun examples => ?_
  exact fun n hn => by cases hn

/-! ## Building comments -/

/-- What holds of remarks, of refusals and of what is said about the dialect holds of all that
building a comment notices. -/
theorem forall_notices_buildComment (hrefusal : ∀ n : Notice, n.isRefusal = true → P n)
    {context : Context} (hdialect : ∀ n ∈ (contextDialect context).2, P n) (raw : Option String)
    (listener : Listener) : ∀ n ∈ (buildComment raw context listener).notices, P n := by
  have hone {n : Notice} (hn : n.isRefusal = true) : ∀ m ∈ [n], P m := by
    simpa using hrefusal n hn
  cases raw with
  | none => exact fun n hn => by cases hn
  | some raw =>
    rw [buildComment]
    dsimp only
    split
    · exact fun n hn => by cases hn
    · split
      · exact hone rfl
      · split
        · exact hone rfl
        · exact List.forall_mem_append.mpr
            ⟨forall_notices_resolved (fun n hn => hremark n (Notice.isRemark_of_isUnresolved hn))
                hdialect listener _,
              forall_notices_ofTree hremark _ context⟩

end

end DocComment
