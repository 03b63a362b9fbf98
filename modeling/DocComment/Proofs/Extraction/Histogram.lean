import DocComment.Comment
import DocComment.Proofs.Tally
import Mathlib.Data.Finset.Sort
import Mathlib.Data.String.Basic

/-!
# A tally in use is a histogram

A tally is used for a while: identifiers are counted one by one or while comments are built, and in
between it is asked what it holds. At any time it is the histogram of what has been reported until
then, and it answers as somebody would who had kept the list of all reports.

* `Histogram.add`: one more report;
* `Histogram.answer`: what a histogram answers;
* `Histogram.run`, `answers_run`: what holds of a whole run;
* `run_histogram`: both, item by item.
-/

namespace DocComment.Tally

/-! ## Uses -/

/-- What a tally is used for. -/
inductive Use where
  /-- An identifier is counted. -/
  | add (identifier : String)
  /-- An identifier is counted that somebody reports to the tally as a listener. -/
  | call (identifier : String)
  | count (identifier : String)
  | contains (identifier : String)
  | size
  | identifiers
  /-- A comment is built, with the tally as the listener. -/
  | build (raw : Option String) (context : Context)

/-- What a use is answered. -/
inductive Answer where
  | counted
  | count (n : Nat)
  | contained (found : Bool)
  | size (n : Nat)
  | identifiers (all : List String)
  | built (outcome : Outcome)

namespace Use

/-- The identifiers that a use reports. -/
def reports : Use → List String
  | add identifier => [identifier]
  | call identifier => [identifier]
  | build raw context => (buildComment raw context .recorder).reports
  | _ => []

/-- Whether a use may report something; the others are mere questions. -/
def isReporting : Use → Bool
  | add _ => true
  | call _ => true
  | build _ _ => true
  | _ => false

/-- What a use is answered by somebody who has kept the list of all reports. -/
def answer (reported : List String) : Use → Answer
  | add _ => .counted
  | call _ => .counted
  | count identifier => .count (reported.count identifier)
  | contains identifier => .contained (identifier ∈ reported)
  | size => .size reported.toFinset.card
  | identifiers => .identifiers reported.toFinset.sort
  | build raw context => .built (buildComment raw context .recorder)

end Use

/-- The answers that somebody gives who keeps the list of all reports. -/
def answers (reported : List String) : List Use → List Answer
  | [] => []
  | use :: rest => use.answer reported :: answers (reported ++ use.reports) rest

/-- Uses a tally once. -/
def serve (t : Tally) : Use → Tally × Answer
  | .add identifier => (t.add identifier, .counted)
  | .call identifier => (t.add identifier, .counted)
  | .count identifier => (t, .count (t.count identifier))
  | .contains identifier => (t, .contained (t.contains identifier))
  | .size => (t, .size t.size)
  | .identifiers => (t, .identifiers t.identifiers)
  | .build raw context =>
    let outcome := buildComment raw context .recorder
    (t.addAll outcome.reports, .built outcome)

/-- Uses a tally for one thing after the other. -/
def run (t : Tally) : List Use → Tally × List Answer
  | [] => (t, [])
  | use :: rest =>
    let (t, answer) := t.serve use
    let (t, answers) := t.run rest
    (t, answer :: answers)

/-! ## Histograms -/

/-- Whether a tally is the histogram of a list of reports: its identifiers increase, every count is
positive, and the counts are those in the list. -/
structure Histogram (reported : List String) (t : Tally) : Prop where
  increasing : Increasing t.items
  positive : ∀ item ∈ t.items, 0 < item.2
  count_eq : ∀ u, t.count u = reported.count u
  sum_eq : (t.items.map Prod.snd).sum = reported.length

namespace Histogram

variable {reported : List String} {t : Tally}

lemma empty : Histogram [] {} where
  increasing := List.Pairwise.nil
  positive := List.forall_mem_nil _
  count_eq _ := rfl
  sum_eq := rfl

/-- One more report. -/
lemma add (h : Histogram reported t) (a : String) : Histogram (reported ++ [a]) (t.add a) where
  increasing := h.increasing.insert a
  positive := positive_insert h.positive
  count_eq := by
    intro u
    have hcount := count_addAll_of_increasing h.increasing [a] u
    rw [h.count_eq, ← List.count_append] at hcount
    exact hcount
  sum_eq := by
    rw [List.length_append, ← h.sum_eq]
    exact sum_insert a t.items

/-- More reports, one after the other. -/
lemma addAll (h : Histogram reported t) (more : List String) :
    Histogram (reported ++ more) (t.addAll more) := by
  induction more generalizing reported t with
  | nil =>
    rw [List.append_nil]
    exact h
  | cons a more ih =>
    have hrest := ih (h.add a)
    rw [List.append_assoc] at hrest
    exact hrest

/-- The items of a histogram, one by one. -/
lemma mem_items_iff (h : Histogram reported t) {u : String} {n : Nat} :
    (u, n) ∈ t.items ↔ 0 < n ∧ reported.count u = n := by
  rw [h.increasing.mem_iff_lookup, ← h.count_eq, Tally.count]
  constructor
  · intro hlookup
    have hmem := h.increasing.mem_iff_lookup.mpr hlookup
    rw [hlookup]
    exact ⟨h.positive _ hmem, rfl⟩
  · intro hcount
    obtain ⟨hpos, hn⟩ := hcount
    cases hlookup : t.items.lookup u with
    | none =>
      rw [hlookup] at hn
      exact absurd hn (Nat.ne_of_lt hpos)
    | some m =>
      rw [hlookup] at hn
      exact congrArg some hn

/-- The identifiers of a histogram are those that have been reported. -/
lemma mem_identifiers_iff (h : Histogram reported t) {u : String} :
    u ∈ t.identifiers ↔ u ∈ reported := by
  rw [identifiers, List.mem_map, ← List.count_pos_iff]
  constructor
  · intro hmem
    obtain ⟨⟨u, n⟩, hitem, rfl⟩ := hmem
    obtain ⟨hpos, hcount⟩ := h.mem_items_iff.mp hitem
    exact hcount ▸ hpos
  · intro hpos
    exact ⟨(u, reported.count u), h.mem_items_iff.mpr ⟨hpos, rfl⟩, rfl⟩

/-- An identifier is found if it has been reported. -/
lemma contains_iff (h : Histogram reported t) {u : String} :
    t.contains u = true ↔ u ∈ reported := by
  rw [← h.mem_identifiers_iff, contains, Option.isSome_iff_exists, identifiers, List.mem_map]
  constructor
  · intro hfound
    obtain ⟨n, hlookup⟩ := hfound
    exact ⟨(u, n), h.increasing.mem_iff_lookup.mpr hlookup, rfl⟩
  · intro hmem
    obtain ⟨⟨u, n⟩, hitem, rfl⟩ := hmem
    exact ⟨n, h.increasing.mem_iff_lookup.mp hitem⟩

lemma pairwise_identifiers (h : Histogram reported t) : t.identifiers.Pairwise (· < ·) :=
  List.pairwise_map.mpr h.increasing

lemma nodup_identifiers (h : Histogram reported t) : t.identifiers.Nodup :=
  h.pairwise_identifiers.imp ne_of_lt

lemma toFinset_identifiers (h : Histogram reported t) :
    t.identifiers.toFinset = reported.toFinset := by
  ext u
  rw [List.mem_toFinset, List.mem_toFinset, h.mem_identifiers_iff]

/-- The identifiers of a histogram are the sorted list of those that have been reported. -/
lemma identifiers_eq (h : Histogram reported t) : t.identifiers = reported.toFinset.sort := by
  rw [← h.toFinset_identifiers]
  have hsorted : t.identifiers.Pairwise (· ≤ ·) := h.pairwise_identifiers.imp le_of_lt
  exact ((List.toFinset_sort (· ≤ ·) h.nodup_identifiers).mpr hsorted).symm

/-- There are as many items as identifiers that have been reported. -/
lemma size_eq (h : Histogram reported t) : t.size = reported.toFinset.card := by
  rw [← h.toFinset_identifiers, List.toFinset_card_of_nodup h.nodup_identifiers]
  exact (List.length_map _).symm

/-! ## Runs -/

/-- A histogram answers like the list of all reports. -/
theorem answer (h : Histogram reported t) (use : Use) : (t.serve use).2 = use.answer reported := by
  cases use with
  | add identifier => rfl
  | call identifier => rfl
  | count identifier => exact congrArg Answer.count (h.count_eq identifier)
  | contains identifier =>
    refine congrArg Answer.contained ?_
    rw [Bool.eq_iff_iff, h.contains_iff, decide_eq_true_iff]
  | size => exact congrArg Answer.size h.size_eq
  | identifiers => exact congrArg Answer.identifiers h.identifiers_eq
  | build raw context => rfl

end Histogram

/-- A use counts what it reports. -/
lemma fst_serve (t : Tally) (use : Use) : (t.serve use).1 = t.addAll use.reports := by
  cases use <;> rfl

/-- A run counts what its uses report. -/
lemma fst_run (t : Tally) (uses : List Use) :
    (t.run uses).1 = t.addAll (uses.flatMap Use.reports) := by
  induction uses generalizing t with
  | nil => rfl
  | cons use rest ih =>
    show ((t.serve use).1.run rest).1 = _
    rw [ih, fst_serve, List.flatMap_cons, addAll, addAll, addAll, List.foldl_append]

/-- After a run the tally is the histogram of all that has been reported. -/
theorem Histogram.run {reported : List String} {t : Tally} (h : Histogram reported t)
    (uses : List Use) : Histogram (reported ++ uses.flatMap Use.reports) (t.run uses).1 := by
  rw [fst_run]
  exact h.addAll _

/-- In a run a histogram answers like the list of all reports. -/
theorem Histogram.answers_run {reported : List String} {t : Tally} (h : Histogram reported t)
    (uses : List Use) : (t.run uses).2 = answers reported uses := by
  induction uses generalizing reported t with
  | nil => rfl
  | cons use rest ih =>
    -- the first use is answered from the reports before it, the others with its own reports added
    have hserved : Histogram (reported ++ use.reports) (t.serve use).1 := by
      rw [fst_serve]
      exact h.addAll use.reports
    show (t.serve use).2 :: ((t.serve use).1.run rest).2 = _
    rw [h.answer use, ih hserved, answers]

/-- Questions report nothing. -/
lemma reports_of_not_isReporting {use : Use} (h : use.isReporting = false) : use.reports = [] := by
  cases use with
  | add _ => cases h
  | call _ => cases h
  | build _ _ => cases h
  | _ => rfl

/-- Uses that are no reports can be left out without a report being lost. -/
lemma flatMap_reports_filter (uses : List Use) :
    (uses.filter Use.isReporting).flatMap Use.reports = uses.flatMap Use.reports := by
  induction uses with
  | nil => rfl
  | cons use rest ih =>
    cases hreporting : use.isReporting with
    | true =>
      rw [List.filter_cons_of_pos hreporting, List.flatMap_cons, List.flatMap_cons, ih]
    | false =>
      rw [List.filter_cons_of_neg (by simp [hreporting]), List.flatMap_cons,
        reports_of_not_isReporting hreporting, ih, List.nil_append]

/-- Uses that report the same in another order leave the same tally, whatever is asked in between. -/
lemma fst_run_perm {uses uses' : List Use}
    (h : (uses.filter Use.isReporting).Perm (uses'.filter Use.isReporting)) (t : Tally) :
    (t.run uses).1 = (t.run uses').1 := by
  -- a run comes to no more than the list of its reports, and that has no trace of the questions
  have hreports := h.flatMap_right Use.reports
  rw [flatMap_reports_filter, flatMap_reports_filter] at hreports
  rw [fst_run, fst_run, addAll_perm hreports]

/-- **A tally is an exact histogram.** After any run the identifiers of the items increase; there is an
item for each identifier that has been reported and for no other, with the number of its reports,
which is positive. Each identifier is counted as often as it has been reported, it is contained if its
count is positive, the identifiers and the size are those of the items, and the counts add up to the
number of all reports. Every question in the run is answered as by somebody who has kept the list of
reports, and changes nothing; and the reports may come in any order, with other questions in
between. -/
theorem run_histogram (uses : List Use) :
    let t := (({} : Tally).run uses).1
    let reported := uses.flatMap Use.reports
    (Increasing t.items ∧ ∀ u n, (u, n) ∈ t.items ↔ 0 < n ∧ reported.count u = n) ∧
    (∀ u, t.count u = reported.count u ∧ (t.contains u = true ↔ 0 < t.count u)) ∧
    (t.identifiers = t.items.map Prod.fst ∧ t.size = t.items.length) ∧
    (t.items.map Prod.snd).sum = reported.length ∧
    (({} : Tally).run uses).2 = answers [] uses ∧
    (∀ use : Use, use.isReporting = false → (t.serve use).1 = t) ∧
    ∀ uses' : List Use, (uses.filter Use.isReporting).Perm (uses'.filter Use.isReporting) →
      (({} : Tally).run uses').1.items = t.items := by
  intro t reported
  have h : Histogram reported t := Histogram.empty.run uses
  refine ⟨⟨h.increasing, fun u n => h.mem_items_iff⟩, fun u => ⟨h.count_eq u, ?_⟩, ⟨rfl, rfl⟩,
    h.sum_eq, Histogram.empty.answers_run uses, ?_, ?_⟩
  · rw [h.contains_iff, h.count_eq, List.count_pos_iff]
  · intro use hquestion
    rw [fst_serve, reports_of_not_isReporting hquestion]
    rfl
  · intro uses' hperm
    exact congrArg Tally.items (fst_run_perm hperm {}).symm

/-- A tally is asked in between for what it holds and for what it does not hold. -/
def mixedUses : List Use :=
  [.count "B", .add "B", .contains "A", .build (some "<member><see cref=\"T:A\" /></member>") {},
    .size, .call "A", .build (some "<member>") {}, .identifiers]

/-- The same reports in another order, with fewer questions. -/
def mixedReversed : List Use :=
  [.build (some "<member>") {}, .call "A", .build (some "<member><see cref=\"T:A\" /></member>") {},
    .add "B", .contains "B"]

/-- One declaration is reported by a build and a call, the other is added; what asks and what is
refused in between changes nothing. -/
theorem run_histogram_mixedUses :
    (Use.count "B").isReporting = false ∧
    (mixedUses.filter Use.isReporting).Perm (mixedReversed.filter Use.isReporting) ∧
    (({} : Tally).run mixedUses).1.items = [("A", 2), ("B", 1)] ∧
    ((({} : Tally).run mixedUses).1.serve (.count "B")).1 = (({} : Tally).run mixedUses).1 ∧
    (({} : Tally).run mixedReversed).1.items = (({} : Tally).run mixedUses).1.items := by
  have hreversed : (mixedReversed.filter Use.isReporting).reverse
      = mixedUses.filter Use.isReporting := rfl
  have hperm : (mixedUses.filter Use.isReporting).Perm (mixedReversed.filter Use.isReporting) :=
    hreversed ▸ List.reverse_perm _
  obtain ⟨-, -, -, -, -, hquestion, hsame⟩ := run_histogram mixedUses
  exact ⟨rfl, hperm, by decide +kernel, hquestion (.count "B") rfl, hsame mixedReversed hperm⟩

end DocComment.Tally
