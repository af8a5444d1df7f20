import Conformance.Proofs.Text.Table
import Conformance.Report.Tally
import Mathlib.Data.List.Perm.Basic

/-!
# Tallies of a list of results

Recording results one after the other leaves a tally that is a function of the list: the counts, the
table of sections and the entries that did not pass are folds over it. `Tally.ofResults` is that
function, with the cases still pending beside it. What it keeps is said here once, and nothing later
looks at how a tally counts.

The counts and the table do not depend on the order of the results (`Counts.ofResults_perm`,
`sectionsOf_perm`). The entries do, but only in their own order.
-/

namespace Conformance

namespace Path

/-- No two of the paths are spellings of one. -/
def Distinct (paths : List Path) : Prop := paths.Pairwise fun p q => ¬ p.Same q

instance (paths : List Path) : Decidable (Distinct paths) :=
  inferInstanceAs (Decidable (paths.Pairwise _))

theorem distinct_iff_nodup {paths : List Path} : Distinct paths ↔ (paths.map parts).Nodup := by
  rw [Distinct, List.Nodup, List.pairwise_map]
  rfl

theorem Same.symm {p q : Path} (h : p.Same q) : q.Same p := Eq.symm h

theorem Same.trans {p q r : Path} (h : p.Same q) (h' : q.Same r) : p.Same r := Eq.trans h h'

theorem Distinct.perm {ps qs : List Path} (h : Distinct ps) (hp : ps.Perm qs) : Distinct qs := by
  rw [distinct_iff_nodup] at h ⊢
  exact (hp.map parts).nodup_iff.1 h

theorem Distinct.sublist {ps qs : List Path} (h : Distinct ps) (hs : qs.Sublist ps) :
    Distinct qs :=
  List.Pairwise.sublist hs h

end Path

namespace Result

def failing (r : Result) : Bool := decide (r.verdict ≠ .pass)

end Result

namespace Counts

/-- How many of the results passed, failed and crashed. -/
def ofResults (rs : List Result) : Counts := rs.foldr (fun r c => c.add r.verdict) .zero

@[simp] theorem ofResults_cons (r : Result) (rs : List Result) :
    ofResults (r :: rs) = (ofResults rs).add r.verdict := rfl

theorem total_add (c : Counts) (v : Verdict) : (c.add v).total = c.total + 1 := by
  cases v <;> simp only [add, total] <;> omega

theorem total_ofResults (rs : List Result) : (ofResults rs).total = rs.length := by
  induction rs with
  | nil => rfl
  | cons r rs ih => rw [ofResults_cons, total_add, ih, List.length_cons]

theorem ofResults_eq (rs : List Result) :
    ofResults rs = ⟨rs.countP (·.verdict = .pass), rs.countP (·.verdict = .fail),
      rs.countP (·.verdict = .crash)⟩ := by
  induction rs with
  | nil => rfl
  | cons r rs ih =>
    rw [ofResults_cons, ih]
    simp only [List.countP_cons]
    cases r.verdict <;> simp [add]

theorem fail_add_crash_ofResults (rs : List Result) :
    (ofResults rs).fail + (ofResults rs).crash = rs.countP Result.failing := by
  induction rs with
  | nil => rfl
  | cons r rs ih =>
    rw [ofResults_cons, List.countP_cons, Result.failing, ← ih]
    cases r.verdict <;> simp only [add] <;> simp <;> omega

theorem ofResults_perm {rs rs' : List Result} (h : rs.Perm rs') : ofResults rs = ofResults rs' := by
  simp only [ofResults_eq, h.countP_eq]

end Counts

namespace Tally

/-- The results that are counted under a section key. -/
def resultsIn (key : String) (rs : List Result) : List Result := rs.filter (·.sectionKey = key)

theorem resultsIn_cons_self (r : Result) (rs : List Result) :
    resultsIn r.sectionKey (r :: rs) = r :: resultsIn r.sectionKey rs :=
  List.filter_cons_of_pos (by simp)

theorem resultsIn_cons_of_ne {key : String} {r : Result} (h : key ≠ r.sectionKey)
    (rs : List Result) : resultsIn key (r :: rs) = resultsIn key rs :=
  List.filter_cons_of_neg (by simpa using Ne.symm h)

def sectionsOf (rs : List Result) : Table Counts :=
  rs.foldr (fun r t => t.alter r.sectionKey fun c => (c.getD .zero).add r.verdict) .empty

/-- The entries of the results that did not pass. -/
def failuresOf (rs : List Result) : List Failure := (rs.filter Result.failing).map Failure.ofResult

/-- A section is listed exactly if a result is counted under its key, with the counts of those. -/
theorem find?_sectionsOf (rs : List Result) (key : String) :
    (sectionsOf rs).find? key
      = if resultsIn key rs = [] then none else some (.ofResults (resultsIn key rs)) := by
  induction rs with
  | nil => rfl
  | cons r rs ih =>
    rw [sectionsOf, List.foldr_cons, ← sectionsOf, Table.find?_alter]
    by_cases hk : key = r.sectionKey
    · subst hk
      rw [if_pos rfl, ih, resultsIn_cons_self, if_neg (List.cons_ne_nil _ _),
        Counts.ofResults_cons]
      split
      · next h => rw [h]; rfl
      · rfl
    · rw [if_neg hk, ih, resultsIn_cons_of_ne hk]

theorem getD_find?_sectionsOf (rs : List Result) (key : String) :
    ((sectionsOf rs).find? key).getD .zero = .ofResults (resultsIn key rs) := by
  rw [find?_sectionsOf]
  split
  · next h => rw [h]; rfl
  · rfl

theorem sectionsOf_perm {rs rs' : List Result} (h : rs.Perm rs') :
    sectionsOf rs = sectionsOf rs' := by
  refine Table.ext_find? fun key => ?_
  have hp : (resultsIn key rs).Perm (resultsIn key rs') := h.filter _
  have hnil : resultsIn key rs = [] ↔ resultsIn key rs' = [] := by
    rw [← List.length_eq_zero_iff, hp.length_eq, List.length_eq_zero_iff]
  simp only [find?_sectionsOf, Counts.ofResults_perm hp, hnil]

theorem sum_sectionsOf (rs : List Result) :
    ((sectionsOf rs).entries.map fun e => e.2.total).sum = rs.length := by
  induction rs with
  | nil => rfl
  | cons r rs ih =>
    have hsum := Table.sum_alter (sectionsOf rs) r.sectionKey
      (fun c => (c.getD .zero).add r.verdict) Counts.total
    have hold : (((sectionsOf rs).find? r.sectionKey).map Counts.total).getD 0
        = (((sectionsOf rs).find? r.sectionKey).getD .zero).total := by
      cases (sectionsOf rs).find? r.sectionKey <;> rfl
    rw [hold, Counts.total_add, ih] at hsum
    rw [sectionsOf, List.foldr_cons, ← sectionsOf, List.length_cons]
    omega

theorem total_ne_zero_of_mem_sectionsOf {rs : List Result} {e : String × Counts}
    (h : e ∈ (sectionsOf rs).entries) : e.2.total ≠ 0 := by
  have hfind := Table.mem_entries_iff.1 h
  rw [find?_sectionsOf] at hfind
  split at hfind
  · cases hfind
  · next hne =>
    rw [← Option.some.inj hfind, Counts.total_ofResults]
    exact fun hzero => hne (List.length_eq_zero_iff.1 hzero)

theorem exists_mem_of_mem_sectionsOf {rs : List Result} {e : String × Counts}
    (h : e ∈ (sectionsOf rs).entries) : ∃ r ∈ rs, r.sectionKey = e.1 := by
  have hfind := Table.mem_entries_iff.1 h
  rw [find?_sectionsOf] at hfind
  split at hfind
  · cases hfind
  · next hne =>
    obtain ⟨r, hr⟩ := List.exists_mem_of_ne_nil _ hne
    obtain ⟨hmem, hkey⟩ := List.mem_filter.1 hr
    exact ⟨r, hmem, of_decide_eq_true hkey⟩

theorem length_failuresOf (rs : List Result) :
    (failuresOf rs).length = (Counts.ofResults rs).fail + (Counts.ofResults rs).crash := by
  rw [Counts.fail_add_crash_ofResults, failuresOf, List.length_map, List.countP_eq_length_filter]

theorem failuresOf_eq_nil_iff {rs : List Result} :
    failuresOf rs = [] ↔ ∀ r ∈ rs, r.verdict = .pass := by
  simp [failuresOf, List.filter_eq_nil_iff, Result.failing]

theorem countP_failuresOf (rs : List Result) (key : String) :
    (failuresOf rs).countP (·.sectionKey = key)
      = (Counts.ofResults (resultsIn key rs)).fail
        + (Counts.ofResults (resultsIn key rs)).crash := by
  rw [Counts.fail_add_crash_ofResults, failuresOf, List.countP_map, List.countP_filter,
    resultsIn, List.countP_filter]
  congr 1
  funext r
  exact Bool.and_comm _ _

/-- The tally that has recorded exactly these results, the latest first, and has these cases
pending. -/
def ofResults (pending : List Pending) (rs : List Result) : Tally :=
  { pending
    recorded := rs.map Result.path
    totals := .ofResults rs
    sections := sectionsOf rs
    failures := failuresOf rs }

variable {pending : List Pending} {rs : List Result}

theorem empty_eq_ofResults : empty = ofResults [] [] := rfl

theorem hasRecorded_ofResults {path : Path} :
    (ofResults pending rs).hasRecorded path = true ↔ ∃ r ∈ rs, r.path.Same path := by
  simp [hasRecorded, ofResults]

/-- A result of a case that has none yet is recorded, and the case is no longer pending. -/
theorem record_ofResults {r : Result} (h : ∀ s ∈ rs, ¬ s.path.Same r.path) :
    (ofResults pending rs).record r
      = ofResults (pending.filter fun p => !decide (p.path.Same r.path)) (r :: rs) := by
  have hnot : ¬ (ofResults pending rs).hasRecorded r.path = true := by
    rw [hasRecorded_ofResults]
    exact fun ⟨s, hs, hsame⟩ => h s hs hsame
  rw [record, if_neg hnot]
  simp only [ofResults, List.map_cons, Counts.ofResults_cons, failuresOf, List.filter_cons,
    Result.failing, sectionsOf, List.foldr_cons, mk.injEq, true_and]
  by_cases hpass : r.verdict = .pass <;> simp [hpass]

theorem record_ofResults_of_same {r s : Result} (hs : s ∈ rs) (h : s.path.Same r.path) :
    (ofResults pending rs).record r = ofResults pending rs := by
  rw [record, if_pos (hasRecorded_ofResults.2 ⟨s, hs, h⟩)]

end Tally

end Conformance
