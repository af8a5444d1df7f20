import Conformance.Proofs.Path
import Conformance.Proofs.Report.Results
import Conformance.Proofs.Text.Octets
import Mathlib.Data.List.Pairwise
import Mathlib.Data.Prod.Lex

/-!
# Ties

The entries of a summary are sorted by name and printed path. Paths that differ may be printed
alike, and entries that agree in both are not told apart: the sort leaves them as they came. So the
order in which results come decides how tied entries stand, and nothing else of the summary
(`Summary.sameUpToTies_ofResults`).

What rules ties out is that the paths are printed apart, as paths are that are spelled as texts.
Then the entries are strictly increasing, and one order is left for them.
-/

namespace Conformance

theorem mergeSort_eq_nil_iff {α : Type} (le : α → α → Bool) {l : List α} :
    l.mergeSort le = [] ↔ l = [] := by
  rw [← List.length_eq_zero_iff, List.length_mergeSort, List.length_eq_zero_iff]

/-- Lists with the same elements and, place by place, the same keys are equal if a key says which
element it belongs to. -/
theorem eq_of_perm_of_map_eq {α κ : Type} {key : α → κ} {l l' : List α} (hp : l.Perm l')
    (hkeys : l.map key = l'.map key) (hnodup : (l.map key).Nodup) : l = l' := by
  refine List.ext_getElem hp.length_eq fun i hi hi' => ?_
  have hkey : key l[i] = key l'[i] := by
    have hget := List.getElem_of_eq hkeys (i := i) (by rwa [List.length_map])
    rwa [List.getElem_map, List.getElem_map] at hget
  exact List.inj_on_of_nodup_map hnodup (List.getElem_mem hi)
    (hp.mem_iff.2 (List.getElem_mem hi')) hkey

namespace Path

/-- The path is spelled as a text. -/
def IsText (p : Path) : Prop := ∃ s, p = .ofText s

/-- Paths that differ are printed differently. -/
def PrintedApart (paths : List Path) : Prop :=
  ∀ p ∈ paths, ∀ q ∈ paths, p.text = q.text → p.Same q

instance (paths : List Path) : Decidable (PrintedApart paths) :=
  inferInstanceAs (Decidable (∀ p ∈ paths, ∀ q ∈ paths, _))

theorem PrintedApart.subset {ps qs : List Path} (h : PrintedApart ps) (hs : ∀ q ∈ qs, q ∈ ps) :
    PrintedApart qs :=
  fun p hp q hq htext => h p (hs p hp) q (hs q hq) htext

/-- A case whose name has an octet in it that is no text. -/
def stray (octet : UInt8) : Path :=
  ⟨Text.Utf8.octets "cases/a" ++ octet :: Text.Utf8.octets ".js"⟩

/-- Whatever is no text is printed alike. -/
example : (stray 0xff).text = (stray 0xfe).text ∧ ¬ (stray 0xff).Same (stray 0xfe) := by decide

theorem printedApart_of_isText {paths : List Path} (h : ∀ p ∈ paths, p.IsText) :
    PrintedApart paths := by
  intro p hp q hq htext
  obtain ⟨s, rfl⟩ := h p hp
  obtain ⟨t, rfl⟩ := h q hq
  rw [text_ofText, text_ofText] at htext
  rw [htext]
  rfl

end Path

namespace Failure

/-- What entries are sorted by. -/
def key (f : Failure) : String ×ₗ String := toLex (f.id, f.path)

/-- By name, then by printed path, in the order of octets. -/
def Before (a b : Failure) : Prop :=
  Text.Utf8.octets a.id < Text.Utf8.octets b.id ∨
    a.id = b.id ∧ Text.Utf8.octets a.path < Text.Utf8.octets b.path

instance : DecidableRel Before := fun _ _ => inferInstanceAs (Decidable (_ ∨ _))

theorem le_iff {a b : Failure} : le a b = true ↔ a.key ≤ b.key := by
  simp [le, key, Prod.Lex.toLex_le_toLex]

theorem before_iff {a b : Failure} : Before a b ↔ a.key < b.key := by
  rw [Before, Text.Utf8.octets_lt_octets, Text.Utf8.octets_lt_octets, key, key,
    Prod.Lex.toLex_lt_toLex]

theorem pairwise_key_le_mergeSort (fs : List Failure) :
    (fs.mergeSort le).Pairwise fun a b => a.key ≤ b.key := by
  refine (List.pairwise_mergeSort (fun a b c hab hbc => ?_) (fun a b => ?_) fs).imp le_iff.1
  · rw [le_iff] at *
    exact hab.trans hbc
  · rw [Bool.or_eq_true, le_iff, le_iff]
    exact le_total a.key b.key

/-- The keys of sorted entries do not depend on the order they came in. -/
theorem map_key_mergeSort_eq_of_perm {fs fs' : List Failure} (hp : fs.Perm fs') :
    (fs.mergeSort le).map key = (fs'.mergeSort le).map key := by
  have hsorted (fs : List Failure) : ((fs.mergeSort le).map key).Pairwise (· ≤ ·) :=
    List.pairwise_map.2 (pairwise_key_le_mergeSort fs)
  have hsort : (fs.mergeSort le).Perm (fs'.mergeSort le) :=
    (List.mergeSort_perm _ _).trans (hp.trans (List.mergeSort_perm _ _).symm)
  exact (hsort.map key).eq_of_pairwise (fun _ _ _ _ => le_antisymm) (hsorted fs) (hsorted fs')

end Failure

/-- How many of the results have each verdict. -/
def Counts.among (rs : List Result) : Counts :=
  ⟨rs.countP (·.verdict = .pass), rs.countP (·.verdict = .fail), rs.countP (·.verdict = .crash)⟩

namespace Summary

/-- No two entries agree in name and printed path. -/
def Untied (s : Summary) : Prop := (s.failures.map Failure.key).Nodup

/-- The summaries differ at most in how entries stand that agree in name and printed path. -/
structure SameUpToTies (s s' : Summary) : Prop where
  rest : { s with failures := [] } = { s' with failures := [] }
  failures : s.failures.Perm s'.failures
  keys : s.failures.map Failure.key = s'.failures.map Failure.key

namespace SameUpToTies

variable {s s' s'' : Summary}

theorem symm (h : s.SameUpToTies s') : s'.SameUpToTies s :=
  ⟨h.rest.symm, h.failures.symm, h.keys.symm⟩

theorem trans (h : s.SameUpToTies s') (h' : s'.SameUpToTies s'') : s.SameUpToTies s'' :=
  ⟨h.rest.trans h'.rest, h.failures.trans h'.failures, h.keys.trans h'.keys⟩

theorem eq (h : s.SameUpToTies s') (huntied : s.Untied) : s = s' := by
  have hfailures : s.failures = s'.failures := eq_of_perm_of_map_eq h.failures h.keys huntied
  have hrest := h.rest
  obtain ⟨⟩ := s
  obtain ⟨⟩ := s'
  simp only [mk.injEq] at hrest hfailures ⊢
  exact ⟨hrest.1, hrest.2.1, hrest.2.2.1, hrest.2.2.2.1, hrest.2.2.2.2.1, hfailures,
    hrest.2.2.2.2.2.2⟩

end SameUpToTies

/-- The summary of results, one for each case, in the order in which they came, and of the names of
the cases left out. -/
def ofResults (rs : List Result) (notRun : List String) : Summary :=
  { total := rs.length
    passed := (Counts.among rs).pass
    failed := (Counts.among rs).fail
    crashed := (Counts.among rs).crash
    sections := .ofList ((rs.map Result.sectionKey).map fun key =>
      (key, .among (Tally.resultsIn key rs)))
    failures := (Tally.failuresOf rs).mergeSort Failure.le
    notRun := Text.sort notRun }

end Summary

namespace Tally

theorem sectionsOf_eq_ofList (rs : List Result) :
    sectionsOf rs
      = .ofList ((rs.map Result.sectionKey).map fun key => (key, .among (resultsIn key rs))) := by
  apply Table.ext_find?
  intro key
  rw [Table.find?_ofList_map fun key => Counts.among (resultsIn key rs), find?_sectionsOf,
    Counts.ofResults_eq]
  have hmem : key ∈ rs.map Result.sectionKey ↔ ¬ resultsIn key rs = [] := by
    simp [resultsIn, List.filter_eq_nil_iff]
  by_cases h : resultsIn key rs = []
  · rw [if_pos h, if_neg fun hkey => hmem.1 hkey h]
  · rw [if_neg h, if_pos (hmem.2 h)]
    rfl

/-- The summary of a tally is that of its results, the first ones first. -/
theorem summary_ofResults (pending : List Pending) (rs : List Result) (notRun : List String) :
    (ofResults pending rs).summary notRun = .ofResults rs.reverse notRun := by
  have hp : rs.Perm rs.reverse := (List.reverse_perm rs).symm
  have hcounts : Counts.ofResults rs = Counts.among rs.reverse :=
    (Counts.ofResults_perm hp).trans (Counts.ofResults_eq _)
  have htotal := Counts.total_ofResults rs.reverse
  rw [Counts.ofResults_eq, ← Counts.among] at htotal
  have hfailures : (failuresOf rs).reverse = failuresOf rs.reverse := by
    rw [failuresOf, failuresOf, List.filter_reverse, List.map_reverse]
  simp only [summary, ofResults, Summary.ofResults, hcounts, htotal, sectionsOf_perm hp,
    sectionsOf_eq_ofList, hfailures]

end Tally

namespace Summary

variable {rs rs' : List Result} {notRun notRun' : List String}

theorem failed_add_crashed_ofResults (rs : List Result) (notRun : List String) :
    (ofResults rs notRun).failed + (ofResults rs notRun).crashed = rs.countP Result.failing := by
  rw [← Counts.fail_add_crash_ofResults, Counts.ofResults_eq]
  rfl

theorem length_failures_ofResults (rs : List Result) (notRun : List String) :
    (ofResults rs notRun).failures.length = rs.countP Result.failing := by
  rw [ofResults, List.length_mergeSort, Tally.length_failuresOf, Counts.fail_add_crash_ofResults]

/-- The order of the results shows in the order of tied entries at most. -/
theorem sameUpToTies_ofResults (hrs : rs.Perm rs') (hnotRun : notRun.Perm notRun') :
    (ofResults rs notRun).SameUpToTies (ofResults rs' notRun') where
  rest := by
    have hcounts : Counts.among rs = Counts.among rs' := by
      simp only [Counts.among, hrs.countP_eq]
    simp only [ofResults, hrs.length_eq, hcounts, ← Tally.sectionsOf_eq_ofList,
      Tally.sectionsOf_perm hrs, Text.sort_eq_of_perm hnotRun]
  failures :=
    (List.mergeSort_perm _ _).trans (((hrs.filter _).map _).trans (List.mergeSort_perm _ _).symm)
  keys := Failure.map_key_mergeSort_eq_of_perm ((hrs.filter _).map _)

/-- Entries of paths that are printed apart do not tie. -/
theorem untied_ofResults (hdistinct : Path.Distinct (rs.map Result.path))
    (happart : Path.PrintedApart (rs.map Result.path)) (notRun : List String) :
    (ofResults rs notRun).Untied := by
  have hrs : (rs.filter Result.failing).Pairwise fun r s => ¬ r.path.Same s.path :=
    (List.pairwise_map.1 hdistinct).filter _
  have hmem {r : Result} (hr : r ∈ rs.filter Result.failing) : r.path ∈ rs.map Result.path :=
    List.mem_map_of_mem (List.mem_of_mem_filter hr)
  refine ((List.mergeSort_perm _ _).map Failure.key).nodup_iff.2 ?_
  rw [Tally.failuresOf, List.map_map, List.Nodup, List.pairwise_map]
  refine hrs.imp_of_mem fun {r s} hr hs hne heq => hne ?_
  exact happart _ (hmem hr) _ (hmem hs) (Prod.mk.inj (toLex.injective heq)).2

theorem sorted_failures_ofResults (rs : List Result) (notRun : List String) :
    (ofResults rs notRun).failures.Pairwise fun a b => a.Before b ∨ a.key = b.key :=
  (Failure.pairwise_key_le_mergeSort _).imp fun hle =>
    hle.lt_or_eq.imp_left Failure.before_iff.2

/-- Sorted entries increase strictly if no two tie. -/
theorem pairwise_before_iff_untied {s : Summary}
    (h : s.failures.Pairwise fun a b => a.Before b ∨ a.key = b.key) :
    s.failures.Pairwise Failure.Before ↔ s.Untied := by
  rw [Untied, List.Nodup, List.pairwise_map]
  constructor
  · intro hbefore
    exact hbefore.imp fun hlt => (Failure.before_iff.1 hlt).ne
  · intro hne
    exact h.imp₂ (fun _ _ hor hne => Or.resolve_right hor hne) hne

end Summary

end Conformance
