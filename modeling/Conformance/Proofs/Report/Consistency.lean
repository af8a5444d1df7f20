import Conformance.Proofs.Report.Calls

/-!
# The numbers of tallies and summaries agree

A tally keeps totals, counts for each section, entries of what did not pass, and the paths of what
is recorded and what is pending. In every state that calls can bring about, these say the same: each
recorded path is counted once in the totals and once in its section, and each entry once among those
that did not pass. Closing the tally keeps the numbers together, whichever way the run ended.
-/

namespace Conformance

/-- The numbers of a tally agree, and its paths are the paths of the calls. -/
structure Tally.Consistent (calls : List Tally.Call) (t : Tally) : Prop where
  recorded_eq_totals : t.recordedCount = t.totals.pass + t.totals.fail + t.totals.crash
  recorded_eq_sum : t.recordedCount = (t.sections.entries.map fun e => e.2.total).sum
  section_ne_zero : ∀ e ∈ t.sections.entries, e.2.total ≠ 0
  failing_eq : t.failingCount = t.totals.fail + t.totals.crash
  failing_section : ∀ key, t.failures.countP (·.sectionKey = key)
    = ((t.sections.find? key).getD .zero).fail + ((t.sections.find? key).getD .zero).crash
  disjoint : ∀ p ∈ t.pending, ∀ q ∈ t.recorded, ¬ p.path.Same q
  paths : ((t.pending.map Pending.path ++ t.recorded).map Path.parts).Perm
    (calls.map (·.path.parts)).dedup

/-- The numbers of a summary agree, and its lists are in order. -/
structure Summary.Consistent (s : Summary) : Prop where
  total_eq : s.total = s.passed + s.failed + s.crashed
  total_eq_sum : s.total = (s.sections.entries.map fun e => e.2.total).sum
  failures_eq : s.failures.length = s.failed + s.crashed
  failures_sorted : s.failures.Pairwise fun a b => a.Before b ∨ a.key = b.key
  notRun_sorted : s.notRun.Pairwise fun a b => Text.Utf8.octets a ≤ Text.Utf8.octets b
  success_iff : s.success = true ↔ s.failures = [] ∧ s.notRun = []

namespace Tally

variable {calls : List Call} {pending : List Pending} {rs : List Result}

theorem Ledger.paths_perm (h : Ledger calls pending rs) :
    (pending.map (·.path.parts) ++ rs.map (·.path.parts)).Perm
      (calls.map (·.path.parts)).dedup := by
  refine (List.perm_ext_iff_of_nodup h.nodup (List.nodup_dedup _)).2 fun parts => ?_
  rw [List.mem_append, h.covers, List.mem_dedup]

theorem Ledger.length_add_length (h : Ledger calls pending rs) :
    rs.length + pending.length = (calls.map (·.path.parts)).dedup.length := by
  have := h.paths_perm.length_eq
  rw [List.length_append, List.length_map, List.length_map] at this
  omega

theorem Ledger.consistent (h : Ledger calls pending rs) :
    (ofResults pending rs).Consistent calls where
  recorded_eq_totals := by
    have := Counts.total_ofResults rs
    rw [Counts.total] at this
    rw [recordedCount, ofResults, List.length_map, this]
  recorded_eq_sum := by
    rw [recordedCount, ofResults, List.length_map, sum_sectionsOf]
  section_ne_zero _ he := total_ne_zero_of_mem_sectionsOf he
  failing_eq := length_failuresOf rs
  failing_section key := by
    have := countP_failuresOf rs key
    rw [← getD_find?_sectionsOf] at this
    exact this
  disjoint p hp q hq hsame := by
    obtain ⟨r, hr, rfl⟩ := List.mem_map.1 hq
    exact h.not_same hp hr hsame
  paths := by
    rw [List.map_append, List.map_map, ofResults, List.map_map]
    exact h.paths_perm

theorem consistent_ofResults (rs : List Result) (notRun : List String) :
    (Summary.ofResults rs notRun).Consistent where
  total_eq := by
    have htotal := Counts.total_ofResults rs
    rw [Counts.ofResults_eq] at htotal
    exact htotal.symm
  total_eq_sum := by
    rw [Summary.ofResults, ← sectionsOf_eq_ofList, sum_sectionsOf]
  failures_eq := by
    rw [Summary.length_failures_ofResults, Summary.failed_add_crashed_ofResults]
  failures_sorted := Summary.sorted_failures_ofResults rs notRun
  notRun_sorted := Text.pairwise_sort notRun
  success_iff := by
    have hlength := Summary.length_failures_ofResults rs notRun
    have hcounts := Summary.failed_add_crashed_ofResults rs notRun
    rw [← List.length_eq_zero_iff, Summary.success, Bool.and_eq_true, Bool.and_eq_true, beq_iff_eq,
      beq_iff_eq, List.isEmpty_iff]
    refine and_congr_left fun _ => ?_
    omega

/-- In every state that calls lead to the numbers agree, and so they do in the summary, which
accounts for every path of the calls. Its entries are sorted. They increase strictly as long as no
two of one name are printed with one path, which is so if the paths are printed apart. -/
theorem consistent_ofCalls (calls : List Call) :
    (ofCalls calls).Consistent calls ∧
      ∀ c : Completion, ((ofCalls calls).finish c).Consistent ∧
        ((ofCalls calls).finish c).total + ((ofCalls calls).finish c).notRun.length
          = (calls.map (·.path.parts)).dedup.length ∧
        (c = .complete → ((ofCalls calls).finish c).notRun = []) ∧
        (((ofCalls calls).finish c).failures.Pairwise Failure.Before
          ↔ ((ofCalls calls).finish c).Untied) ∧
        (Path.PrintedApart (calls.map Call.path) →
          ((ofCalls calls).finish c).failures.Pairwise Failure.Before) := by
  have h := ledger_ofCalls calls
  refine ⟨h.tally ▸ h.consistent, fun c => ?_⟩
  have hfinish := finish_ofCalls calls c
  have hconsistent : ((ofCalls calls).finish c).Consistent := hfinish ▸ consistent_ofResults _ _
  have hincreasing := Summary.pairwise_before_iff_untied hconsistent.failures_sorted
  refine ⟨hconsistent, ?_, ?_, hincreasing, fun happart => hincreasing.2 (untied_finish happart c)⟩
  · have hclosing := c.length_crashed_add_length_left (ofCalls calls).pending
    have hpaths := h.length_add_length
    rw [hfinish]
    simp only [closed, Summary.ofResults, Text.sort, List.length_mergeSort, List.length_map,
      List.length_append, List.length_reverse]
    omega
  · rintro rfl
    rw [hfinish]
    exact List.mergeSort_nil

theorem not_increasing_twins :
    ¬ ((ofCalls twins).finish .complete).failures.Pairwise Failure.Before := by
  rw [failures_finish_of_key_eq rfl (key_twins twins (List.mem_cons_self ..))]
  decide

end Tally

end Conformance
