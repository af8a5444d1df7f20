import Conformance.Proofs.Report.Ties

/-!
# How a tally is closed

Closing a tally records what is still pending as crashes, in path order, or leaves it out, and sorts
the entries that did not pass. Both ways the summary is that of a tally of results with distinct
paths (`finish_ofResults`): those that came, and after them the crashes.
-/

namespace Conformance

/-- The result of a case that was announced and never reported. -/
def Pending.crash (p : Pending) : Result := .notExecuted p.id p.path p.sectionKey

theorem Pending.inPathOrder_perm (pending : List Pending) : (inPathOrder pending).Perm pending :=
  List.mergeSort_perm _ _

namespace Completion

/-- What of the pending cases a run that ended so leaves out. -/
def left : Completion → List Pending → List Pending
  | .complete, _ => []
  | .cancelled, pending => pending

/-- What of the pending cases a run that ended so takes for crashes. -/
def crashed : Completion → List Pending → List Result
  | .complete, pending => (Pending.inPathOrder pending).map Pending.crash
  | .cancelled, _ => []

theorem length_crashed_add_length_left (c : Completion) (pending : List Pending) :
    (c.crashed pending).length + (c.left pending).length = pending.length := by
  cases c <;> simp [crashed, left, Pending.inPathOrder]

end Completion

namespace Tally

variable {pending : List Pending} {rs : List Result}

theorem success_summary_iff (notRun : List String) :
    ((ofResults pending rs).summary notRun).success = true ↔ failuresOf rs = [] ∧ notRun = [] := by
  have hlength := length_failuresOf rs
  have hfail : failuresOf rs = [] ↔
      (Counts.ofResults rs).fail = 0 ∧ (Counts.ofResults rs).crash = 0 := by
    rw [← List.length_eq_zero_iff]
    omega
  have hnot : Text.sort notRun = [] ↔ notRun = [] := mergeSort_eq_nil_iff _
  simp only [Summary.success, summary, ofResults, Bool.and_eq_true, beq_iff_eq, List.isEmpty_iff,
    hfail, hnot]

/-! ### Recording one result after the other -/

theorem foldl_record_ofResults {new : List Result}
    (h : Path.Distinct ((new.reverse ++ rs).map Result.path)) :
    new.foldl record (ofResults pending rs)
      = ofResults (pending.filter fun p => new.all fun r => !decide (p.path.Same r.path))
          (new.reverse ++ rs) := by
  induction new generalizing pending rs with
  | nil => simp
  | cons r new ih =>
    have hdistinct : Path.Distinct ((new.reverse ++ r :: rs).map Result.path) := by
      simpa using h
    have hfresh : ∀ s ∈ rs, ¬ s.path.Same r.path := by
      intro s hs hsame
      have hcons : (r :: rs).Pairwise fun a b => ¬ a.path.Same b.path :=
        (List.pairwise_append.1 (List.pairwise_map.1 hdistinct)).2.1
      exact (List.pairwise_cons.1 hcons).1 s hs hsame.symm
    rw [List.foldl_cons, record_ofResults hfresh, ih hdistinct, List.filter_filter]
    simp only [List.all_cons, List.reverse_cons, List.append_assoc, List.singleton_append,
      Bool.and_comm]

theorem foldl_record_empty (h : Path.Distinct (rs.map Result.path)) :
    rs.foldl record empty = ofResults [] rs.reverse := by
  have hrev : Path.Distinct ((rs.reverse ++ []).map Result.path) := by
    rw [List.append_nil]
    exact h.perm ((List.reverse_perm rs).symm.map _)
  rw [empty_eq_ofResults, foldl_record_ofResults hrev, List.filter_nil, List.append_nil]

theorem map_path_crash (pending : List Pending) :
    (pending.map Pending.crash).map Result.path = pending.map Pending.path := by
  rw [List.map_map]
  rfl

theorem distinct_crashed_append
    (h : Path.Distinct (pending.map Pending.path ++ rs.map Result.path)) (c : Completion) :
    Path.Distinct (((c.crashed pending).reverse ++ rs).map Result.path) := by
  cases c with
  | complete =>
    have hcrashed :
        (Completion.complete.crashed pending).reverse.Perm (pending.map Pending.crash) :=
      (List.reverse_perm _).trans ((Pending.inPathOrder_perm pending).map _)
    rw [← map_path_crash, ← List.map_append] at h
    exact h.perm ((hcrashed.symm.append_right rs).map Result.path)
  | cancelled => exact h.sublist (List.sublist_append_right _ _)

theorem crashPending_ofResults
    (h : Path.Distinct (pending.map Pending.path ++ rs.map Result.path)) :
    (ofResults pending rs).crashPending
      = ofResults [] ((Completion.complete.crashed pending).reverse ++ rs) := by
  have hfold : (ofResults pending rs).crashPending
      = (Completion.complete.crashed pending).foldl record (ofResults pending rs) := by
    rw [Completion.crashed, List.foldl_map]
    rfl
  -- every pending case is settled by its own crash
  have hnone : (pending.filter fun p => (Completion.complete.crashed pending).all
      fun r => !decide (p.path.Same r.path)) = [] := by
    rw [List.filter_eq_nil_iff]
    intro p hp hall
    have hcrash := List.mem_map_of_mem (f := Pending.crash)
      ((Pending.inPathOrder_perm pending).mem_iff.2 hp)
    have := List.all_eq_true.1 hall p.crash hcrash
    simp [Pending.crash, Result.notExecuted, Result.make, Path.Same] at this
  rw [hfold, foldl_record_ofResults (distinct_crashed_append h .complete), hnone]

theorem finish_complete {t : Tally} (h : t.pending = []) : t.finish .complete = t.summary [] := by
  rw [finish, crashPending, h, Pending.inPathOrder, List.mergeSort_nil, List.foldl_nil]

/-- Entries that all tie stay as they came. -/
theorem failures_finish_of_key_eq {t : Tally} {k : String ×ₗ String} (hpending : t.pending = [])
    (h : ∀ f ∈ t.failures, f.key = k) : (t.finish .complete).failures = t.failures.reverse := by
  rw [finish_complete hpending]
  refine List.mergeSort_of_pairwise (List.pairwise_of_forall_mem_list fun f hf g hg => ?_)
  rw [List.mem_reverse] at hf hg
  rw [Failure.le_iff, h f hf, h g hg]

/-- Closing a tally takes each pending case for a crash, or leaves it out. -/
theorem finish_ofResults (h : Path.Distinct (pending.map Pending.path ++ rs.map Result.path))
    (c : Completion) :
    (ofResults pending rs).finish c
      = .ofResults (rs.reverse ++ c.crashed pending) ((c.left pending).map Pending.id) := by
  cases c with
  | complete =>
    rw [finish, crashPending_ofResults h, summary_ofResults, List.reverse_append,
      List.reverse_reverse]
    rfl
  | cancelled =>
    rw [finish, summary_ofResults, Completion.crashed, List.append_nil]
    rfl

end Tally

end Conformance
