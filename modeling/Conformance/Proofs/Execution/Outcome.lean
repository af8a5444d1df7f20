import Conformance.Proofs.Execution.Runs
import Conformance.Proofs.Pool.Accounting
import Conformance.Proofs.Pool.Success
import Conformance.Proofs.Report.Regression
import Conformance.Proofs.Report.Stored
import Mathlib.Algebra.Order.BigOperators.Group.List

/-!
# Exit code, output and report agree

A run that is given up prints nothing and stores nothing, and it has started no engine unless it
came as far as the scan. Any other run comes to one summary, and that is what is printed, what is
stored, and what the exit code says. A comparison reads the older report first and prints nothing
unless it can read both.
-/

namespace Conformance

/-! ### The summary of a run can be stored -/

theorem inWords_of_judge (expectation? : Option Expectation) (t : Trace) :
    ∀ r ∈ (judge expectation? t).2, r.InWords := by
  have hmilliseconds : t.budget.milliseconds < Word.size := Nat.mod_lt _ (by decide)
  unfold judge
  split
  case h_7 => split <;> simp [Reason.InWords]
  all_goals simp [Reason.InWords, hmilliseconds]

namespace Pool

theorem mem_of_firstFault? {items : List Item} {a : Abort} (h : firstFault? items = some a) :
    .error a ∈ items := by
  induction items with
  | nil => cases h
  | cons item rest ih =>
    cases item with
    | error b =>
      cases h
      exact List.mem_cons_self
    | ok d => exact List.mem_cons_of_mem _ (ih h)

theorem State.Settled.inWords {o : RunOptions} {items : List Item} {notes : List Note} {t : State}
    {s : Summary} (h : t.Settled o items notes) (hok : t.outcome = .ok s)
    (hsize : s.total < Word.size) : s.InWords := by
  rw [h.outcome (h.firstFault?_eq_none hok)] at hok
  cases hok
  have htotals := h.consistent.recorded_eq_totals
  have hsum := h.consistent.recorded_eq_sum
  have htotal : (t.tally.summary (t.tally.pending.map (·.id))).total
      = t.tally.totals.pass + t.tally.totals.fail + t.tally.totals.crash := rfl
  -- the total bounds every count, also those of the sections
  refine ⟨hsize, ?_, ?_, ?_, fun e he => ?_, fun f hf r hr => ?_⟩
  · show t.tally.totals.pass < Word.size
    omega
  · show t.tally.totals.fail < Word.size
    omega
  · show t.tally.totals.crash < Word.size
    omega
  · have hle : e.2.total ≤ (t.tally.sections.entries.map fun e => e.2.total).sum :=
      List.le_sum_of_mem (List.mem_map_of_mem he)
    rw [Counts.total] at hle
    exact ⟨by omega, by omega, by omega⟩
  · obtain ⟨result, hresult, -, rfl⟩ := h.exists_result_of_failure hf
    obtain ⟨n, -, hn⟩ := List.mem_filterMap.1 hresult
    cases n with
    | answered c a elapsed =>
      cases hn
      exact inWords_of_judge _ _ r hr
    | reported m =>
      cases hn
      cases hr
      trivial
    | skipped | handed | received | cancelled => cases hn

end Pool

/-! ### How a command line ends -/

namespace RunArguments

/-- The ways in which the arguments of a run may be carried out. `left` is what engine processes
left of the files. -/
inductive Ends (a : RunArguments) (cores : Nat) (files : FileTree) : FileTree → Execution → Prop
  | givenUp {abort : Abort} (h : a.prepare cores files = .error abort) :
    Ends a cores files files (.givenUp files abort)
  | concluded {left : FileTree} (r : a.Run cores files) (h : r.last.history = [] → left = files) :
    Ends a cores files left (a.conclude r.last left)

variable {a : RunArguments} {cores : Nat} {files left : FileTree}

theorem ends_execute (a : RunArguments) (cores : Nat) (host : ProcessHost FileTree)
    (files : FileTree) : ∃ left, a.Ends cores files left (a.execute cores host files) := by
  cases hprepare : a.prepare cores files with
  | error abort =>
    refine ⟨files, ?_⟩
    rw [execute, hprepare]
    exact .givenUp hprepare
  | ok p =>
    obtain ⟨r, left, _, hexecute, hleft⟩ := exists_run hprepare host
    exact ⟨left, hexecute ▸ .concluded r hleft⟩

/-- Nothing was done for this reason. -/
structure LeavesNothing (a : RunArguments) (files left : FileTree) (abort : Abort)
    (e : Execution) : Prop where
  exitCode : e.exitCode = 2
  output : e.output = ""
  kept : e.files = left
  /-- No engine was started, unless the scan broke off or the report could not be stored. -/
  engine : (∀ path error, abort ≠ .walk path error) →
    (∀ path error, a.report? = some path → abort ≠ .report path error) →
    e.history = [] ∧ left = files

/-- Exit code, output and files are those of a summary. -/
structure Shows (a : RunArguments) (left : FileTree) (s : Summary) (e : Execution) : Prop where
  output : e.output = if a.json then s.store ++ "\n" else s.report
  /-- The counts have to be words for the report to be read back. -/
  report : ∀ path, a.report? = some path → s.total < Word.size →
    DiffArguments.load e.files path = .ok s
  kept : a.report? = none → e.files = left
  exitCode : e.exitCode = if s.failed = 0 ∧ s.crashed = 0 ∧ s.notRun = [] then 0 else 1

theorem success_iff {s : Summary} :
    s.success = true ↔ s.failed = 0 ∧ s.crashed = 0 ∧ s.notRun = [] := by
  rw [Summary.success, Bool.and_eq_true, Bool.and_eq_true, beq_iff_eq, beq_iff_eq,
    List.isEmpty_iff, and_assoc]

theorem Ends.leavesNothing {e : Execution} (h : a.Ends cores files left e) {abort : Abort}
    (he : e.outcome = .error abort) : a.LeavesNothing files left abort e := by
  have hcode : e.exitCode = 2 := by rw [Execution.exitCode, he]; rfl
  cases h with
  | givenUp => exact ⟨hcode, rfl, rfl, fun _ _ => ⟨rfl, rfl⟩⟩
  | concluded r =>
    cases houtcome : r.last.outcome with
    | ok s =>
      rcases conclude_of_outcome houtcome left with ⟨_, _, heq⟩ | ⟨path, error, hreport, heq⟩
      · rw [heq] at he
        cases he
      · rw [heq] at he hcode ⊢
        cases he
        exact ⟨hcode, rfl, rfl, fun _ hne => absurd rfl (hne path error hreport)⟩
    | error fault =>
      have heq : a.conclude r.last left = ⟨.error fault, "", left, r.last.history⟩ := by
        rw [conclude, houtcome]
      rw [heq] at he hcode ⊢
      cases he
      refine ⟨hcode, rfl, rfl, fun hne => ?_⟩
      -- the pool has no faults of its own
      have hfault : Pool.firstFault? (r.prepared.root.items files) = some abort := by
        rw [← r.settled.fault]
        rw [Pool.State.outcome] at houtcome
        split at houtcome
        · cases houtcome
          assumption
        · cases houtcome
      obtain ⟨path, error, rfl⟩ :=
        CaseRoot.exists_walk_of_error_mem (Pool.mem_of_firstFault? hfault)
      exact absurd rfl (hne path error)

theorem Ends.exists_shows {e : Execution} (h : a.Ends cores files left e) {finding : Finding}
    (he : e.outcome = .ok finding) : ∃ (r : a.Run cores files) (s : Summary),
      e = a.conclude r.last left ∧ r.last.outcome = .ok s ∧ a.Shows left s e := by
  cases h with
  | givenUp => cases he
  | concluded r =>
    cases houtcome : r.last.outcome with
    | error fault =>
      rw [conclude, houtcome] at he
      cases he
    | ok s =>
      rcases conclude_of_outcome houtcome left with ⟨stored, hstored, heq⟩ | ⟨_, _, _, heq⟩
      · refine ⟨r, s, rfl, houtcome, ?_⟩
        rw [heq]
        refine ⟨rfl, fun path hpath hsize => ?_, fun hnone => ?_, ?_⟩
        · exact Summary.load_of_stored (r.settled.inWords houtcome hsize) hpath hstored
        · rw [RunArguments.stored, hnone] at hstored
          exact (Except.ok.inj hstored).symm
        · show (Finding.ofBool s.success).exitCode = _
          rw [Finding.exitCode_ofBool]
          simp only [success_iff]
      · rw [heq] at he
        cases he

end RunArguments

namespace DiffArguments

variable {d : DiffArguments} {files : FileTree}

/-- The older report is read first, and if it cannot be read nothing else is done. -/
theorem execute_of_old {abort : Abort} (h : load files d.old = .error abort) :
    d.execute files = .givenUp files abort := by
  rw [execute, comparison, h]
  rfl

theorem execute_of_new {old : Summary} {abort : Abort} (hold : load files d.old = .ok old)
    (h : load files d.new = .error abort) : d.execute files = .givenUp files abort := by
  rw [execute, comparison, hold, h]
  rfl

theorem exitCode_execute {old new : Summary} (hold : load files d.old = .ok old)
    (hnew : load files d.new = .ok new) :
    (d.execute files).exitCode = if ∃ id ∈ new.failingIds, id ∉ old.failingIds then 1 else 0 := by
  have hexecute : (d.execute files).exitCode
      = (Finding.ofBool !(Comparison.between old new).regressed).exitCode := by
    rw [execute, comparison, hold, hnew]
    rfl
  rw [hexecute, Finding.exitCode_ofBool]
  simp only [← Comparison.regressed_between_iff]
  cases (Comparison.between old new).regressed <;> rfl

end DiffArguments

/-- However a run is carried out, an error leaves no output and no report, and unless the scan broke
off or the report could not be stored it comes before any engine is started. Otherwise output,
report and exit code are those of the one summary that the run came to. A comparison that cannot
read the older report, or else the newer one, prints nothing, and otherwise its exit code says
whether something fails in the newer one that does not in the older. -/
theorem Command.execution_agrees (cores : Nat) (files : FileTree) (host : ProcessHost FileTree) :
    (∀ a : RunArguments,
      (∃ left, a.Ends cores files left ((Command.run a).execute cores host files)) ∧
        ∀ left e, a.Ends cores files left e →
          (∀ abort, e.outcome = .error abort → a.LeavesNothing files left abort e) ∧
            ∀ finding, e.outcome = .ok finding → ∃ (r : a.Run cores files) (s : Summary),
              e = a.conclude r.last left ∧ r.last.outcome = .ok s ∧ a.Shows left s e) ∧
    ∀ d : DiffArguments,
      let e := (Command.diff d).execute cores host files
      (∀ abort, DiffArguments.load files d.old = .error abort →
          e.outcome = .error abort ∧ e.output = "") ∧
        (∀ old abort, DiffArguments.load files d.old = .ok old →
          DiffArguments.load files d.new = .error abort →
            e.outcome = .error abort ∧ e.output = "") ∧
        ∀ old new, DiffArguments.load files d.old = .ok old →
          DiffArguments.load files d.new = .ok new →
            e.exitCode = if ∃ id ∈ new.failingIds, id ∉ old.failingIds then 1 else 0 := by
  refine ⟨fun a => ⟨a.ends_execute cores host files, fun left e h => ⟨?_, ?_⟩⟩,
    fun d => ⟨?_, ?_, ?_⟩⟩
  · intro abort he
    exact h.leavesNothing he
  · intro finding he
    exact h.exists_shows he
  · intro abort hold
    show (d.execute files).outcome = _ ∧ (d.execute files).output = _
    rw [DiffArguments.execute_of_old hold]
    exact ⟨rfl, rfl⟩
  · intro old abort hold hnew
    show (d.execute files).outcome = _ ∧ (d.execute files).output = _
    rw [DiffArguments.execute_of_new hold hnew]
    exact ⟨rfl, rfl⟩
  · intro old new hold hnew
    exact DiffArguments.exitCode_execute hold hnew

end Conformance
