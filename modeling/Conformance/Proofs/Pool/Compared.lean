import Conformance.Proofs.Pool.Accounting
import Conformance.Proofs.Pool.Success
import Conformance.Proofs.Report.Regression

/-!
# What the comparison of two runs finds

In a run that nobody cancelled each accepted item has one result, and the names that fail are those
of the items whose results are no pass. A comparison of two such runs over the same items goes by
these names. So a case that passed and now fails is found, unless another case of the same name
failed before: the name then fails in both, and the regression does not show.
-/

namespace Conformance.Pool

/-- Some result of the item is no pass. -/
def Failed (o : RunOptions) (notes : List Note) (d : Discovered) : Prop :=
  ∃ r ∈ notes.filterMap (Note.result? o), r.Of d ∧ r.verdict ≠ .pass

/-- Some result of the item is a pass. -/
def Passed (o : RunOptions) (notes : List Note) (d : Discovered) : Prop :=
  ∃ r ∈ notes.filterMap (Note.result? o), r.Of d ∧ r.verdict = .pass

namespace State

variable {o o' : RunOptions} {items : List Item} {found : List Discovered} {notes : List Note}
  {t t' : State} {s s' : Summary}

namespace Settled

variable (h : t.Settled o items notes)
include h

theorem ofResult_mem_failures (hdistinct : Path.Distinct ((o.scope items).map Discovered.path))
    {r : Result} (hr : r ∈ notes.filterMap (Note.result? o)) (hv : r.verdict ≠ .pass)
    (notRun : List String) : .ofResult r ∈ (t.tally.summary notRun).failures := by
  rw [h.tally_eq]
  have hcounted := (h.counted_perm hdistinct).mem_iff.2 hr
  exact List.mem_mergeSort.2 (List.mem_reverse.2 (List.mem_map.2
    ⟨r, List.mem_filter.2 ⟨hcounted, decide_eq_true hv⟩, rfl⟩))

/-- The names that fail are those of the items that do. -/
theorem mem_failingIds_iff (hdistinct : Path.Distinct ((o.scope items).map Discovered.path))
    (hok : t.outcome = .ok s) {id : String} :
    id ∈ s.failingIds ↔ ∃ d ∈ o.scope items, d.id = id ∧ Failed o notes d := by
  rw [h.outcome (h.firstFault?_eq_none hok)] at hok
  cases hok
  rw [Summary.failingIds, List.mem_map]
  constructor
  · rintro ⟨f, hf, rfl⟩
    obtain ⟨r, hr, hv, rfl⟩ := h.exists_result_of_failure hf
    obtain ⟨d, hd, hof⟩ := h.exists_item_of_result hr
    exact ⟨d, hd, hof.id.symm, r, hr, hof, hv⟩
  · rintro ⟨d, _, rfl, r, hr, hof, hv⟩
    exact ⟨_, h.ofResult_mem_failures hdistinct hr hv _, hof.id⟩

/-- In a run that was not cancelled an item has passed or failed, and not both. -/
theorem passed_iff_not_failed (hdistinct : Path.Distinct ((o.scope items).map Discovered.path))
    (hquiet : t.cancelled = false) {d : Discovered} (hd : d ∈ o.scope items) :
    Passed o notes d ↔ ¬ Failed o notes d := by
  constructor
  · rintro ⟨r, hr, hof, hpass⟩ ⟨r', hr', hof', hfail⟩
    have hresults := h.distinct_results hdistinct
    rw [Path.distinct_iff_nodup, List.map_map] at hresults
    have hparts : r.path.parts = r'.path.parts := by rw [hof.path, hof'.path]
    rw [List.inj_on_of_nodup_map hresults hr hr' hparts] at hpass
    exact hfail hpass
  · intro hnot
    rcases h.skipped_or_exists_result hd with hskipped | ⟨r, hr, hof⟩
    · rw [h.skipped d hskipped] at hquiet
      cases hquiet
    · exact ⟨r, hr, hof, by_contra fun hfail => hnot ⟨r, hr, hof, hfail⟩⟩

end Settled

/-- A run over what was found that came to its end and that nobody cancelled, and its summary. -/
structure CompleteRun (o : RunOptions) (found : List Discovered) (moves : List Move) (t : State)
    (s : Summary) : Prop where
  follow : (start o (found.map .ok) false).follow o moves = some t
  finished : t.finished = true
  quiet : t.cancelled = false
  outcome : t.outcome = .ok s

/-- What happened in a run over what was found. -/
abbrev notesOf (o : RunOptions) (found : List Discovered) (moves : List Move) : List Note :=
  (start o (found.map .ok) false).journal o moves

variable {moves moves' : List Move}

theorem CompleteRun.mem_failingIds_iff (h : CompleteRun o found moves t s)
    (hdistinct : Path.Distinct ((found.filter o.accepts).map Discovered.path)) {id : String} :
    id ∈ s.failingIds ↔
      ∃ d ∈ found.filter o.accepts, d.id = id ∧ Failed o (notesOf o found moves) d := by
  rw [← scope_map_ok] at hdistinct ⊢
  exact (settled_of_follow h.follow h.finished).mem_failingIds_iff hdistinct h.outcome

theorem CompleteRun.passed_iff_not_failed (h : CompleteRun o found moves t s)
    (hdistinct : Path.Distinct ((found.filter o.accepts).map Discovered.path)) {d : Discovered}
    (hd : d ∈ found.filter o.accepts) :
    Passed o (notesOf o found moves) d ↔ ¬ Failed o (notesOf o found moves) d := by
  rw [← scope_map_ok] at hdistinct hd
  exact (settled_of_follow h.follow h.finished).passed_iff_not_failed hdistinct h.quiet hd

/-- The comparison of two complete runs over the same items finds a regression exactly if an item
failed in the newer run and all items of its name passed in the older one. So it misses none where
each name is that of one item. -/
theorem regressed_iff_of_complete
    (haccepted : found.filter o'.accepts = found.filter o.accepts)
    (hdistinct : Path.Distinct ((found.filter o.accepts).map Discovered.path))
    (hold : CompleteRun o found moves t s) (hnew : CompleteRun o' found moves' t' s') :
    ((Comparison.between s s').regressed = true ↔
      ∃ d ∈ found.filter o.accepts, Failed o' (notesOf o' found moves') d ∧
        ∀ d' ∈ found.filter o.accepts, d'.id = d.id → Passed o (notesOf o found moves) d') ∧
    (((found.filter o.accepts).map Discovered.id).Nodup →
      ∀ d ∈ found.filter o.accepts, Passed o (notesOf o found moves) d →
        Failed o' (notesOf o' found moves') d → (Comparison.between s s').regressed = true) := by
  have hregressed : (Comparison.between s s').regressed = true ↔
      ∃ d ∈ found.filter o.accepts, Failed o' (notesOf o' found moves') d ∧
        ∀ d' ∈ found.filter o.accepts, d'.id = d.id → Passed o (notesOf o found moves) d' := by
    rw [Comparison.regressed_between_iff]
    constructor
    · rintro ⟨id, hfails, hpassed⟩
      obtain ⟨d, hd, rfl, hfailed⟩ :=
        (hnew.mem_failingIds_iff (haccepted ▸ hdistinct)).1 hfails
      rw [haccepted] at hd
      refine ⟨d, hd, hfailed, fun d' hd' hid => ?_⟩
      refine (hold.passed_iff_not_failed hdistinct hd').2 fun hfailed' => hpassed ?_
      exact (hold.mem_failingIds_iff hdistinct).2 ⟨d', hd', hid, hfailed'⟩
    · rintro ⟨d, hd, hfailed, hpassed⟩
      refine ⟨d.id, ?_, fun hfails => ?_⟩
      · exact (hnew.mem_failingIds_iff (haccepted ▸ hdistinct)).2
          ⟨d, haccepted ▸ hd, rfl, hfailed⟩
      · obtain ⟨d', hd', hid, hfailed'⟩ := (hold.mem_failingIds_iff hdistinct).1 hfails
        exact (hold.passed_iff_not_failed hdistinct hd').1 (hpassed d' hd' hid) hfailed'
  refine ⟨hregressed, fun hnames d hd hpassed hfailed => hregressed.2 ⟨d, hd, hfailed, ?_⟩⟩
  intro d' hd' hid
  rwa [List.inj_on_of_nodup_map hnames hd' hd hid]

/-- A case with the name `a`. -/
def namesake (path : String) : Case :=
  ⟨.ofText path, "", ⟨"a", none, none, none, none, [], .tagged⟩⟩

/-- Two cases with one name. -/
def namesakes : List Discovered := [.case (namesake "x/a.js"), .case (namesake "y/a.js")]

/-- Each of two workers has a case, and the engine gives these answers. -/
def answering (first second : Answer) : List Move :=
  .replicate 7 .feed ++ [.work 0, .work 1, .work 1, .work 0, .answer 1 second ⟨0⟩,
    .answer 0 first ⟨0⟩, .work 1, .work 0, .work 0, .work 1] ++ .replicate 5 .collect

theorem results_answering (first second : Answer) :
    (notesOf twoWorkers namesakes (answering first second)).filterMap (Note.result? twoWorkers)
      = [(namesake "y/a.js").resultOf ⟨0⟩ second ⟨0⟩,
        (namesake "x/a.js").resultOf ⟨0⟩ first ⟨0⟩] := rfl

theorem exists_completeRun_answering (first second : Answer) :
    ∃ t s, CompleteRun twoWorkers namesakes (answering first second) t s :=
  ⟨_, _, rfl, rfl, rfl, rfl⟩

theorem distinct_namesakes :
    Path.Distinct ((namesakes.filter twoWorkers.accepts).map Discovered.path) := by decide

/-- What raises an error where none is expected. -/
def raises : Answer := .outcome (.threw "Error" "")

def completes : Answer := .outcome .completed

theorem failed_first (second : Answer) : Failed twoWorkers
    (notesOf twoWorkers namesakes (answering raises second)) (.case (namesake "x/a.js")) := by
  refine ⟨(namesake "x/a.js").resultOf ⟨0⟩ raises ⟨0⟩, ?_, Case.resultOf_of _ _ _ _, by decide⟩
  rw [results_answering]
  exact List.mem_cons_of_mem _ List.mem_cons_self

theorem passed_second (first : Answer) : Passed twoWorkers
    (notesOf twoWorkers namesakes (answering first completes)) (.case (namesake "y/a.js")) := by
  refine ⟨(namesake "y/a.js").resultOf ⟨0⟩ completes ⟨0⟩, ?_, Case.resultOf_of _ _ _ _, rfl⟩
  rw [results_answering]
  exact List.mem_cons_self

theorem regressed_iff_of_complete_namesakes :
    ∃ t t' s s', CompleteRun twoWorkers namesakes (answering completes completes) t s ∧
      CompleteRun twoWorkers namesakes (answering raises completes) t' s' ∧
        (Comparison.between s s').regressed = true := by
  obtain ⟨t, s, hold⟩ := exists_completeRun_answering completes completes
  obtain ⟨t', s', hnew⟩ := exists_completeRun_answering raises completes
  refine ⟨t, t', s, s', hold, hnew, ?_⟩
  have hregressed := (regressed_iff_of_complete rfl distinct_namesakes hold hnew).1
  refine hregressed.2 ⟨_, List.mem_cons_self, failed_first completes, fun d hd _ => ?_⟩
  rcases List.mem_pair.1 hd with rfl | rfl
  · refine ⟨(namesake "x/a.js").resultOf ⟨0⟩ completes ⟨0⟩, ?_, Case.resultOf_of _ _ _ _, rfl⟩
    rw [results_answering]
    exact List.mem_cons_of_mem _ List.mem_cons_self
  · exact passed_second completes

/-- A case that passed in the older run and failed in the newer one, and no regression is found. -/
theorem regression_missed_namesakes :
    ∃ t t' s s', CompleteRun twoWorkers namesakes (answering raises completes) t s ∧
      CompleteRun twoWorkers namesakes (answering completes raises) t' s' ∧
      Path.Distinct ((namesakes.filter twoWorkers.accepts).map Discovered.path) ∧
      (∃ d ∈ namesakes.filter twoWorkers.accepts,
        Passed twoWorkers (notesOf twoWorkers namesakes (answering raises completes)) d ∧
          Failed twoWorkers (notesOf twoWorkers namesakes (answering completes raises)) d) ∧
      (Comparison.between s s').regressed = false := by
  obtain ⟨t, s, hold⟩ := exists_completeRun_answering raises completes
  obtain ⟨t', s', hnew⟩ := exists_completeRun_answering completes raises
  have hfailed : Failed twoWorkers
      (notesOf twoWorkers namesakes (answering completes raises)) (.case (namesake "y/a.js")) := by
    refine ⟨(namesake "y/a.js").resultOf ⟨0⟩ raises ⟨0⟩, ?_, Case.resultOf_of _ _ _ _, by decide⟩
    rw [results_answering]
    exact List.mem_cons_self
  refine ⟨t, t', s, s', hold, hnew, distinct_namesakes,
    ⟨_, List.mem_cons_of_mem _ List.mem_cons_self, passed_second raises, hfailed⟩, ?_⟩
  rw [Bool.eq_false_iff, ne_eq, Comparison.regressed_between_iff]
  rintro ⟨id, hfails, hnot⟩
  obtain ⟨d, hd, rfl, _⟩ := (hnew.mem_failingIds_iff distinct_namesakes).1 hfails
  -- the name fails in the older run too, by the other case
  have hid : d.id = "a" := by
    rcases List.mem_pair.1 hd with rfl | rfl
    · rfl
    · rfl
  refine hnot ((hold.mem_failingIds_iff distinct_namesakes).2 ⟨_, List.mem_cons_self, ?_,
    failed_first completes⟩)
  exact hid.symm

end State

end Conformance.Pool
