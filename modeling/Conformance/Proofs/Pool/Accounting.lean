import Conformance.Proofs.Pool.Finish
import Conformance.Proofs.Report.Consistency
import Conformance.Proofs.Verdict

/-!
# Every accepted path is accounted for once

Cases are left out in two places, by the feeder and by a worker, and each looks at the token when
its turn comes. Whatever they see and in whatever order things arrive, a summary accounts for every
accepted path once: a result of it is recorded, or it is named among those that were not run. The
engine gets each accepted case once at most, and what it got is recorded. Nothing else is in the
summary, and no entry says that a case was not executed: at the end of a run that was not cancelled
nothing is pending.
-/

namespace Conformance

open Pool

/-- The accepted ones among the items of a scan. -/
def RunOptions.accepted (o : RunOptions) : List Item → List Discovered
  | [] => []
  | .error _ :: rest => o.accepted rest
  | .ok d :: rest => if o.accepts d then d :: o.accepted rest else o.accepted rest

theorem RunOptions.scope_eq_accepted (o : RunOptions) {items : List Item}
    (h : firstFault? items = none) : o.scope items = o.accepted items := by
  induction items with
  | nil => rfl
  | cons item rest ih =>
    cases item with
    | error a => cases h
    | ok d => rw [scope, accepted, ih h]

theorem Pool.error_not_mem {items : List Item} (h : firstFault? items = none) (a : Abort) :
    .error a ∉ items := by
  induction items with
  | nil => exact List.not_mem_nil
  | cons item rest ih =>
    cases item with
    | error b => cases h
    | ok d => simpa using ih h

/-- A summary and the tally it was made of account for the accepted items, some cases of which were
handed to the engine. -/
structure Summary.Accounts (accepted : List Discovered) (handed : List Case) (t : Tally)
    (s : Summary) : Prop where
  /-- Each path is recorded or pending, once. -/
  paths : ((t.pending.map Pending.path ++ t.recorded).map Path.parts).Perm
    (accepted.map (·.path.parts)).dedup
  total : s.total = t.recorded.length
  notRun : s.notRun = Text.sort (t.pending.map (·.id))
  count : s.total + s.notRun.length = (accepted.map (·.path.parts)).dedup.length
  pending : ∀ p ∈ t.pending,
    ∃ d ∈ accepted, p.id = d.id ∧ p.sectionKey = d.sectionKey ∧ d.path.Same p.path
  failures : ∀ f ∈ s.failures,
    ∃ d ∈ accepted, f.id = d.id ∧ f.path = d.path.text ∧ f.sectionKey = d.sectionKey
  sections : ∀ e ∈ s.sections.entries, ∃ d ∈ accepted, e.1 = d.sectionKey
  /-- As often as a case was handed to the engine it is among the accepted items. -/
  handed_once : (handed.map .case).Subperm accepted
  handed_recorded : ∀ c ∈ handed,
    (∃ path ∈ t.recorded, path.Same c.path) ∧ ∀ p ∈ t.pending, ¬ p.path.Same c.path
  executed : ∀ f ∈ s.failures, f.reason? ≠ some .notExecuted

namespace Pool.State.Settled

variable {o : RunOptions} {items : List Item} {notes : List Note} {t : State} {summary : Summary}

theorem reason?_ne_notExecuted {r : Result} (hr : r ∈ notes.filterMap (Note.result? o)) :
    r.reason? ≠ some .notExecuted := by
  obtain ⟨n, _, hr⟩ := List.mem_filterMap.1 hr
  cases n with
  | answered c a elapsed =>
    cases hr
    exact c.reason?_resultOf_ne_notExecuted o.budget a elapsed
  | reported m => cases hr; nofun
  | skipped | handed | received | cancelled => cases hr

variable (h : t.Settled o items notes)
include h

/-- What the engine got it answered, and the answer made a result. -/
theorem exists_result_of_handed {c : Case} (hc : c ∈ notes.filterMap Note.handed?) :
    ∃ r ∈ notes.filterMap (Note.result? o), r.path = c.path := by
  obtain ⟨⟨c', a⟩, hca, rfl⟩ := List.mem_map.1 (h.handed.mem_iff.1 hc)
  obtain ⟨n, hn, hanswer⟩ := List.mem_filterMap.1 hca
  cases n with
  | answered c a elapsed =>
    cases hanswer
    exact ⟨_, List.mem_filterMap.2 ⟨_, hn, rfl⟩, rfl⟩
  | skipped | handed | reported | received | cancelled => cases hanswer

theorem consistent : t.tally.Consistent (calls notes) := by
  rw [h.tally_eq]
  exact h.ledger.consistent

theorem paths_perm : ((t.tally.pending.map Pending.path ++ t.tally.recorded).map Path.parts).Perm
    ((o.scope items).map (·.path.parts)).dedup := by
  refine h.consistent.paths.trans ?_
  refine (List.perm_ext_iff_of_nodup (List.nodup_dedup _) (List.nodup_dedup _)).2 fun parts => ?_
  rw [List.mem_dedup, List.mem_dedup, h.mem_parts_calls]

theorem exists_result_of_failure {notRun : List String} {f : Failure}
    (hf : f ∈ (t.tally.summary notRun).failures) :
    ∃ r ∈ notes.filterMap (Note.result? o), r.verdict ≠ .pass ∧ f = .ofResult r := by
  rw [h.tally_eq] at hf
  obtain ⟨r, hr, rfl⟩ := List.mem_map.1 (List.mem_reverse.1 (List.mem_mergeSort.1 hf))
  obtain ⟨hcounted, hfailing⟩ := List.mem_filter.1 hr
  exact ⟨r, h.mem_results_of_counted hcounted, of_decide_eq_true hfailing, rfl⟩

theorem accounts (hok : t.outcome = .ok summary) :
    summary.Accounts (o.accepted items) (notes.filterMap Note.handed?) t.tally := by
  have hfault := h.firstFault?_eq_none hok
  rw [h.outcome hfault] at hok
  cases hok
  rw [← o.scope_eq_accepted hfault]
  have htotal : (t.tally.summary (t.tally.pending.map (·.id))).total = t.tally.recorded.length :=
    h.consistent.recorded_eq_totals.symm
  refine ⟨h.paths_perm, htotal, rfl, ?_, fun p hp => h.exists_item_of_pending hp, fun f hf => ?_,
    fun e he => ?_, h.handed_subperm, fun c hc => ⟨?_, fun p hp hsame => ?_⟩, fun f hf => ?_⟩
  · have hlength := h.paths_perm.length_eq
    rw [List.length_map, List.length_append, List.length_map] at hlength
    rw [htotal, Tally.summary, Text.sort, List.length_mergeSort, List.length_map]
    omega
  · obtain ⟨r, hr, -, rfl⟩ := h.exists_result_of_failure hf
    obtain ⟨d, hd, hof⟩ := h.exists_item_of_result hr
    exact ⟨d, hd, hof.id, congrArg Path.text hof.path, hof.sectionKey⟩
  · rw [h.tally_eq] at he
    obtain ⟨r, hr, hkey⟩ := Tally.exists_mem_of_mem_sectionsOf he
    obtain ⟨d, hd, hof⟩ := h.exists_item_of_result (h.mem_results_of_counted hr)
    exact ⟨d, hd, hkey.symm.trans hof.sectionKey⟩
  · obtain ⟨r, hr, hpath⟩ := h.exists_result_of_handed hc
    obtain ⟨s, hs, hsame⟩ := h.exists_counted hr
    rw [h.tally_eq]
    exact ⟨s.path, List.mem_map_of_mem hs, hpath ▸ hsame⟩
  · obtain ⟨r, hr, hpath⟩ := h.exists_result_of_handed hc
    exact h.not_same_of_pending hp hr (hpath ▸ hsame)
  · obtain ⟨r, hr, -, rfl⟩ := h.exists_result_of_failure hf
    exact reason?_ne_notExecuted hr

end Pool.State.Settled

namespace Pool.State

/-- A run that comes to a summary accounts for every accepted path once, whatever the items, the
answers, the order of the moves and the cancellations were. It has no fault, and the programs that
the engine got are those of the accepted cases that were handed to it. -/
theorem accounts_of_follow {o : RunOptions} {items : List Item} {cancelled : Bool}
    {moves : List Move} {t : State} {summary : Summary}
    (hrun : (start o items cancelled).follow o moves = some t) (hfinished : t.finished = true)
    (hok : t.outcome = .ok summary) :
    let handed := ((start o items cancelled).journal o moves).filterMap Note.handed?
    (∀ a, .error a ∉ items) ∧
      summary.Accounts (o.accepted items) handed t.tally ∧
      t.history = (handed.map Case.program).reverse := by
  have h := settled_of_follow hrun hfinished
  exact ⟨error_not_mem (h.firstFault?_eq_none hok), h.accounts hok, h.history⟩

def oneWorker : RunOptions := ⟨1, none, none, ⟨0⟩⟩

/-- One path in two spellings, and a malformed case. -/
def respelled : List Item :=
  [.ok (.case (.plain "x/a.js" none)), .ok (.case (.plain "x//a.js" none)),
    .ok (.malformed ⟨.ofText "b.js", "b", "bad"⟩)]

/-- The engine has the first case when the run is cancelled. -/
def respelledCancelled : List Move :=
  [.feed, .feed, .feed, .work 0, .work 0, .cancel, .feed, .feed, .feed, .feed, .feed,
    .answer 0 (.outcome .completed) ⟨0⟩, .work 0, .work 0] ++ .replicate 5 .collect

theorem accounts_respelledCancelled :
    ∃ t summary, (start oneWorker respelled false).follow oneWorker respelledCancelled = some t ∧
      t.finished = true ∧ t.outcome = .ok summary ∧
      let handed := ((start oneWorker respelled false).journal oneWorker
        respelledCancelled).filterMap Note.handed?
      (∀ a, .error a ∉ respelled) ∧
        summary.Accounts (oneWorker.accepted respelled) handed t.tally ∧
        t.history = (handed.map Case.program).reverse := by
  obtain ⟨t, summary, hrun, hfinished, hok⟩ :
      ∃ t summary, (start oneWorker respelled false).follow oneWorker respelledCancelled = some t ∧
        t.finished = true ∧ t.outcome = .ok summary := ⟨_, _, rfl, rfl, rfl⟩
  exact ⟨t, summary, hrun, hfinished, hok, accounts_of_follow hrun hfinished hok⟩

end Pool.State

end Conformance
