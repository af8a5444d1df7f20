import Conformance.Proofs.Pool.Finish
import Conformance.Proofs.Report.Consistency
import Conformance.Proofs.Verdict

/-!
# When a run is a success

A run over distinct paths succeeds exactly if every accepted item is a case, the engine answered
each of them, and each answer is what the case expects. A case that was left out, at whatever moment
the run was cancelled, is named in the summary, and a malformed one is a crash, so neither can pass
unnoticed. And the other way round nothing but these makes a run fail: an announced case whose
result arrives is not pending, in whatever order the two arrive.
-/

namespace Conformance.Pool

variable {o : RunOptions} {found : List Discovered}

theorem firstFault?_map_ok (found : List Discovered) : firstFault? (found.map .ok) = none := by
  induction found with
  | nil => rfl
  | cons d found ih => exact ih

theorem scope_map_ok (o : RunOptions) (found : List Discovered) :
    o.scope (found.map .ok) = found.filter o.accepts := by
  induction found with
  | nil => rfl
  | cons d found ih =>
    rw [List.map_cons, RunOptions.scope, List.filter_cons, ih]

/-- All accepted items are cases, all of them were answered, and all answers are as expected. -/
structure AllAsExpected (accepted : List Discovered) (notes : List Note) : Prop where
  cases : ∀ d ∈ accepted, ∃ c, d = .case c
  evaluated : ∀ c, .case c ∈ accepted → ∃ a elapsed, .answered c a elapsed ∈ notes
  expected : ∀ c a elapsed, .answered c a elapsed ∈ notes → c.AsExpected a

namespace State

variable {items : List Item} {notes : List Note} {t : State}

namespace Settled

variable (h : t.Settled o items notes)
include h

theorem exists_note_of_item (hdistinct : Path.Distinct ((o.scope items).map Discovered.path))
    (hpending : t.tally.pending = []) {d : Discovered} (hd : d ∈ o.scope items) :
    ∃ n ∈ notes, n.item? = some d ∧ (n.result? o).isSome = true := by
  have hparts := h.mem_parts_calls.2 (List.mem_map_of_mem hd)
  rw [← h.ledger.covers, hpending] at hparts
  obtain ⟨r, hr, hsame⟩ := List.mem_map.1 (hparts.resolve_left List.not_mem_nil)
  obtain ⟨n, hn, hnr⟩ := List.mem_filterMap.1 (h.mem_results_of_counted hr)
  obtain ⟨d', hd', hof⟩ := Note.exists_item_of_result hnr
  have hmem : d' ∈ o.scope items := h.items.mem_iff.2 (List.mem_filterMap.2 ⟨n, hn, hd'⟩)
  -- the recorded result may be that of another item with this path, if there were one
  have heq : d' = d := Discovered.eq_of_same hdistinct hmem hd (hof.path ▸ hsame)
  exact ⟨n, hn, heq ▸ hd', Option.isSome_iff_exists.2 ⟨r, hnr⟩⟩

theorem allAsExpected_of_pass (hdistinct : Path.Distinct ((o.scope items).map Discovered.path))
    (hpending : t.tally.pending = [])
    (hpass : ∀ r ∈ notes.filterMap (Note.result? o), r.verdict = .pass) :
    AllAsExpected (o.scope items) notes := by
  have hitem {d : Discovered} (hd : d ∈ o.scope items) :
      ∃ c a elapsed, d = .case c ∧ .answered c a elapsed ∈ notes := by
    obtain ⟨n, hn, hnd, hnr⟩ := h.exists_note_of_item hdistinct hpending hd
    cases n with
    | answered c a elapsed => cases hnd; exact ⟨c, a, elapsed, rfl, hn⟩
    | reported m => cases hpass (.ofMalformed m) (List.mem_filterMap.2 ⟨_, hn, rfl⟩)
    | skipped | handed | received | cancelled => cases hnr
  refine ⟨fun d hd => ?_, fun c hc => ?_, fun c a elapsed hn => ?_⟩
  · obtain ⟨c, _, _, hd, _⟩ := hitem hd
    exact ⟨c, hd⟩
  · obtain ⟨c', a, elapsed, hcase, hn⟩ := hitem hc
    cases hcase
    exact ⟨a, elapsed, hn⟩
  · refine (c.verdict_resultOf_eq_pass_iff o.budget a elapsed).1 (hpass _ ?_)
    exact List.mem_filterMap.2 ⟨_, hn, rfl⟩

theorem pass_of_allAsExpected (hall : AllAsExpected (o.scope items) notes) {r : Result}
    (hr : r ∈ notes.filterMap (Note.result? o)) : r.verdict = .pass := by
  obtain ⟨n, hn, hnr⟩ := List.mem_filterMap.1 hr
  cases n with
  | answered c a elapsed =>
    cases hnr
    exact (c.verdict_resultOf_eq_pass_iff o.budget a elapsed).2 (hall.expected c a elapsed hn)
  | reported m =>
    have hm : .malformed m ∈ o.scope items :=
      h.items.mem_iff.2 (List.mem_filterMap.2 ⟨_, hn, rfl⟩)
    obtain ⟨c, hc⟩ := hall.cases _ hm
    cases hc
  | skipped | handed | received | cancelled => cases hnr

theorem pending_eq_nil_of_allAsExpected (hall : AllAsExpected (o.scope items) notes) :
    t.tally.pending = [] := by
  refine List.eq_nil_iff_forall_not_mem.2 fun p hp => ?_
  obtain ⟨d, hd, _, _, hsame⟩ := h.exists_item_of_pending hp
  obtain ⟨c, rfl⟩ := hall.cases d hd
  obtain ⟨a, elapsed, hn⟩ := hall.evaluated c hd
  exact h.not_same_of_pending hp (List.mem_filterMap.2 ⟨_, hn, rfl⟩) hsame.symm

theorem success_iff (hdistinct : Path.Distinct ((o.scope items).map Discovered.path)) :
    (t.tally.summary (t.tally.pending.map (·.id))).success = true ↔
      AllAsExpected (o.scope items) notes := by
  have hcounted {r : Result} :
      r ∈ Tally.counted (calls notes) ↔ r ∈ notes.filterMap (Note.result? o) :=
    (h.counted_perm hdistinct).mem_iff
  rw [h.tally_eq, Tally.success_summary_iff, Tally.failuresOf_eq_nil_iff, List.map_eq_nil_iff]
  constructor
  · rintro ⟨hpass, hpending⟩
    exact h.allAsExpected_of_pass hdistinct hpending fun r hr => hpass r (hcounted.2 hr)
  · intro hall
    exact ⟨fun r hr => h.pass_of_allAsExpected hall (hcounted.1 hr),
      h.pending_eq_nil_of_allAsExpected hall⟩

end Settled

/-- A run over what was found, no accepted paths of which are the same, comes to a summary, and that
is a success exactly if every accepted item is a case, the engine answered all of them, and all its
answers are as expected. -/
theorem success_iff_of_follow {cancelled : Bool} {moves : List Move}
    (hdistinct : Path.Distinct ((found.filter o.accepts).map Discovered.path))
    (hrun : (start o (found.map .ok) cancelled).follow o moves = some t)
    (hfinished : t.finished = true) :
    ∃ summary, t.outcome = .ok summary ∧
      (summary.success = true ↔ AllAsExpected (found.filter o.accepts)
        ((start o (found.map .ok) cancelled).journal o moves)) := by
  have h := settled_of_follow hrun hfinished
  rw [← scope_map_ok] at hdistinct ⊢
  exact ⟨_, h.outcome (firstFault?_map_ok found), h.success_iff hdistinct⟩

def twoWorkers : RunOptions := ⟨2, none, none, ⟨0⟩⟩

/-- A case that has to run to its end and one that has to raise an error. -/
def pair : List Discovered :=
  [.case (.plain "a.js" none), .case (.plain "b.js" (some (.kind "TypeError")))]

/-- Both workers have a case when the run is cancelled, and finish it. -/
def pairCancelled : List Move :=
  .replicate 7 .feed ++ [.work 0, .work 1, .work 1, .work 0, .cancel,
    .answer 1 (.outcome (.threw "TypeError" "")) ⟨0⟩, .answer 0 (.outcome .completed) ⟨0⟩,
    .work 1, .work 0, .work 0, .work 1] ++ .replicate 5 .collect

theorem success_iff_pairCancelled :
    ∃ t summary, (start twoWorkers (pair.map .ok) false).follow twoWorkers pairCancelled = some t ∧
      t.finished = true ∧ t.outcome = .ok summary ∧
      (summary.success = true ↔ AllAsExpected (pair.filter twoWorkers.accepts)
        ((start twoWorkers (pair.map .ok) false).journal twoWorkers pairCancelled)) := by
  obtain ⟨t, hrun, hfinished⟩ :
      ∃ t, (start twoWorkers (pair.map .ok) false).follow twoWorkers pairCancelled = some t ∧
        t.finished = true := ⟨_, rfl, rfl⟩
  obtain ⟨summary, hok, hiff⟩ := success_iff_of_follow (by decide) hrun hfinished
  exact ⟨t, summary, hrun, hfinished, hok, hiff⟩

end State

end Conformance.Pool
