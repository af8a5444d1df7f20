import Conformance.Proofs.Pool.Progress
import Conformance.Proofs.Pool.Success

/-!
# Parallel runs come to the sequential summary

When what the engine answers depends on the program alone and nobody cancels, the summary of a run
over distinct paths is the one of taking the accepted items one after the other, in the order in
which their results came. The schedule decides that order, and how long each item took. The time is
in no summary, and the order shows where entries tie and nowhere else: what an item comes to is a
function of the item, and every item comes to it once. So the number of workers, the size of the
queue and what is rejected do not matter but to ties, and where no entries tie they do not matter.

That nobody cancels is a matter of the limit and of the world outside. A limit above the number of
failing results is never reached, because no tally on the way counts more of them than the last one.
-/

namespace Conformance

open Pool

def Result.untimed (r : Result) : Result := { r with elapsed := ⟨0⟩ }

namespace Discovered

/-- What an item comes to when the engine answers by the program alone. -/
def resultBy (budget : Duration) (engine : Program → Answer) (elapsed : Program → Duration) :
    Discovered → Result
  | .case c => c.resultOf budget (engine c.program) (elapsed c.program)
  | .malformed m => .ofMalformed m

theorem path_resultBy (budget : Duration) (engine : Program → Answer)
    (elapsed : Program → Duration) (d : Discovered) :
    (d.resultBy budget engine elapsed).path = d.path := by
  cases d <;> rfl

theorem map_path_resultBy (budget : Duration) (engine : Program → Answer)
    (elapsed : Program → Duration) (ds : List Discovered) :
    (ds.map (resultBy budget engine elapsed)).map Result.path = ds.map path := by
  rw [List.map_map]
  exact List.map_congr_left fun d _ => path_resultBy budget engine elapsed d

end Discovered

/-- The summary of the items taken one after the other. -/
def Summary.sequential (budget : Duration) (engine : Program → Answer)
    (elapsed : Program → Duration) (accepted : List Discovered) : Summary :=
  ((accepted.map (·.resultBy budget engine elapsed)).foldl Tally.record .empty).finish .complete

/-- A list with the elements of `l.map f` is `l'.map f` for some order `l'` of `l`. -/
theorem exists_perm_map_eq {α β : Type} {f : α → β} {l : List α} {m : List β}
    (h : m.Perm (l.map f)) : ∃ l' : List α, l'.Perm l ∧ m = l'.map f := by
  have hmap : List.Forall₂ (fun b a => b = f a) (l.map f) l :=
    List.forall₂_map_left_iff.2 (List.forall₂_same.2 fun _ _ => rfl)
  obtain ⟨l', hforall, hperm⟩ := List.perm_comp_forall₂ h hmap
  refine ⟨l', hperm, ?_⟩
  rw [← List.forall₂_eq_eq_eq, List.forall₂_map_right_iff]
  exact hforall

namespace Summary

/-- A summary does not depend on how long anything took. -/
theorem ofResults_map_untimed (rs : List Result) (notRun : List String) :
    ofResults (rs.map Result.untimed) notRun = ofResults rs notRun := by
  simp only [ofResults, Counts.among, Tally.resultsIn, Tally.failuresOf, List.map_map,
    List.countP_map, List.filter_map, List.length_map]
  rfl

variable (budget : Duration) (engine : Program → Answer) (elapsed : Program → Duration)
  {accepted accepted' : List Discovered}

theorem sequential_eq (hdistinct : Path.Distinct (accepted.map Discovered.path)) :
    sequential budget engine elapsed accepted
      = .ofResults (accepted.map (·.resultBy budget engine elapsed)) [] := by
  rw [← Discovered.map_path_resultBy budget engine elapsed] at hdistinct
  rw [sequential, Tally.foldl_record_empty hdistinct, Tally.finish_complete rfl,
    Tally.summary_ofResults, List.reverse_reverse]

theorem length_failures_sequential (hdistinct : Path.Distinct (accepted.map Discovered.path)) :
    (sequential budget engine elapsed accepted).failures.length
      = (accepted.map (·.resultBy budget engine elapsed)).countP Result.failing := by
  rw [sequential_eq budget engine elapsed hdistinct, length_failures_ofResults]

/-- The order in which items are taken shows in the order of tied entries at most. -/
theorem sequential_sameUpToTies (hp : accepted.Perm accepted')
    (hdistinct : Path.Distinct (accepted.map Discovered.path)) :
    (sequential budget engine elapsed accepted).SameUpToTies
      (sequential budget engine elapsed accepted') := by
  rw [sequential_eq budget engine elapsed hdistinct,
    sequential_eq budget engine elapsed (hdistinct.perm (hp.map _))]
  exact sameUpToTies_ofResults (hp.map _) (.refl [])

theorem untied_sequential (hdistinct : Path.Distinct (accepted.map Discovered.path))
    (happart : Path.PrintedApart (accepted.map Discovered.path)) :
    (sequential budget engine elapsed accepted).Untied := by
  rw [sequential_eq budget engine elapsed hdistinct]
  rw [← Discovered.map_path_resultBy budget engine elapsed] at hdistinct happart
  exact untied_ofResults hdistinct happart []

end Summary

namespace Pool

/-- The answers in the journal depend on the program alone. -/
def AnswersBy (engine : Program → Answer) (notes : List Note) : Prop :=
  ∀ c a elapsed, .answered c a elapsed ∈ notes → a = engine c.program

variable {o : RunOptions} {engine : Program → Answer} {notes : List Note}

theorem Note.untimed_result {n : Note} {r : Result}
    (hn : ∀ c a elapsed, n = .answered c a elapsed → a = engine c.program)
    (h : n.result? o = some r) (elapsed : Program → Duration) :
    n.item?.map (fun d => (d.resultBy o.budget engine elapsed).untimed) = some r.untimed := by
  cases n with
  | answered c a elapsed =>
    cases h
    rw [hn c a elapsed rfl]
    rfl
  | reported m => cases h; rfl
  | skipped | handed | received | cancelled => cases h

/-- The results of a journal, up to the time they took, are among those of the items in it. -/
theorem untimed_results_sublist (hanswers : AnswersBy engine notes)
    (elapsed : Program → Duration) :
    ((notes.filterMap (Note.result? o)).map Result.untimed).Sublist
      ((notes.filterMap Note.item?).map fun d =>
        (d.resultBy o.budget engine elapsed).untimed) := by
  rw [List.map_filterMap, List.map_filterMap]
  refine filterMap_sublist_filterMap fun n hn r' hr' => ?_
  obtain ⟨r, hr, rfl⟩ := Option.map_eq_some_iff.1 hr'
  exact Note.untimed_result (fun c a elapsed heq => hanswers c a elapsed (heq ▸ hn)) hr elapsed

theorem length_results (hskipped : ∀ d, .skipped d ∉ notes) :
    (notes.filterMap (Note.result? o)).length = (notes.filterMap Note.item?).length := by
  rw [List.length_filterMap_eq_countP, List.length_filterMap_eq_countP]
  refine List.countP_congr fun n hn => ?_
  cases n with
  | skipped d => exact absurd hn (hskipped d)
  | answered | reported | handed | received | cancelled => rfl

theorem answersBy_of_answers {answers : List (Case × Answer)}
    (h : notes.filterMap Note.answer? = answers)
    (hall : ∀ answer ∈ answers, answer.2 = engine answer.1.program) : AnswersBy engine notes := by
  intro c a elapsed hn
  refine hall (c, a) (h ▸ List.mem_filterMap.2 ⟨_, hn, rfl⟩)

namespace State

variable {items : List Item} {found : List Discovered} {s t : State}

/-- In no state more results have failed than what the items come to. -/
theorem Balanced.failingCount_le (hb : t.Balanced o items notes)
    (hanswers : AnswersBy engine notes) (elapsed : Program → Duration) :
    t.tally.failingCount
      ≤ ((o.scope items).map (·.resultBy o.budget engine elapsed)).countP Result.failing := by
  have htally := hb.tally.trans (Tally.ledger_ofCalls (calls notes)).tally
  have huntimed : Result.failing ∘ Result.untimed = Result.failing := rfl
  obtain ⟨ended, hended, hscope⟩ := hb.ended_subperm
  rw [htally]
  -- what is counted was received, and what was received is some of what the items come to
  calc (Tally.failuresOf (Tally.counted (calls notes))).length
      = (Tally.counted (calls notes)).countP Result.failing := by
        rw [Tally.length_failuresOf, Counts.fail_add_crash_ofResults]
    _ ≤ ((received notes).filterMap Event.result?).countP Result.failing := by
        rw [← filterMap_result?_calls]
        have hcounted := (Tally.counted_sublist (calls notes)).countP_le (p := Result.failing)
        rwa [List.countP_reverse] at hcounted
    _ ≤ (notes.filterMap (Note.result? o)).countP Result.failing := by
        rw [← hb.results.countP_eq, sent, List.filterMap_append, List.append_assoc]
        exact (List.sublist_append_left _ _).countP_le
    _ = ((notes.filterMap (Note.result? o)).map Result.untimed).countP Result.failing := by
        rw [List.countP_map, huntimed]
    _ ≤ ((notes.filterMap Note.item?).map fun d =>
          (d.resultBy o.budget engine elapsed).untimed).countP Result.failing :=
        (untimed_results_sublist hanswers elapsed).countP_le
    _ ≤ ((o.scope items).map fun d =>
          (d.resultBy o.budget engine elapsed).untimed).countP Result.failing := by
        rw [← (hended.map _).countP_eq]
        exact (hscope.map _).countP_le
    _ = ((o.scope items).map (·.resultBy o.budget engine elapsed)).countP Result.failing := by
        rw [List.countP_map, List.countP_map]
        rfl

/-- A run over what was found in which the engine's answers depend on the program alone and the
token is never set. -/
structure Undisturbed (o : RunOptions) (engine : Program → Answer) (found : List Discovered)
    (moves : List Move) (t : State) : Prop where
  run : (start o (found.map .ok) false).follow o moves = some t
  answers : AnswersBy engine ((start o (found.map .ok) false).journal o moves)
  quiet : t.cancelled = false

theorem Undisturbed.outcome {moves : List Move} (hu : Undisturbed o engine found moves t)
    (hfinished : t.finished = true) (elapsed : Program → Duration)
    (hdistinct : Path.Distinct ((found.filter o.accepts).map Discovered.path)) :
    ∃ arrived, arrived.Perm (found.filter o.accepts) ∧
      t.outcome = .ok (.sequential o.budget engine elapsed arrived) := by
  have h := settled_of_follow hu.run hfinished
  have hpending := h.pending_eq_nil hu.quiet
  have hskipped (d : Discovered) :
      .skipped d ∉ (start o (found.map .ok) false).journal o moves := by
    intro hd
    have hquiet := hu.quiet
    rw [h.skipped d hd] at hquiet
    cases hquiet
  rw [← scope_map_ok] at hdistinct ⊢
  have hnotes := (untimed_results_sublist (o := o) hu.answers elapsed).eq_of_length <| by
    rw [List.length_map, List.length_map, length_results hskipped]
  -- the results as they came are those of the items in some order
  have hperm : ((Tally.counted (calls ((start o (found.map .ok) false).journal o
      moves))).reverse.map Result.untimed).Perm ((o.scope (found.map .ok)).map fun d =>
        (d.resultBy o.budget engine elapsed).untimed) := by
    refine (((List.reverse_perm _).trans (h.counted_perm hdistinct)).map _).trans ?_
    rw [hnotes]
    exact h.items.symm.map _
  obtain ⟨arrived, harrived, hresults⟩ := exists_perm_map_eq hperm
  refine ⟨arrived, harrived, ?_⟩
  rw [h.outcome (firstFault?_map_ok found), hpending, h.tally_eq, hpending, List.map_nil,
    Tally.summary_ofResults, ← Summary.ofResults_map_untimed, hresults,
    Summary.sequential_eq _ _ _ (hdistinct.perm (harrived.symm.map _)),
    ← Summary.ofResults_map_untimed (arrived.map (·.resultBy o.budget engine elapsed)),
    List.map_map]
  rfl

/-! ### Runs that nobody cancels -/

/-- A limit that is above the number of failing results is not reached. -/
theorem Balanced.not_limitReached (hb : t.Balanced o (found.map .ok) notes)
    (hanswers : AnswersBy engine notes) (elapsed : Program → Duration)
    (hlimit : ∀ limit, o.maxFailures? = some limit →
      ((found.filter o.accepts).map (·.resultBy o.budget engine elapsed)).countP Result.failing
        < limit) :
    limitReached o t.tally = false := by
  have hle := hb.failingCount_le hanswers elapsed
  rw [scope_map_ok] at hle
  rw [limitReached]
  cases hmax : o.maxFailures? with
  | none => rfl
  | some limit =>
    have := hlimit limit hmax
    rw [Option.any_some, decide_eq_false_iff_not]
    omega

theorem Balanced.no_fault (hb : t.Balanced o (found.map .ok) notes) {a : Abort} :
    .fault a ∉ t.events := by
  intro ha
  have hfaults := hb.faults
  rw [firstFault?_map_ok, Option.toList_none, List.append_eq_nil_iff,
    List.filterMap_eq_nil_iff] at hfaults
  cases hfaults.1 (.fault a) (List.mem_append_right _ ha)

/-- Without a fault and below the limit only a cancellation from outside sets the token. -/
theorem quiet_step {m : Move} {n : Option Note} (h : Step o s m n t)
    (hb : s.Balanced o (found.map .ok) notes) (hm : m ≠ .cancel)
    (hlimit : limitReached o t.tally = false) (hquiet : s.cancelled = false) :
    t.cancelled = false := by
  cases h with
  | @receive e events h =>
    cases e with
    | announced d => exact hquiet
    | finished r => exact Bool.or_eq_false_iff.2 ⟨hquiet, hlimit⟩
    | fault a => exact absurd (h ▸ List.mem_cons_self) (hb.no_fault (a := a))
  | cancel => exact absurd rfl hm
  | _ => exact hquiet

theorem not_cancelled_of_follow {moves : List Move}
    (hrun : (start o (found.map .ok) false).follow o moves = some t)
    (hanswers : AnswersBy engine ((start o (found.map .ok) false).journal o moves))
    (hcancel : .cancel ∉ moves) (elapsed : Program → Duration)
    (hlimit : ∀ limit, o.maxFailures? = some limit →
      ((found.filter o.accepts).map (·.resultBy o.budget engine elapsed)).countP Result.failing
        < limit) :
    t.cancelled = false := by
  refine follow_induction
    (P := fun moves t => AnswersBy engine ((start o (found.map .ok) false).journal o moves) →
      .cancel ∉ moves → t.cancelled = false)
    (fun _ _ => rfl) (fun moves t m u hrun ih hm hanswers hcancel => ?_) hrun hanswers hcancel
  have hstep := step_of_move (sound_of_follow hrun) hm
  have hb := balanced_of_follow hrun
  rw [journal_concat hrun m] at hanswers
  rw [List.mem_append, not_or, List.mem_singleton] at hcancel
  refine quiet_step hstep hb (Ne.symm hcancel.2) ?_ (ih (fun c a elapsed hn => ?_) hcancel.1)
  · exact (hb.step hstep).not_limitReached hanswers elapsed hlimit
  · exact hanswers c a elapsed (List.mem_append_left _ hn)

theorem working_step {m : Move} {n : Option Note} (h : Step o s m n t)
    (hquiet : t.cancelled = false) : m.working = true := by
  cases h with
  | cancel => cases hquiet
  | _ => rfl

/-- Whoever cancels sets the token, and it stays set. -/
theorem working_of_follow {items : List Item} {cancelled : Bool} {moves : List Move}
    (hrun : (start o items cancelled).follow o moves = some t) (hquiet : t.cancelled = false) :
    ∀ m ∈ moves, m.working = true := by
  refine follow_induction (P := fun moves t => t.cancelled = false →
    ∀ m ∈ moves, m.working = true) (fun _ _ hm => absurd hm List.not_mem_nil)
    (fun moves t m u hrun ih hm hquiet m' hm' => ?_) hrun hquiet
  have hstep := step_of_move (sound_of_follow hrun) hm
  have hbefore : t.cancelled = false :=
    Bool.eq_false_iff.2 fun hc => Bool.eq_false_iff.1 hquiet (cancelled_step hstep hc)
  rcases List.mem_append.1 hm' with hm' | hm'
  · exact ih hbefore m' hm'
  · cases List.mem_singleton.1 hm'
    exact working_step hstep hquiet

/-- Every undisturbed run comes to an end, and the summary it comes to is that of the accepted items
taken one after the other, in an order that shows where entries tie and nowhere else. Entries of
paths that are printed apart do not tie. A run that nobody cancels from outside is undisturbed if
its limit is above the number of failing results. So runs with any numbers of workers and over any
further items that are rejected come to the same summary up to ties. -/
theorem undisturbed_outcome (elapsed : Program → Duration)
    (hdistinct : Path.Distinct ((found.filter o.accepts).map Discovered.path)) :
    (∀ moves t, Undisturbed o engine found moves t →
      moves.length ≤ moveBound o (found.map .ok) ∧
      (t.Halted o → t.finished = true ∧ ∃ arrived, arrived.Perm (found.filter o.accepts) ∧
        t.outcome = .ok (.sequential o.budget engine elapsed arrived))) ∧
    (let reference := Summary.sequential o.budget engine elapsed (found.filter o.accepts)
     (∀ arrived, arrived.Perm (found.filter o.accepts) →
        (Summary.sequential o.budget engine elapsed arrived).SameUpToTies reference ∧
          (reference.Untied → .sequential o.budget engine elapsed arrived = reference)) ∧
     (Path.PrintedApart ((found.filter o.accepts).map Discovered.path) → reference.Untied) ∧
     ∀ moves t, (start o (found.map .ok) false).follow o moves = some t →
        AnswersBy engine ((start o (found.map .ok) false).journal o moves) → .cancel ∉ moves →
        (∀ limit, o.maxFailures? = some limit → reference.failures.length < limit) →
        Undisturbed o engine found moves t) ∧
    ∀ o' found' moves moves' t t', o'.budget = o.budget →
      found'.filter o'.accepts = found.filter o.accepts →
      Undisturbed o engine found moves t → t.Halted o →
      Undisturbed o' engine found' moves' t' → t'.Halted o' →
      ∃ s s', t.outcome = .ok s ∧ t'.outcome = .ok s' ∧ s.SameUpToTies s' ∧
        (s.Untied → s = s') := by
  have hsame {arrived : List Discovered} (hp : arrived.Perm (found.filter o.accepts)) :=
    Summary.sequential_sameUpToTies o.budget engine elapsed hp
      (hdistinct.perm (hp.symm.map _))
  refine ⟨fun moves t hu => ⟨?_, fun hhalted => ?_⟩,
    ⟨fun arrived hp => ⟨hsame hp, fun huntied => ((hsame hp).symm.eq huntied).symm⟩,
      Summary.untied_sequential _ _ _ hdistinct, fun moves t hrun hanswers hcancel hlimit => ?_⟩,
    fun o' found' moves moves' t t' hbudget hfound hu hhalted hu' hhalted' => ?_⟩
  · have hlength := length_le_moveBound hu.run
    rwa [List.filter_eq_self.2 (working_of_follow hu.run hu.quiet)] at hlength
  · have hfinished := (sound_of_follow hu.run).finished_of_halted hhalted
    exact ⟨hfinished, hu.outcome hfinished elapsed hdistinct⟩
  · rw [Summary.length_failures_sequential _ _ _ hdistinct] at hlimit
    exact ⟨hrun, hanswers, not_cancelled_of_follow hrun hanswers hcancel elapsed hlimit⟩
  · have hfinished := (sound_of_follow hu.run).finished_of_halted hhalted
    have hfinished' := (sound_of_follow hu'.run).finished_of_halted hhalted'
    obtain ⟨arrived, harrived, hok⟩ := hu.outcome hfinished elapsed hdistinct
    obtain ⟨arrived', harrived', hok'⟩ :=
      hu'.outcome hfinished' elapsed (hfound.symm ▸ hdistinct)
    rw [hfound] at harrived'
    rw [hbudget] at hok'
    have htied := (hsame harrived).trans (hsame harrived').symm
    exact ⟨_, _, hok, hok', htied, htied.eq⟩

def raising : Program → Answer
  | ⟨"b.js", _, _⟩ => .outcome (.threw "TypeError" "")
  | _ => .outcome .completed

/-- The second worker is done with its case before the first one. -/
def pairOvertaken : List Move :=
  .replicate 7 .feed ++ [.work 0, .work 1, .work 1, .work 0,
    .answer 1 (.outcome (.threw "TypeError" "")) ⟨1⟩, .answer 0 (.outcome .completed) ⟨2⟩,
    .work 1, .work 0, .work 0, .work 1] ++ .replicate 5 .collect

theorem undisturbed_outcome_pairOvertaken :
    ∃ t, (start twoWorkers (pair.map .ok) false).follow twoWorkers pairOvertaken = some t ∧
      Undisturbed twoWorkers raising pair pairOvertaken t ∧ t.Halted twoWorkers ∧
      t.outcome
        = .ok (.sequential ⟨0⟩ raising (fun _ => ⟨0⟩) (pair.filter twoWorkers.accepts)) := by
  obtain ⟨t, hrun, hfinished, hquiet⟩ :
      ∃ t, (start twoWorkers (pair.map .ok) false).follow twoWorkers pairOvertaken = some t ∧
        t.finished = true ∧ t.cancelled = false := ⟨_, rfl, rfl, rfl⟩
  have hanswers : ((start twoWorkers (pair.map .ok) false).journal twoWorkers
      pairOvertaken).filterMap Note.answer?
        = [(.plain "b.js" (some (.kind "TypeError")), .outcome (.threw "TypeError" "")),
          (.plain "a.js" none, .outcome .completed)] := rfl
  have hu : Undisturbed twoWorkers raising pair pairOvertaken t :=
    ⟨hrun, answersBy_of_answers hanswers (by decide), hquiet⟩
  have hhalted : t.Halted twoWorkers := halted_of_finished hfinished
  have hdistinct : Path.Distinct ((pair.filter twoWorkers.accepts).map Discovered.path) := by
    decide
  have happart : Path.PrintedApart ((pair.filter twoWorkers.accepts).map Discovered.path) := by
    decide
  obtain ⟨hended, ⟨hsame, huntied, -⟩, -⟩ :=
    @undisturbed_outcome _ raising _ (fun _ => ⟨0⟩) hdistinct
  obtain ⟨-, arrived, harrived, hok⟩ := (hended pairOvertaken t hu).2 hhalted
  rw [(hsame arrived harrived).2 (huntied happart)] at hok
  exact ⟨t, hrun, hu, hhalted, hok⟩

/-- A case with the name `S1`, at a path that is no text. -/
def strayCase (octet : UInt8) (body : String) : Case :=
  ⟨.stray octet, "/** @name: S1; */ " ++ body, ⟨"S1", none, none, none, none, [], .tagged⟩⟩

example : Case.ofSource (.stray 0xff) "/** @name: S1; */ $ERROR(2)"
    = .ok (strayCase 0xff "$ERROR(2)") := by decide +kernel

/-- Two cases at paths that are printed alike, in path order. -/
def strays : List Discovered :=
  [.case (strayCase 0xfe "$ERROR(1)"), .case (strayCase 0xff "$ERROR(2)")]

/-- Every case reports its own text. -/
def reporting (p : Program) : Answer := .outcome (.reported .error p.body)

/-- The entry of a case at a path that is no text. -/
def strayEntry (octet : UInt8) (body : String) : Failure :=
  .ofResult ((Discovered.case (strayCase octet body)).resultBy ⟨0⟩ reporting fun _ => ⟨0⟩)

theorem key_strayEntry : ∀ f ∈ [strayEntry 0xfe "$ERROR(1)", strayEntry 0xff "$ERROR(2)"],
    f.key = toLex ("S1", "cases/a\uFFFD.js") := by decide

/-- Both workers have a case, and the second one is done with it first. -/
def straysOvertaken : List Move :=
  .replicate 7 .feed ++ [.work 0, .work 1, .work 0, .work 1,
    .answer 1 (reporting (strayCase 0xff "$ERROR(2)").program) ⟨0⟩,
    .answer 0 (reporting (strayCase 0xfe "$ERROR(1)").program) ⟨0⟩,
    .work 1, .work 0, .work 0, .work 1] ++ .replicate 5 .collect

theorem outcome_ne_sequential_strays :
    Path.Distinct ((strays.filter twoWorkers.accepts).map Discovered.path) ∧
    ∃ t s, Undisturbed twoWorkers reporting strays straysOvertaken t ∧ t.Halted twoWorkers ∧
      t.outcome = .ok s ∧
      s ≠ .sequential ⟨0⟩ reporting (fun _ => ⟨0⟩) (strays.filter twoWorkers.accepts) := by
  obtain ⟨t, hrun, hfinished, hquiet, houtcome, hpending, hfailures⟩ :
      ∃ t, (start twoWorkers (strays.map .ok) false).follow twoWorkers straysOvertaken = some t ∧
        t.finished = true ∧ t.cancelled = false ∧ t.outcome = .ok (t.tally.finish .complete) ∧
        t.tally.pending = [] ∧
        t.tally.failures = [strayEntry 0xfe "$ERROR(1)", strayEntry 0xff "$ERROR(2)"] :=
    ⟨_, rfl, rfl, rfl, rfl, rfl, rfl⟩
  have hanswers : ((start twoWorkers (strays.map .ok) false).journal twoWorkers
      straysOvertaken).filterMap Note.answer?
        = [(strayCase 0xff "$ERROR(2)", reporting (strayCase 0xff "$ERROR(2)").program),
          (strayCase 0xfe "$ERROR(1)", reporting (strayCase 0xfe "$ERROR(1)").program)] := rfl
  have hu : Undisturbed twoWorkers reporting strays straysOvertaken t :=
    ⟨hrun, answersBy_of_answers hanswers (by decide), hquiet⟩
  refine ⟨by decide, t, _, hu, halted_of_finished hfinished, houtcome, fun heq => ?_⟩
  -- both lists of entries are left as they came, since their entries tie
  have hentries := congrArg Summary.failures heq
  have hkeys : ∀ f ∈ [strayEntry 0xff "$ERROR(2)", strayEntry 0xfe "$ERROR(1)"],
      f.key = toLex ("S1", "cases/a\uFFFD.js") :=
    fun f hf => key_strayEntry f ((List.Perm.swap _ _ []).mem_iff.1 hf)
  rw [Tally.failures_finish_of_key_eq hpending (hfailures ▸ key_strayEntry), hfailures,
    Summary.sequential, Tally.failures_finish_of_key_eq rfl hkeys] at hentries
  exact absurd hentries (by decide)

end State

end Pool

end Conformance
