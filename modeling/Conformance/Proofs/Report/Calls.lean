import Conformance.Proofs.Report.Closing
import Mathlib.Data.List.Dedup
import Mathlib.Data.List.Induction

/-!
# Any sequence of calls

A tally is told of cases and of results in any order and any number of times. Whatever the sequence,
the tally is that of the results that count, which are the first for each path, beside what is still
pending. The paths of the two are distinct, and together they are the paths of the calls.
-/

namespace Conformance.Tally

/-- What a tally is told. -/
inductive Call where
  | expect (id : String) (path : Path) (sectionKey : String)
  | record (r : Result)

namespace Call

def path : Call → Path
  | .expect _ path _ => path
  | .record r => r.path

def result? : Call → Option Result
  | .expect .. => none
  | .record r => some r

end Call

def take (t : Tally) : Call → Tally
  | .expect id path sectionKey => t.expect id path sectionKey
  | .record r => t.record r

/-- The tally after a sequence of calls. -/
def ofCalls (calls : List Call) : Tally := calls.foldl take empty

/-- The results that count, the latest first: those before which no result of the same case came. -/
def counted (calls : List Call) : List Result :=
  (calls.filterMap Call.result?).reverse.pwFilter fun r s => ¬ r.path.Same s.path

theorem ofCalls_concat (calls : List Call) (c : Call) :
    ofCalls (calls ++ [c]) = (ofCalls calls).take c := by
  rw [ofCalls, List.foldl_append, List.foldl_cons, List.foldl_nil, ofCalls]

theorem counted_concat_expect (calls : List Call) (id : String) (path : Path) (key : String) :
    counted (calls ++ [.expect id path key]) = counted calls := by
  rw [counted, List.filterMap_append]
  simp only [List.filterMap_cons, Call.result?, List.filterMap_nil, List.append_nil, counted]

theorem counted_concat_record (calls : List Call) (r : Result) :
    counted (calls ++ [.record r])
      = if ∀ s ∈ counted calls, ¬ r.path.Same s.path then r :: counted calls
        else counted calls := by
  rw [counted, List.filterMap_append]
  simp only [List.filterMap_cons, Call.result?, List.filterMap_nil, List.reverse_append,
    List.reverse_cons, List.reverse_nil, List.nil_append, List.cons_append]
  split
  · next h => exact List.pwFilter_cons_of_pos h
  · next h => exact List.pwFilter_cons_of_neg h

theorem counted_sublist (calls : List Call) :
    (counted calls).Sublist (calls.filterMap Call.result?).reverse := List.pwFilter_sublist _

theorem record_mem_of_mem_counted {calls : List Call} {r : Result} (h : r ∈ counted calls) :
    .record r ∈ calls := by
  have hmem := (counted_sublist calls).mem h
  rw [List.mem_reverse, List.mem_filterMap] at hmem
  obtain ⟨c, hc, hr⟩ := hmem
  cases c with
  | expect => cases hr
  | record s => cases hr; exact hc

theorem exists_mem_counted {calls : List Call} {r : Result} (h : .record r ∈ calls) :
    ∃ s ∈ counted calls, s.path.Same r.path := by
  have hmem : r ∈ (calls.filterMap Call.result?).reverse :=
    List.mem_reverse.2 (List.mem_filterMap.2 ⟨_, h, rfl⟩)
  by_contra hnone
  have hfresh : ∀ s ∈ counted calls, ¬ r.path.Same s.path :=
    fun s hs hsame => hnone ⟨s, hs, hsame.symm⟩
  refine (List.forall_mem_pwFilter (fun {x y z} hne => ?_) r _).1 hfresh r hmem rfl
  by_contra hboth
  push Not at hboth
  exact hne (hboth.1.trans hboth.2)

/-- If no two results are of one case, all of them count. -/
theorem counted_eq_of_distinct {calls : List Call}
    (h : Path.Distinct ((calls.filterMap Call.result?).map Result.path)) :
    counted calls = (calls.filterMap Call.result?).reverse := by
  rw [counted, List.pwFilter_eq_self]
  exact List.pairwise_map.1 (h.perm ((List.reverse_perm _).symm.map _))

/-! ### What is pending -/

/-- Announcing a case again keeps its place. -/
theorem map_parts_announce (id : String) (path : Path) (key : String) (ps : List Pending) :
    (announce id path key ps).map (·.path.parts)
      = if path.parts ∈ ps.map (·.path.parts) then ps.map (·.path.parts)
        else ps.map (·.path.parts) ++ [path.parts] := by
  induction ps with
  | nil => rfl
  | cons p ps ih =>
    rw [announce]
    by_cases hp : p.path.Same path
    · have hparts : p.path.parts = path.parts := hp
      rw [if_pos hp]
      simp [hparts]
    · have hparts : path.parts ≠ p.path.parts := fun h => hp h.symm
      rw [if_neg hp, List.map_cons, ih]
      simp only [List.map_cons, List.mem_cons, hparts, false_or]
      split <;> rfl

theorem mem_announce {id : String} {path : Path} {key : String} {ps : List Pending} {p : Pending}
    (h : p ∈ announce id path key ps) :
    p ∈ ps ∨ p.id = id ∧ p.sectionKey = key ∧ path.Same p.path := by
  induction ps with
  | nil =>
    rw [announce, List.mem_singleton] at h
    subst h
    exact .inr ⟨rfl, rfl, rfl⟩
  | cons q ps ih =>
    rw [announce] at h
    split at h
    · next hq =>
      rcases List.mem_cons.1 h with rfl | h
      · exact .inr ⟨rfl, rfl, hq.symm⟩
      · exact .inl (List.mem_cons_of_mem _ h)
    · rcases List.mem_cons.1 h with rfl | h
      · exact .inl List.mem_cons_self
      · exact (ih h).imp_left (List.mem_cons_of_mem _)

theorem path_mem_announce {id : String} {path : Path} {key : String} {ps : List Pending}
    {p : Pending} (h : p ∈ announce id path key ps) :
    p.path = path ∨ p.path ∈ ps.map Pending.path := by
  induction ps with
  | nil =>
    rw [announce, List.mem_singleton] at h
    exact .inl (h ▸ rfl)
  | cons q ps ih =>
    rw [List.map_cons, List.mem_cons]
    rw [announce] at h
    split at h
    · rcases List.mem_cons.1 h with rfl | h
      · exact .inr (.inl rfl)
      · exact .inr (.inr (List.mem_map_of_mem h))
    · rcases List.mem_cons.1 h with rfl | h
      · exact .inr (.inl rfl)
      · exact (ih h).imp_right .inr

/-- What a sequence of calls leaves: results with distinct paths that count, and cases pending. -/
structure Ledger (calls : List Call) (pending : List Pending) (rs : List Result) : Prop where
  tally : ofCalls calls = ofResults pending rs
  nodup : (pending.map (·.path.parts) ++ rs.map (·.path.parts)).Nodup
  covers : ∀ parts, parts ∈ pending.map (·.path.parts) ∨ parts ∈ rs.map (·.path.parts) ↔
    parts ∈ calls.map (·.path.parts)
  announced : ∀ p ∈ pending,
    ∃ path, .expect p.id path p.sectionKey ∈ calls ∧ path.Same p.path
  spelled : ∀ p ∈ pending, p.path ∈ calls.map Call.path

namespace Ledger

variable {calls : List Call} {pending : List Pending} {rs : List Result}

theorem distinct (h : Ledger calls pending rs) :
    Path.Distinct (pending.map Pending.path ++ rs.map Result.path) := by
  rw [Path.distinct_iff_nodup, List.map_append, List.map_map, List.map_map]
  exact h.nodup

theorem not_same (h : Ledger calls pending rs) {p : Pending} (hp : p ∈ pending) {r : Result}
    (hr : r ∈ rs) : ¬ p.path.Same r.path := by
  have hdisjoint := (List.nodup_append'.1 h.nodup).2.2
  intro hsame
  exact hdisjoint (List.mem_map.2 ⟨p, hp, rfl⟩) (List.mem_map.2 ⟨r, hr, hsame.symm⟩)

theorem spelled_concat (h : Ledger calls pending rs) (c : Call) {p : Pending}
    (hp : p ∈ pending) : p.path ∈ (calls ++ [c]).map Call.path := by
  rw [List.map_append]
  exact List.mem_append_left _ (h.spelled p hp)

theorem announced_concat (h : Ledger calls pending rs) (c : Call) {p : Pending}
    (hp : p ∈ pending) :
    ∃ path, .expect p.id path p.sectionKey ∈ calls ++ [c] ∧ path.Same p.path := by
  obtain ⟨path, hmem, hpath⟩ := h.announced p hp
  exact ⟨path, List.mem_append_left _ hmem, hpath⟩

/-- A call about a case that has a result leaves everything as it is. -/
theorem settled (h : Ledger calls pending rs) {c : Call} (hc : ∃ r ∈ rs, r.path.Same c.path) :
    Ledger (calls ++ [c]) pending rs := by
  obtain ⟨r, hr, hsame⟩ := hc
  refine ⟨?_, h.nodup, fun parts => ?_, fun p hp => h.announced_concat c hp,
    fun p hp => h.spelled_concat c hp⟩
  · rw [ofCalls_concat, h.tally]
    cases c with
    | expect id path key =>
      exact if_pos (hasRecorded_ofResults.2 ⟨r, hr, hsame⟩)
    | record s => exact record_ofResults_of_same hr hsame
  · have hmem : c.path.parts ∈ calls.map (·.path.parts) :=
      (h.covers _).1 (.inr (List.mem_map.2 ⟨r, hr, hsame⟩))
    rw [h.covers, List.map_append, List.mem_append, List.map_singleton, List.mem_singleton]
    constructor
    · exact .inl
    · rintro (hparts | rfl)
      · exact hparts
      · exact hmem

theorem expect (h : Ledger calls pending rs) (id : String) {path : Path} (key : String)
    (hfresh : ∀ r ∈ rs, ¬ r.path.Same path) :
    Ledger (calls ++ [.expect id path key]) (announce id path key pending) rs := by
  have hparts := map_parts_announce id path key pending
  have hnot : path.parts ∉ rs.map (·.path.parts) := by
    intro hmem
    obtain ⟨r, hr, hsame⟩ := List.mem_map.1 hmem
    exact hfresh r hr hsame
  refine ⟨?_, ?_, fun parts => ?_, fun p hp => ?_, fun p hp => ?_⟩
  · have : ¬ (ofResults pending rs).hasRecorded path = true := by
      rw [hasRecorded_ofResults]
      exact fun ⟨r, hr, hsame⟩ => hfresh r hr hsame
    rw [ofCalls_concat, h.tally, take, Tally.expect, if_neg this]
    rfl
  · rw [hparts]
    split
    · exact h.nodup
    · next hnew =>
      rw [List.append_assoc, List.singleton_append]
      refine List.nodup_middle.2 (List.nodup_cons.2 ⟨fun hmem => ?_, h.nodup⟩)
      exact (List.mem_append.1 hmem).elim hnew hnot
  · rw [hparts, List.map_append, List.mem_append, ← h.covers, List.map_singleton,
      List.mem_singleton]
    split
    · next hold =>
      constructor
      · exact .inl
      · rintro (hmem | rfl)
        · exact hmem
        · exact .inl hold
    · rw [List.mem_append, List.mem_singleton]
      exact or_right_comm
  · rcases mem_announce hp with hold | ⟨rfl, rfl, hsame⟩
    · exact h.announced_concat _ hold
    · exact ⟨path, List.mem_append_right _ (List.mem_singleton_self _), hsame⟩
  · rcases path_mem_announce hp with hpath | hold
    · rw [hpath, List.map_append]
      exact List.mem_append_right _ (List.mem_singleton_self _)
    · obtain ⟨q, hq, hpath⟩ := List.mem_map.1 hold
      exact hpath ▸ h.spelled_concat _ hq

theorem record (h : Ledger calls pending rs) {r : Result}
    (hfresh : ∀ s ∈ rs, ¬ s.path.Same r.path) :
    Ledger (calls ++ [.record r]) (pending.filter fun p => !decide (p.path.Same r.path))
      (r :: rs) := by
  obtain ⟨hpending, hrs, hdisjoint⟩ := List.nodup_append'.1 h.nodup
  refine ⟨?_, ?_, fun parts => ?_, fun p hp => ?_,
    fun p hp => h.spelled_concat _ (List.mem_of_mem_filter hp)⟩
  · rw [ofCalls_concat, h.tally]
    exact record_ofResults hfresh
  · rw [List.map_cons, List.nodup_append']
    refine ⟨hpending.sublist (List.filter_sublist.map _), List.nodup_cons.2 ⟨?_, hrs⟩, ?_⟩
    · intro hmem
      obtain ⟨s, hs, hsame⟩ := List.mem_map.1 hmem
      exact hfresh s hs hsame
    · intro parts hleft hright
      obtain ⟨p, hp, rfl⟩ := List.mem_map.1 hleft
      obtain ⟨hp, hne⟩ := List.mem_filter.1 hp
      rcases List.mem_cons.1 hright with heq | hright
      · rw [Bool.not_eq_true', decide_eq_false_iff_not] at hne
        exact hne heq
      · exact hdisjoint (List.mem_map_of_mem hp) hright
  · rw [List.map_append, List.mem_append, ← h.covers, List.map_singleton, List.mem_singleton,
      List.map_cons, List.mem_cons]
    constructor
    · rintro (hleft | heq | hright)
      · obtain ⟨p, hp, hparts⟩ := List.mem_map.1 hleft
        exact .inl (.inl (List.mem_map.2 ⟨p, List.mem_of_mem_filter hp, hparts⟩))
      · exact .inr heq
      · exact .inl (.inr hright)
    · rintro ((hleft | hright) | heq)
      · obtain ⟨p, hp, rfl⟩ := List.mem_map.1 hleft
        by_cases hsame : p.path.Same r.path
        · exact .inr (.inl hsame)
        · exact .inl (List.mem_map.2 ⟨p, List.mem_filter.2 ⟨hp, by simpa using hsame⟩, rfl⟩)
      · exact .inr (.inr hright)
      · exact .inr (.inl heq)
  · exact h.announced_concat _ (List.mem_of_mem_filter hp)

end Ledger

/-- Every sequence of calls leaves the results that count and what is pending. -/
theorem ledger_ofCalls (calls : List Call) :
    Ledger calls (ofCalls calls).pending (counted calls) := by
  induction calls using List.reverseRecOn with
  | nil =>
    exact ⟨rfl, .nil, fun _ => or_self_iff, fun _ hp => absurd hp List.not_mem_nil,
      fun _ hp => absurd hp List.not_mem_nil⟩
  | append_singleton calls c ih =>
    have hpending {ps : List Pending} {rs : List Result} (h : Ledger (calls ++ [c]) ps rs) :
        (ofCalls (calls ++ [c])).pending = ps := by
      rw [h.tally]
      rfl
    by_cases hold : ∃ r ∈ counted calls, r.path.Same c.path
    · have h := ih.settled hold
      rw [hpending h]
      cases c with
      | expect id path key => rwa [counted_concat_expect]
      | record s =>
        obtain ⟨r, hr, hsame⟩ := hold
        rwa [counted_concat_record, if_neg fun hall => hall r hr hsame.symm]
    · have hfresh : ∀ r ∈ counted calls, ¬ r.path.Same c.path :=
        fun r hr hsame => hold ⟨r, hr, hsame⟩
      cases c with
      | expect id path key =>
        have h := ih.expect id key hfresh
        rw [hpending h, counted_concat_expect]
        exact h
      | record s =>
        have h := ih.record hfresh
        rw [hpending h, counted_concat_record, if_pos fun r hr hsame => hfresh r hr hsame.symm]
        exact h

/-! ### What closing leaves -/

/-- The results that count when the run has ended, as they came, and after them the crashes. -/
def closed (calls : List Call) (c : Completion) : List Result :=
  (counted calls).reverse ++ c.crashed (ofCalls calls).pending

theorem finish_ofCalls (calls : List Call) (c : Completion) :
    (ofCalls calls).finish c
      = .ofResults (closed calls c) ((c.left (ofCalls calls).pending).map Pending.id) := by
  have h := ledger_ofCalls calls
  rw [closed, ← finish_ofResults h.distinct, ← h.tally]

theorem distinct_closed (calls : List Call) (c : Completion) :
    Path.Distinct ((closed calls c).map Result.path) := by
  have hp : ((c.crashed (ofCalls calls).pending).reverse ++ counted calls).Perm (closed calls c) :=
    List.perm_append_comm.trans ((List.reverse_perm _).symm.append (List.reverse_perm _))
  exact (distinct_crashed_append (ledger_ofCalls calls).distinct c).perm (hp.map _)

/-- A result that counts has a path that was spelled so in a call. -/
theorem path_mem_of_mem_closed {calls : List Call} {c : Completion} {r : Result}
    (hr : r ∈ closed calls c) : r.path ∈ calls.map Call.path := by
  rcases List.mem_append.1 hr with hr | hr
  · rw [List.mem_reverse] at hr
    exact List.mem_map.2 ⟨_, record_mem_of_mem_counted hr, rfl⟩
  · cases c with
    | complete =>
      obtain ⟨p, hp, rfl⟩ := List.mem_map.1 hr
      exact (ledger_ofCalls calls).spelled p ((Pending.inPathOrder_perm _).mem_iff.1 hp)
    | cancelled => cases hr

/-- Entries of paths that are printed apart do not tie. -/
theorem untied_finish {calls : List Call} (h : Path.PrintedApart (calls.map Call.path))
    (c : Completion) : ((ofCalls calls).finish c).Untied := by
  rw [finish_ofCalls]
  refine Summary.untied_ofResults (distinct_closed calls c) (h.subset fun q hq => ?_) _
  obtain ⟨r, hr, rfl⟩ := List.mem_map.1 hq
  exact path_mem_of_mem_closed hr

/-! ### Calls that tie -/

/-- Two cases of one name that fail, at paths that are printed alike. -/
def twins : List Call :=
  [.record (.make "S1" (.stray 0xff) "15" .fail (some (.assertionFailed "$ERROR" "one")) ⟨0⟩),
    .record (.make "S1" (.stray 0xfe) "15" .fail (some (.assertionFailed "$ERROR" "two")) ⟨0⟩)]

theorem key_twins : ∀ calls ∈ [twins, twins.reverse], ∀ f ∈ (ofCalls calls).failures,
    f.key = toLex ("S1", "cases/a\uFFFD.js") := by decide

end Conformance.Tally
