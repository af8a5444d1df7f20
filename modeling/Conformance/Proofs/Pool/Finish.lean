import Conformance.Proofs.Pool.Balance

/-!
# What a finished run leaves

When all have stopped nothing is under way, and the equations of `Balanced` become equations between
the items, the journal and the tally alone: every accepted item was announced and came to its end,
and every result there is was received. So the tally is that of these calls, in whatever order they
came. Nothing is pending unless something was left out, and that happens in cancelled runs only.
So what is pending is what the summary says was not run.
-/

namespace Conformance

/-- The result is one of the item. -/
structure Result.Of (r : Result) (d : Discovered) : Prop where
  id : r.id = d.id
  path : r.path = d.path
  sectionKey : r.sectionKey = d.sectionKey

theorem Case.resultOf_of (c : Case) (budget : Duration) (a : Answer) (elapsed : Duration) :
    (c.resultOf budget a elapsed).Of (.case c) := ⟨rfl, rfl, rfl⟩

theorem Result.ofMalformed_of (m : MalformedCase) : (ofMalformed m).Of (.malformed m) :=
  ⟨rfl, rfl, rfl⟩

/-- Of items with distinct paths one is known by its path. -/
theorem Discovered.eq_of_same {ds : List Discovered} (h : Path.Distinct (ds.map path))
    {d d' : Discovered} (hd : d ∈ ds) (hd' : d' ∈ ds) (hsame : d.path.Same d'.path) : d = d' := by
  rw [Path.distinct_iff_nodup, List.map_map] at h
  exact List.inj_on_of_nodup_map h hd hd' hsame

namespace Pool

theorem filterMap_sublist_filterMap {α β : Type} {f g : α → Option β} {l : List α}
    (h : ∀ a ∈ l, ∀ b, f a = some b → g a = some b) : (l.filterMap f).Sublist (l.filterMap g) := by
  induction l with
  | nil => exact .slnil
  | cons a l ih =>
    have hrest := ih fun a ha => h a (List.mem_cons_of_mem _ ha)
    cases hf : f a with
    | some b =>
      rw [List.filterMap_cons_some hf, List.filterMap_cons_some (h a List.mem_cons_self b hf)]
      exact hrest.cons_cons b
    | none =>
      rw [List.filterMap_cons_none hf]
      exact hrest.trans ((List.sublist_cons_self a l).filterMap g)

/-- What the tally was told. -/
def calls (notes : List Note) : List Tally.Call := (received notes).filterMap Event.call?

theorem filterMap_result?_calls (notes : List Note) :
    (calls notes).filterMap Tally.Call.result? = (received notes).filterMap Event.result? := by
  rw [calls, List.filterMap_filterMap]
  congr 1
  funext e
  cases e <;> rfl

theorem mem_calls {notes : List Note} {call : Tally.Call} :
    call ∈ calls notes ↔
      (∃ d ∈ (received notes).filterMap Event.item?, call = .expect d.id d.path d.sectionKey) ∨
        ∃ r ∈ (received notes).filterMap Event.result?, call = .record r := by
  simp only [calls, List.mem_filterMap]
  constructor
  · rintro ⟨e, he, hcall⟩
    cases e with
    | announced d => exact .inl ⟨d, ⟨_, he, rfl⟩, (Option.some.inj hcall).symm⟩
    | finished r => exact .inr ⟨r, ⟨_, he, rfl⟩, (Option.some.inj hcall).symm⟩
    | fault a => cases hcall
  · rintro (⟨d, ⟨e, he, hd⟩, rfl⟩ | ⟨r, ⟨e, he, hr⟩, rfl⟩)
    · cases e with
      | announced => cases hd; exact ⟨_, he, rfl⟩
      | finished | fault => cases hd
    · cases e with
      | finished => cases hr; exact ⟨_, he, rfl⟩
      | announced | fault => cases hr

theorem Note.exists_item_of_result {o : RunOptions} {n : Note} {r : Result}
    (h : n.result? o = some r) : ∃ d, n.item? = some d ∧ r.Of d := by
  cases n with
  | answered c a elapsed => cases h; exact ⟨_, rfl, c.resultOf_of o.budget a elapsed⟩
  | reported m => cases h; exact ⟨_, rfl, Result.ofMalformed_of m⟩
  | skipped | handed | received | cancelled => cases h

/-- An item that came to its end was left out or has a result. -/
theorem Note.skipped_or_exists_result (o : RunOptions) {n : Note} {d : Discovered}
    (h : n.item? = some d) : n = .skipped d ∨ ∃ r, n.result? o = some r ∧ r.Of d := by
  cases n with
  | skipped => cases h; exact .inl rfl
  | answered c a elapsed => cases h; exact .inr ⟨_, rfl, c.resultOf_of o.budget a elapsed⟩
  | reported m => cases h; exact .inr ⟨_, rfl, Result.ofMalformed_of m⟩
  | handed | received | cancelled => cases h

namespace State

variable {o : RunOptions} {items : List Item} {notes : List Note} {t : State}

/-- Nothing is under way. -/
structure Resting (t : State) : Prop where
  feeder : t.feeder = .done
  jobs : t.jobs = []
  workers : ∀ w ∈ t.workers, w = .done
  events : t.events = []

theorem Sound.resting (hs : t.Sound o) (h : t.finished = true) : t.Resting := by
  have hcollected : t.collected = true := by
    rw [finished, Bool.and_eq_true, Bool.and_eq_true] at h
    exact h.1.1
  obtain ⟨hfeeder, hworkers, hevents⟩ := hs.collected hcollected
  obtain ⟨w, hw⟩ := hs.exists_worker
  exact ⟨hfeeder, (hs.stopped (hworkers w hw ▸ hw)).2, hworkers, hevents⟩

/-- What became of the items of a finished run, and what its tally was told. -/
structure Settled (o : RunOptions) (items : List Item) (notes : List Note) (t : State) :
    Prop where
  fault : t.fault? = firstFault? items
  tally : t.tally = .ofCalls (calls notes)
  announced : (received notes).filterMap Event.item? = o.scope items
  handed_subperm : ((notes.filterMap Note.handed?).map .case).Subperm (o.scope items)
  items : (o.scope items).Perm (notes.filterMap Note.item?)
  results : ((received notes).filterMap Event.result?).Perm (notes.filterMap (Note.result? o))
  handed : (notes.filterMap Note.handed?).Perm ((notes.filterMap Note.answer?).map Prod.fst)
  history : t.history = ((notes.filterMap Note.handed?).map Case.program).reverse
  skipped : ∀ d, .skipped d ∈ notes → t.cancelled = true

/-- The engine got each accepted case once at most. -/
theorem Balanced.handed_subperm (hb : t.Balanced o items notes) :
    ((notes.filterMap Note.handed?).map .case).Subperm (o.scope items) := by
  have hanswered : (((notes.filterMap Note.answer?).map Prod.fst).map Discovered.case).Sublist
      (notes.filterMap Note.item?) := by
    rw [List.map_map, List.map_filterMap]
    refine filterMap_sublist_filterMap fun n _ d hd => ?_
    cases n with
    | answered => exact hd
    | skipped | handed | reported | received | cancelled => cases hd
  have hevaluated : ((t.workers.filterMap Worker.evaluated?).map Discovered.case).Sublist
      (t.workers.filterMap Worker.held?) := by
    rw [List.map_filterMap]
    refine filterMap_sublist_filterMap fun w _ d hd => ?_
    cases w with
    | evaluating => exact hd
    | idle | holding | sending | done => cases hd
  -- what was handed over was answered or is being evaluated, and both were announced before
  refine (hb.handed.map _).subperm.trans (.trans ?_ hb.announced_sublist.subperm)
  refine .trans (List.Sublist.subperm ?_) hb.items.symm.subperm
  rw [List.map_append]
  refine List.Sublist.append (hanswered.trans ?_) hevaluated
  rw [List.append_assoc]
  exact List.sublist_append_left _ _

theorem Balanced.settled (hb : t.Balanced o items notes) (hr : t.Resting) :
    t.Settled o items notes := by
  have hsent : t.sent notes = received notes := by rw [sent, hr.events, List.append_nil]
  have hworkers {β : Type} (f : Worker → Option β) (hf : f .done = none) :
      t.workers.filterMap f = [] := by
    rw [List.filterMap_eq_nil_iff]
    intro w hw
    rw [hr.workers w hw, hf]
  have hannounced : (received notes).filterMap Event.item? = o.scope items := by
    have := hb.announced
    rwa [hsent, hr.feeder, show Feeder.done.ahead o = [] from rfl, List.append_nil] at this
  refine ⟨?_, hb.tally, hannounced, hb.handed_subperm, ?_, ?_, ?_, hb.history, hb.skipped⟩
  · have := hb.faults
    rw [hsent, hr.feeder, show firstFault? Feeder.done.rest = none from rfl, Option.toList_none,
      List.append_nil] at this
    rw [hb.fault, this]
    cases firstFault? items <;> rfl
  · have := hb.items
    rw [hsent, hannounced, hr.feeder, hr.jobs, hworkers Worker.held? rfl] at this
    simpa [Feeder.held] using this
  · have := hb.results
    rwa [hsent, hworkers Worker.result? rfl, List.append_nil] at this
  · have := hb.handed
    rwa [hworkers Worker.evaluated? rfl, List.append_nil] at this

theorem settled_of_follow {cancelled : Bool} {moves : List Move}
    (hrun : (start o items cancelled).follow o moves = some t) (h : t.finished = true) :
    t.Settled o items ((start o items cancelled).journal o moves) :=
  (balanced_of_follow hrun).settled ((sound_of_follow hrun).resting h)

namespace Settled

variable (h : t.Settled o items notes)
include h

theorem exists_item_of_result {r : Result} (hr : r ∈ notes.filterMap (Note.result? o)) :
    ∃ d ∈ o.scope items, r.Of d := by
  obtain ⟨n, hn, hr⟩ := List.mem_filterMap.1 hr
  obtain ⟨d, hd, hof⟩ := Note.exists_item_of_result hr
  exact ⟨d, h.items.mem_iff.2 (List.mem_filterMap.2 ⟨n, hn, hd⟩), hof⟩

theorem skipped_or_exists_result {d : Discovered} (hd : d ∈ o.scope items) :
    .skipped d ∈ notes ∨ ∃ r ∈ notes.filterMap (Note.result? o), r.Of d := by
  obtain ⟨n, hn, hitem⟩ := List.mem_filterMap.1 (h.items.mem_iff.1 hd)
  rcases n.skipped_or_exists_result o hitem with rfl | ⟨r, hr, hof⟩
  · exact .inl hn
  · exact .inr ⟨r, List.mem_filterMap.2 ⟨n, hn, hr⟩, hof⟩

/-- What the tally was told is what it was told of the accepted items. -/
theorem mem_calls {call : Tally.Call} :
    call ∈ calls notes ↔ (∃ d ∈ o.scope items, call = .expect d.id d.path d.sectionKey) ∨
      ∃ r ∈ notes.filterMap (Note.result? o), call = .record r := by
  rw [Pool.mem_calls, h.announced]
  simp only [h.results.mem_iff]

theorem mem_parts_calls {parts : List Path.Part} :
    parts ∈ (calls notes).map (·.path.parts) ↔ parts ∈ (o.scope items).map (·.path.parts) := by
  simp only [List.mem_map, h.mem_calls]
  constructor
  · rintro ⟨call, ⟨d, hd, rfl⟩ | ⟨r, hr, rfl⟩, rfl⟩
    · exact ⟨d, hd, rfl⟩
    · obtain ⟨d, hd, hof⟩ := h.exists_item_of_result hr
      exact ⟨d, hd, congrArg Path.parts hof.path.symm⟩
  · rintro ⟨d, hd, rfl⟩
    exact ⟨_, .inl ⟨d, hd, rfl⟩, rfl⟩

theorem ledger : Tally.Ledger (calls notes) t.tally.pending (Tally.counted (calls notes)) :=
  h.tally ▸ Tally.ledger_ofCalls (calls notes)

theorem tally_eq : t.tally = .ofResults t.tally.pending (Tally.counted (calls notes)) :=
  h.tally.trans h.ledger.tally

/-- Every result that an item came to was recorded, or another one of the same path before it. -/
theorem exists_counted {r : Result} (hr : r ∈ notes.filterMap (Note.result? o)) :
    ∃ s ∈ Tally.counted (calls notes), s.path.Same r.path :=
  Tally.exists_mem_counted (h.mem_calls.2 (.inr ⟨r, hr, rfl⟩))

theorem mem_results_of_counted {r : Result} (hr : r ∈ Tally.counted (calls notes)) :
    r ∈ notes.filterMap (Note.result? o) := by
  rcases h.mem_calls.1 (Tally.record_mem_of_mem_counted hr) with ⟨d, _, hd⟩ | ⟨s, hs, hrs⟩
  · cases hd
  · cases hrs
    exact hs

theorem exists_item_of_pending {p : Pending} (hp : p ∈ t.tally.pending) :
    ∃ d ∈ o.scope items, p.id = d.id ∧ p.sectionKey = d.sectionKey ∧ d.path.Same p.path := by
  obtain ⟨path, hcall, hsame⟩ := h.ledger.announced p hp
  rcases h.mem_calls.1 hcall with ⟨d, hd, heq⟩ | ⟨r, _, heq⟩
  · obtain ⟨hid, rfl, hkey⟩ := Tally.Call.expect.inj heq
    exact ⟨d, hd, hid, hkey, hsame⟩
  · cases heq

theorem not_same_of_pending {p : Pending} (hp : p ∈ t.tally.pending) {r : Result}
    (hr : r ∈ notes.filterMap (Note.result? o)) : ¬ p.path.Same r.path := by
  intro hsame
  obtain ⟨s, hs, hsr⟩ := h.exists_counted hr
  exact h.ledger.not_same hp hs (hsame.trans hsr.symm)

/-- What is pending was left out. -/
theorem exists_skipped_of_pending {p : Pending} (hp : p ∈ t.tally.pending) :
    ∃ d, .skipped d ∈ notes ∧ d.path.Same p.path := by
  obtain ⟨d, hd, _, _, hsame⟩ := h.exists_item_of_pending hp
  rcases h.skipped_or_exists_result hd with hskipped | ⟨r, hr, hof⟩
  · exact ⟨d, hskipped, hsame⟩
  · exact absurd (hof.path ▸ hsame.symm) (h.not_same_of_pending hp hr)

theorem pending_eq_nil (hc : t.cancelled = false) : t.tally.pending = [] := by
  refine List.eq_nil_iff_forall_not_mem.2 fun p hp => ?_
  obtain ⟨d, hd, _⟩ := h.exists_skipped_of_pending hp
  rw [h.skipped d hd] at hc
  cases hc

/-- A run without a fault has a summary, of what is recorded, with what is pending left out. -/
theorem outcome (hfault : firstFault? items = none) :
    t.outcome = .ok (t.tally.summary (t.tally.pending.map (·.id))) := by
  rw [State.outcome, h.fault, hfault]
  cases hc : t.cancelled with
  | true => rfl
  | false =>
    have hnil := h.pending_eq_nil hc
    rw [if_neg Bool.false_ne_true, Tally.finish_complete hnil, hnil, List.map_nil]

theorem firstFault?_eq_none {summary : Summary} (hok : t.outcome = .ok summary) :
    firstFault? items = none := by
  rw [← h.fault]
  cases hf : t.fault? with
  | none => rfl
  | some a =>
    rw [State.outcome, hf] at hok
    cases hok

/-! ### Distinct paths -/

variable (hdistinct : Path.Distinct ((o.scope items).map Discovered.path))
include hdistinct

theorem distinct_results :
    Path.Distinct ((notes.filterMap (Note.result? o)).map Result.path) := by
  refine (hdistinct.perm (h.items.map _)).sublist ?_
  rw [List.map_filterMap, List.map_filterMap]
  refine filterMap_sublist_filterMap fun n _ path hpath => ?_
  obtain ⟨r, hr, rfl⟩ := Option.map_eq_some_iff.1 hpath
  obtain ⟨d, hd, hof⟩ := Note.exists_item_of_result hr
  rw [hd, Option.map_some, hof.path]

theorem counted_perm : (Tally.counted (calls notes)).Perm (notes.filterMap (Note.result? o)) := by
  have hreceived := h.results
  rw [← filterMap_result?_calls] at hreceived
  rw [Tally.counted_eq_of_distinct ((h.distinct_results hdistinct).perm (hreceived.symm.map _))]
  exact (List.reverse_perm _).trans hreceived

end Settled

end State

end Pool

end Conformance
