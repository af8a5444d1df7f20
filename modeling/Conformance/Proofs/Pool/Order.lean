import Conformance.Proofs.Pool.Finish
import Conformance.Proofs.Pool.Progress
import Conformance.Proofs.Verdict

/-!
# A single worker takes the cases in order

Cases go to the engine by way of the feeder, the queue and a worker. Where there is only one worker,
none overtakes another on this way: as long as the token is not set, what was handed to the engine
and what is under way, in this order, are the accepted cases (`handed_append_underway_step`). Once
the token is set feeder and worker may leave out cases in between, but then nothing is handed to the
engine any more. So what was handed to it is always a front of the accepted cases.
-/

namespace Conformance

def Discovered.case? : Discovered → Option Case
  | .case c => some c
  | .malformed _ => none

/-- The accepted cases of a scan, up to its first fault. -/
def RunOptions.cases (o : RunOptions) (items : List Pool.Item) : List Case :=
  (o.scope items).filterMap Discovered.case?

namespace Pool

/-- The case that a worker has taken and not handed to the engine. -/
def Worker.waiting? : Worker → Option Case
  | .holding c => some c
  | _ => none

namespace State

/-- The cases that are under way to the engine, those that are further along first. -/
def underway (o : RunOptions) (s : State) : List Case :=
  s.workers.filterMap Worker.waiting? ++ s.jobs
    ++ (s.feeder.held ++ s.feeder.ahead o).filterMap Discovered.case?

variable {o : RunOptions} {items : List Item} {cancelled : Bool} {moves : List Move}
  {notes : List Note} {s t : State} {m : Move} {n : Option Note}

theorem Sound.workers_eq_singleton (hs : s.Sound o) (hone : o.workers = 1) {i : Nat} {w : Worker}
    (hi : s.workers[i]? = some w) : i = 0 ∧ s.workers = [w] := by
  obtain ⟨w', hw'⟩ := List.length_eq_one_iff.1 (hs.workers.trans hone)
  rw [hw'] at hi ⊢
  obtain ⟨hlt, rfl⟩ := List.getElem?_eq_some_iff.1 hi
  have hzero : i = 0 := Nat.lt_one_iff.1 hlt
  subst hzero
  exact ⟨rfl, rfl⟩

/-- While the token is not set, a step moves the cases along and keeps their order. -/
theorem handed_append_underway_step (h : Step o s m n t) (hs : s.Sound o) (hone : o.workers = 1)
    (hseen : ∀ d rest, s.feeder = .announcing d true rest → s.cancelled = true)
    (hquiet : s.cancelled = false)
    (ih : notes.filterMap Note.handed? ++ s.underway o = o.cases items) :
    (notes ++ n.toList).filterMap Note.handed? ++ t.underway o = o.cases items := by
  rw [← ih, underway, underway]
  cases h with
  | leave h =>
    rw [hseen _ _ h] at hquiet
    cases hquiet
  | skip hi hcancelled =>
    rw [hcancelled] at hquiet
    cases hquiet
  | take hi hjobs | stop hi hjobs | hand hi | answer hi | deliver hi =>
    obtain ⟨rfl, hworkers⟩ := hs.workers_eq_singleton hone hi
    simp_all [Worker.waiting?, Note.handed?, List.filterMap_cons]
  | @receive e events h => cases e <;> simp [Note.handed?, State.receive]
  | close | cancel => simp [Note.handed?]
  | exhaust h | abort h | reject h hd | accept h hd | announceCase h | announceMalformed h
  | submit h | report h =>
    simp_all [Feeder.held, Feeder.ahead, Feeder.rest, RunOptions.scope, Discovered.case?,
      Note.handed?, List.filterMap_cons]

theorem handed_of_cancelled_step (h : Step o s m n t) (hc : s.cancelled = true)
    (notes : List Note) :
    (notes ++ n.toList).filterMap Note.handed? = notes.filterMap Note.handed? := by
  rw [List.filterMap_append]
  cases h with
  | hand hi hcancelled =>
    rw [hc] at hcancelled
    cases hcancelled
  | _ => simp [Note.handed?]

/-- What was handed to the engine is a front of the accepted cases, and as long as the token is not
set the rest of them is under way. -/
structure InOrder (o : RunOptions) (items : List Item) (notes : List Note) (s : State) : Prop where
  handed : notes.filterMap Note.handed? <+: o.cases items
  underway : s.cancelled = false →
    notes.filterMap Note.handed? ++ s.underway o = o.cases items

theorem inOrder_start (o : RunOptions) (items : List Item) (cancelled : Bool) :
    (start o items cancelled).InOrder o items [] := by
  refine ⟨List.nil_prefix, fun _ => ?_⟩
  have hworkers : (start o items cancelled).workers.filterMap Worker.waiting? = [] := by
    rw [List.filterMap_eq_nil_iff]
    intro w hw
    rw [List.eq_of_mem_replicate hw]
    rfl
  rw [underway, hworkers]
  rfl

theorem InOrder.step (hi : s.InOrder o items notes) (h : Step o s m n t) (hs : s.Sound o)
    (hone : o.workers = 1)
    (hseen : ∀ d rest, s.feeder = .announcing d true rest → s.cancelled = true) :
    t.InOrder o items (notes ++ n.toList) := by
  cases hc : s.cancelled with
  | false =>
    have hline := handed_append_underway_step h hs hone hseen hc (hi.underway hc)
    exact ⟨⟨_, hline⟩, fun _ => hline⟩
  | true =>
    refine ⟨?_, fun hquiet => ?_⟩
    · rw [handed_of_cancelled_step h hc]
      exact hi.handed
    · rw [cancelled_step h hc] at hquiet
      cases hquiet

theorem inOrder_of_follow (hone : o.workers = 1)
    (h : (start o items cancelled).follow o moves = some t) :
    t.InOrder o items ((start o items cancelled).journal o moves) := by
  refine (run_induction (P := fun notes s => s.Balanced o items notes ∧ s.InOrder o items notes)
    ⟨balanced_start o items cancelled, inOrder_start o items cancelled⟩ ?_ h).2
  intro notes s m n t hs ih hstep
  exact ⟨ih.1.step hstep, ih.2.step hstep hs hone ih.1.seen⟩

theorem Resting.underway_eq_nil (h : t.Resting) : t.underway o = [] := by
  have hworkers : t.workers.filterMap Worker.waiting? = [] := by
    rw [List.filterMap_eq_nil_iff]
    intro w hw
    rw [h.workers w hw]
    rfl
  rw [underway, hworkers, h.jobs, h.feeder]
  rfl

/-- With one worker the programs that the engine has got at any moment of a run, whoever cancels and
when, are a front of those of the accepted cases, in their order. Every run comes to its end, and if
the token is not set at the end the engine has got all of them. -/
theorem history_prefix_of_follow (hone : o.parallelism ≤ 1)
    (h : (start o items cancelled).follow o moves = some t) :
    let programs := (o.cases items).map fun c => (⟨c.id, c.source, c.strict⟩ : Program)
    t.history.reverse <+: programs ∧
      (moves.filter Move.working).length ≤ moveBound o items ∧
      (t.Halted o → t.finished = true ∧ (t.cancelled = false → t.history.reverse = programs)) := by
  have hone : o.workers = 1 := by
    rw [RunOptions.workers]
    omega
  have hb := balanced_of_follow h
  have hi := inOrder_of_follow hone h
  have hs := sound_of_follow h
  have hhistory : t.history.reverse
      = (((start o items cancelled).journal o moves).filterMap Note.handed?).map Case.program := by
    rw [hb.history, List.reverse_reverse]
  refine ⟨?_, length_le_moveBound h, fun hhalted => ?_⟩
  · rw [hhistory]
    exact hi.handed.map _
  · have hfinished := hs.finished_of_halted hhalted
    refine ⟨hfinished, fun hquiet => ?_⟩
    have hline := hi.underway hquiet
    rw [(hs.resting hfinished).underway_eq_nil, List.append_nil] at hline
    rw [hhistory, hline]
    rfl

/-- This counts as one worker. -/
def zeroParallelism : RunOptions := ⟨0, none, none, ⟨0⟩⟩

/-- A malformed case between two cases, and a fault before the last case. -/
def faultAmongCases : List Item :=
  [.ok (.case (.plain "a.js" none)), .ok (.malformed ⟨.ofText "m.js", "m", "bad"⟩),
    .ok (.case (.plain "b.js" none)), .error (.workerPool "scan"),
    .ok (.case (.plain "c.js" none))]

/-- The engine cancels while it has the first case, when the second one is in the queue. -/
def cancelledMeanwhile : List Move :=
  [.feed, .feed, .feed, .work 0, .work 0, .feed, .feed, .feed, .feed, .feed, .feed, .cancel,
    .answer 0 (.outcome .completed) ⟨0⟩, .work 0, .work 0, .work 0, .feed, .work 0,
    .collect, .collect, .collect, .collect, .collect, .collect, .collect]

theorem history_prefix_cancelledMeanwhile :
    ∃ t, (start zeroParallelism faultAmongCases false).follow zeroParallelism cancelledMeanwhile
        = some t ∧ t.finished = true ∧ t.history = [⟨"a.js", "", false⟩] ∧
      t.history.reverse <+: (zeroParallelism.cases faultAmongCases).map fun c =>
        (⟨c.id, c.source, c.strict⟩ : Program) := by
  obtain ⟨t, hrun, hfinished, hhistory⟩ :
      ∃ t, (start zeroParallelism faultAmongCases false).follow zeroParallelism cancelledMeanwhile
          = some t ∧ t.finished = true ∧ t.history = [⟨"a.js", "", false⟩] := ⟨_, rfl, rfl, rfl⟩
  exact ⟨t, hrun, hfinished, hhistory, (history_prefix_of_follow (by decide) hrun).1⟩

end State

end Pool

end Conformance
