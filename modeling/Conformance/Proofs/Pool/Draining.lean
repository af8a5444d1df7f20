import Conformance.Proofs.Pool.Finish
import Conformance.Proofs.Pool.Progress
import Conformance.Proofs.Verdict

/-!
# Every run drains

Nobody waits for ever, and everybody has a bounded number of moves, so whatever the order of the
moves and whoever cancels in between, a run with an engine that answers every program comes to its
end. At the end both queues are empty. What was sent was received in the order in which it was sent,
and nothing was sent to nobody.

The queue of events has no bound, so sending never waits. The queue of jobs has one, and that is the
only place where the feeder waits. It waits for the workers, which go on to take jobs after the run
was cancelled, and for nobody else.
-/

namespace Conformance.Pool

/-- Which answers an engine may give to a program, and after how long, by what has happened. -/
abbrev Behaviour := List Note → Program → Answer → Duration → Prop

/-- Each answer is one that the engine may give after what has happened before. -/
def Behaviour.Allows (engine : Behaviour) (notes : List Note) : Prop :=
  ∀ before c a elapsed, before ++ [.answered c a elapsed] <+: notes →
    engine before c.program a elapsed

/-- A run in which all answers are those of an engine. -/
structure RunBy (engine : Behaviour) (o : RunOptions) (items : List Item) (cancelled : Bool)
    (moves : List Move) (t : State) : Prop where
  follow : (State.start o items cancelled).follow o moves = some t
  answers : engine.Allows ((State.start o items cancelled).journal o moves)

namespace State

/-- The event that is sent in a move. -/
def sends? (s : State) : Move → Option Event
  | .feed =>
    match s.feeder with
    | .taking (.error a :: _) => some (.fault a)
    | .announcing d _ _ => some (.announced d)
    | .reporting m _ => some (.finished (.ofMalformed m))
    | _ => none
  | .work i =>
    match s.workers[i]? with
    | some (.sending r) => some (.finished r)
    | _ => none
  | _ => none

variable {o : RunOptions} {items : List Item} {cancelled : Bool} {moves : List Move} {s t : State}
  {m : Move} {n : Option Note}

theorem length_jobs_step (h : Step o s m n t) (hs : s.jobs.length ≤ o.capacity) :
    t.jobs.length ≤ o.capacity := by
  cases h with
  | submit _ hroom =>
    rw [List.length_append, List.length_singleton]
    exact hroom
  | take _ hjobs =>
    rw [hjobs, List.length_cons] at hs
    exact Nat.le_of_succ_le hs
  | @receive e events _ => cases e <;> exact hs
  | _ => exact hs

theorem length_jobs_le_capacity (h : (start o items cancelled).follow o moves = some t) :
    t.jobs.length ≤ o.capacity :=
  run_induction (P := fun _ t => t.jobs.length ≤ o.capacity) (Nat.zero_le _)
    (fun _ _ _ _ _ _ hs hstep => length_jobs_step hstep hs) h

/-- What is in the queue and what is sent is what is received and what is then in the queue. -/
theorem events_step (h : Step o s m n t) :
    s.events ++ (s.sends? m).toList = (n.bind Note.event?).toList ++ t.events := by
  cases h with
  | @receive e events h => cases e <;> simp [sends?, h, Note.event?, State.receive]
  | exhaust h | abort h | reject h | accept h | leave h | announceCase h | announceMalformed h
  | submit h | report h => simp [sends?, h, Note.event?]
  | take hi | stop hi | skip hi | hand hi | answer hi | deliver hi =>
    simp [sends?, hi, Note.event?]
  | close | cancel => simp [sends?, Note.event?]

/-- What was sent is what was received and what is in the queue, in this order. -/
theorem observe_sends? (h : (start o items cancelled).follow o moves = some t) :
    (start o items cancelled).observe o sends? moves
      = t.sent ((start o items cancelled).journal o moves) := by
  refine follow_induction
    (P := fun moves t => (start o items cancelled).observe o sends? moves
      = t.sent ((start o items cancelled).journal o moves))
    rfl (fun moves t m u hrun ih hm => ?_) h
  have hevents := events_step (step_of_move (sound_of_follow hrun) hm)
  rw [observe_concat sends? hrun, ih, journal_concat hrun, sent_append, ← hevents, sent,
    List.append_assoc]

end State

namespace RunBy

open State

variable {engine : Behaviour} {o : RunOptions} {items : List Item} {cancelled : Bool}
  {moves : List Move} {t u : State}

theorem concat (h : RunBy engine o items cancelled moves t) {m : Move} (hm : t.move o m = some u)
    (hpermitted :
      t.Permitted (fun c => engine ((start o items cancelled).journal o moves) c.program) m) :
    RunBy engine o items cancelled (moves ++ [m]) u := by
  refine ⟨follow_concat_of_move h.follow hm, fun before c a elapsed hprefix => ?_⟩
  rw [journal_concat h.follow] at hprefix
  cases hn : t.note? m with
  | none =>
    rw [hn, Option.toList_none, List.append_nil] at hprefix
    exact h.answers before c a elapsed hprefix
  | some n =>
    rw [hn, Option.toList_some, List.prefix_concat_iff] at hprefix
    rcases hprefix with heq | hprefix
    · obtain ⟨rfl, hlast⟩ := List.append_inj' heq rfl
      exact hpermitted c a elapsed (hn.trans (congrArg some (List.singleton_inj.1 hlast).symm))
    · exact h.answers before c a elapsed hprefix

variable (hengine : ∀ notes p, ∃ a elapsed, engine notes p a elapsed)
include hengine

/-- Until all have stopped somebody can move. -/
theorem exists_concat (h : RunBy engine o items cancelled moves t) (hopen : t.finished = false) :
    ∃ m u, m.working = true ∧ RunBy engine o items cancelled (moves ++ [m]) u := by
  obtain ⟨m, hm, hsome, hpermitted⟩ := (sound_of_follow h.follow).exists_move
    (fun c => hengine ((start o items cancelled).journal o moves) c.program) hopen
  obtain ⟨u, hu⟩ := Option.isSome_iff_exists.1 hsome
  exact ⟨m, u, hm, h.concat hu hpermitted⟩

/-- Every run can be completed. -/
theorem exists_finished (h : RunBy engine o items cancelled moves t) :
    ∃ more u, (∀ m ∈ more, m.working = true) ∧
      RunBy engine o items cancelled (moves ++ more) u ∧ u.finished = true := by
  -- there is a bound on the moves, so by induction on what is left of it
  generalize hleft : moveBound o items - (moves.filter Move.working).length = left
  induction left using Nat.strong_induction_on generalizing moves t with
  | _ left ih =>
    cases hfinished : t.finished with
    | true => exact ⟨[], t, nofun, by rwa [List.append_nil], hfinished⟩
    | false =>
      obtain ⟨m, u, hm, hu⟩ := h.exists_concat hengine hfinished
      have hlength : ((moves ++ [m]).filter Move.working).length
          = (moves.filter Move.working).length + 1 := by
        simp [hm]
      have hbound := length_le_moveBound hu.follow
      obtain ⟨more, v, hmore, hv, hend⟩ := ih _ (by omega) hu rfl
      rw [List.append_assoc] at hv
      exact ⟨m :: more, v, List.forall_mem_cons.2 ⟨hm, hmore⟩, hv, hend⟩

end RunBy

/-- Nothing keeps a run from its end, and at its end nothing is left. -/
structure Drains (engine : Behaviour) (o : RunOptions) (items : List Item) (cancelled : Bool)
    (moves : List Move) (t : State) : Prop where
  workers : t.workers.length = max o.parallelism 1
  room : t.jobs.length ≤ 2 * max o.parallelism 1
  /-- Nothing was sent to nobody. -/
  lost : t.lost = false
  bounded : (moves.filter Move.working).length ≤ State.moveBound o items
  /-- Until all have stopped somebody can move. -/
  progress : t.finished = false →
    ∃ m u, m.working = true ∧ RunBy engine o items cancelled (moves ++ [m]) u
  completed : ∃ more u, (∀ m ∈ more, m.working = true) ∧
    RunBy engine o items cancelled (moves ++ more) u ∧ u.finished = true
  drained : t.finished = true → t.jobs = [] ∧ t.events = [] ∧
    received ((State.start o items cancelled).journal o moves)
      = (State.start o items cancelled).observe o State.sends? moves

namespace RunBy

open State

variable {engine : Behaviour} {o : RunOptions} {items : List Item} {cancelled : Bool}
  {moves : List Move} {t : State}

/-- Every run with an engine that answers every program goes on until all have stopped, after a
bounded number of moves, and then both queues are empty and everything sent was received. -/
theorem drains (hengine : ∀ notes p, ∃ a elapsed, engine notes p a elapsed)
    (h : RunBy engine o items cancelled moves t) :
    Drains engine o items cancelled moves t := by
  have hs := sound_of_follow h.follow
  refine ⟨hs.workers, length_jobs_le_capacity h.follow, hs.lost, length_le_moveBound h.follow,
    h.exists_concat hengine, h.exists_finished hengine, fun hfinished => ?_⟩
  have hresting := hs.resting hfinished
  refine ⟨hresting.jobs, hresting.events, ?_⟩
  rw [observe_sends? h.follow, sent, hresting.events, List.append_nil]

/-- Completes the first program it gets, and breaks down at every other. -/
def brittle : Behaviour := fun notes _ a _ =>
  a = if (notes.filterMap Note.answer?).isEmpty then .outcome .completed else .panic none

def smallQueue : RunOptions := ⟨0, none, none, ⟨0⟩⟩

/-- One case more than the queue holds. -/
def crowd : List Item :=
  [.ok (.case (.plain "a.js" none)), .ok (.case (.plain "b.js" none)),
    .ok (.case (.plain "c.js" none))]

/-- The queue is full, and the feeder waits for the worker, which has not moved yet. -/
theorem drains_feeder_waiting :
    ∃ t, RunBy brittle smallQueue crowd false (.replicate 8 .feed) t ∧ t.feed smallQueue = none ∧
      Drains brittle smallQueue crowd false (.replicate 8 .feed) t := by
  obtain ⟨t, hfollow, hwaiting⟩ :
      ∃ t, (start smallQueue crowd false).follow smallQueue (.replicate 8 .feed) = some t ∧
        t.feed smallQueue = none := ⟨_, rfl, rfl⟩
  have hjournal : (start smallQueue crowd false).journal smallQueue (.replicate 8 .feed) = [] := rfl
  have hrun : RunBy brittle smallQueue crowd false (.replicate 8 .feed) t := by
    refine ⟨hfollow, fun before c a elapsed hprefix => ?_⟩
    rw [hjournal] at hprefix
    simp at hprefix
  exact ⟨t, hrun, hwaiting, hrun.drains fun _ _ => ⟨_, ⟨0⟩, rfl⟩⟩

end RunBy

end Conformance.Pool
