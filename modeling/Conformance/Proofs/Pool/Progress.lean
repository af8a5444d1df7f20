import Conformance.Pool.Schedule
import Conformance.Proofs.Pool.Step

/-!
# A run comes to its end

Every move but a cancellation uses up something of what is still to be done. `State.weight` counts
the moves that feeder, workers and collector have left at most, so a run has no more of them than a
fixed number for each item and each worker (`length_le_moveBound`), whatever else happens.

Until all have stopped somebody can move (`exists_move`). The one place where a thread waits for
another is the queue: the feeder waits for room in it, and workers wait for jobs. But a worker that
waits sees an empty queue, which has room, so the two never wait for each other.
-/

namespace Conformance.Pool

/-- The move is one of feeder, workers, engine or collector, and no cancellation. -/
def Move.working : Move → Bool
  | .cancel => false
  | _ => true

/-- The engine's move. -/
def Move.isAnswer : Move → Bool
  | .answer .. => true
  | _ => false

/-- The moves that an item and what it leads to take, counted down along its way. -/
def Feeder.weight : Feeder → Nat
  | .taking rest => 9 * rest.length + 1
  | .announcing _ _ rest => 9 * rest.length + 9
  | .submitting _ rest => 9 * rest.length + 7
  | .reporting _ rest => 9 * rest.length + 3
  | .done => 0

/-- The moves until a worker has stopped, unless it takes another job. -/
def Worker.weight : Worker → Nat
  | .idle => 1
  | .holding _ => 5
  | .evaluating _ => 4
  | .sending _ => 3
  | .done => 0

namespace State

/-- More moves are not left. -/
def weight (s : State) : Nat :=
  s.feeder.weight + 5 * s.jobs.length + (s.workers.map Worker.weight).sum + s.events.length
    + if s.collected then 0 else 1

/-- Nobody can move any more. -/
def Halted (o : RunOptions) (s : State) : Prop := ∀ m : Move, m.working = true → s.move o m = none

variable {o : RunOptions} {s t : State} {m : Move} {n : Option Note}

/-- Every move but a cancellation takes something off the weight. -/
theorem weight_step (h : Step o s m n t) :
    t.weight + (if m.working then 1 else 0) ≤ s.weight := by
  cases h with
  | exhaust h | abort h | reject h | accept h | leave h | announceCase h | announceMalformed h
  | submit h | report h =>
    simp only [weight, h, Feeder.weight, Move.working, List.length_append, List.length_cons,
      List.length_nil, if_true]
    omega
  | @take i c jobs hi hjobs =>
    have hset := sum_map_set Worker.weight hi (.holding c)
    simp only [weight, hjobs, Worker.weight, Move.working, List.length_cons, if_true] at hset ⊢
    omega
  | stop hi =>
    have hset := sum_map_set Worker.weight hi .done
    simp only [weight, Worker.weight, Move.working, if_true] at hset ⊢
    omega
  | skip hi =>
    have hset := sum_map_set Worker.weight hi .idle
    simp only [weight, Worker.weight, Move.working, if_true] at hset ⊢
    omega
  | @hand i c hi =>
    have hset := sum_map_set Worker.weight hi (.evaluating c)
    simp only [weight, Worker.weight, Move.working, if_true] at hset ⊢
    omega
  | @answer i c a elapsed hi =>
    have hset := sum_map_set Worker.weight hi (.sending (c.resultOf o.budget a elapsed))
    simp only [weight, Worker.weight, Move.working, if_true] at hset ⊢
    omega
  | deliver hi =>
    have hset := sum_map_set Worker.weight hi .idle
    simp only [weight, Worker.weight, Move.working, List.length_append, List.length_cons,
      List.length_nil, if_true] at hset ⊢
    omega
  | @receive e events h =>
    have hweight : ({ s with events }.receive o e).weight = { s with events }.weight := by
      cases e <;> rfl
    rw [hweight]
    simp only [weight, h, List.length_cons, Move.working, if_true]
    omega
  | close h hfeeder hworkers hopen => simp [weight, hopen, Move.working]
  | cancel => exact Nat.le_refl _

theorem weight_start (items : List Item) (cancelled : Bool) :
    (start o items cancelled).weight ≤ moveBound o items := by
  simp only [weight, start, Feeder.weight, Worker.weight, moveBound, List.map_replicate,
    List.sum_replicate_nat, List.length_nil, Bool.false_eq_true, if_false]
  omega

/-- Every move takes something off the weight that is no cancellation, and none adds to it. -/
theorem Sound.weight_follow (hs : s.Sound o) {moves : List Move}
    (h : s.follow o moves = some t) :
    (moves.filter Move.working).length + t.weight ≤ s.weight := by
  refine (follow_induction (P := fun moves t => t.Sound o ∧
    (moves.filter Move.working).length + t.weight ≤ s.weight) ⟨hs, by simp⟩ ?_ h).2
  intro moves t m u _ ih hm
  obtain ⟨ht, ih⟩ := ih
  have hstep := step_of_move ht hm
  have hweight := weight_step hstep
  have hlast : ([m].filter Move.working).length = if m.working then 1 else 0 := by
    rw [List.filter_singleton]
    cases m.working <;> rfl
  refine ⟨ht.step hstep, ?_⟩
  rw [List.filter_append, List.length_append, hlast]
  omega

theorem length_le_moveBound {items : List Item} {cancelled : Bool} {moves : List Move}
    (h : (start o items cancelled).follow o moves = some t) :
    (moves.filter Move.working).length ≤ moveBound o items := by
  have hfollow := (sound_start o items cancelled).weight_follow h
  have := weight_start (o := o) items cancelled
  omega

/-! ### Nobody waits for ever -/

/-- The feeder can move, unless the queue is full. -/
theorem Sound.feed_isSome (hs : s.Sound o) (hf : s.feeder ≠ .done)
    (hroom : s.jobs.length < o.capacity) : (s.feed o).isSome = true := by
  have hactive := hs.any_active_of_feeder hf
  rw [feed]
  cases h : s.feeder with
  | taking items =>
    rcases items with _ | ⟨a | d, rest⟩
    · rfl
    · rfl
    · simp only
      split <;> rfl
  | announcing | reporting => rfl
  | submitting => simp [hactive, hroom]
  | done => exact absurd h hf

/-- If the move is an answer, it is one of those that an engine may give. -/
def Permitted (permits : Case → Answer → Duration → Prop) (s : State) (m : Move) : Prop :=
  ∀ c a elapsed, s.note? m = some (.answered c a elapsed) → permits c a elapsed

variable {permits : Case → Answer → Duration → Prop}

theorem permitted_of_isAnswer (hm : m.isAnswer = false) : s.Permitted permits m := by
  intro c a elapsed hnote
  obtain ⟨i, rfl⟩ := note?_eq_answered hnote
  cases hm

/-- While a worker has not stopped somebody can move. -/
theorem Sound.exists_move_of_worker (hs : s.Sound o)
    (hpermits : ∀ c, ∃ a elapsed, permits c a elapsed) {i : Nat} {w : Worker}
    (hi : s.workers[i]? = some w) (hw : w ≠ .done) :
    ∃ m : Move, m.working = true ∧ (s.move o m).isSome = true ∧ s.Permitted permits m := by
  cases w with
  | idle =>
    cases hjobs : s.jobs with
    | cons c jobs =>
      exact ⟨.work i, rfl, by simp [move, work, hi, hjobs], permitted_of_isAnswer rfl⟩
    | nil =>
      cases hf : s.feeder.active with
      | false =>
        exact ⟨.work i, rfl, by simp [move, work, hi, hjobs, hf], permitted_of_isAnswer rfl⟩
      | true =>
        -- the worker waits for a job, and an empty queue has room for one
        have hroom : s.jobs.length < o.capacity := by
          rw [hjobs, RunOptions.capacity, RunOptions.workers, List.length_nil]
          omega
        refine ⟨.feed, rfl, hs.feed_isSome (fun hdone => ?_) hroom, permitted_of_isAnswer rfl⟩
        rw [hdone] at hf
        cases hf
  | holding c =>
    exact ⟨.work i, rfl, by simp only [move, work, hi]; split <;> rfl, permitted_of_isAnswer rfl⟩
  | evaluating c =>
    obtain ⟨a, elapsed, ha⟩ := hpermits c
    refine ⟨.answer i a elapsed, rfl, by simp [move, answer, hi], fun c' a' elapsed' hnote => ?_⟩
    rw [note?, hi] at hnote
    cases hnote
    exact ha
  | sending r => exact ⟨.work i, rfl, by simp [move, work, hi], permitted_of_isAnswer rfl⟩
  | done => exact absurd rfl hw

/-- Until all have stopped somebody can move. -/
theorem Sound.exists_move (hs : s.Sound o) (hpermits : ∀ c, ∃ a elapsed, permits c a elapsed)
    (h : s.finished = false) :
    ∃ m : Move, m.working = true ∧ (s.move o m).isSome = true ∧ s.Permitted permits m := by
  by_cases hworkers : ∀ w ∈ s.workers, w = .done
  · obtain ⟨w, hw⟩ := hs.exists_worker
    have hdone := hs.stopped (hworkers w hw ▸ hw)
    have hstopped : s.workers.any Worker.active = false := by
      rw [List.any_eq_false]
      intro w hw
      rw [hworkers w hw]
      nofun
    have hopen : s.collected = false := by
      simpa [finished, hdone.1, hstopped, Feeder.active] using h
    refine ⟨.collect, rfl, ?_, permitted_of_isAnswer rfl⟩
    cases hevents : s.events with
    | cons e events => simp [move, collect, hopen, hevents]
    | nil => simp [move, collect, hopen, hevents, hdone.1, hstopped, Feeder.active]
  · push Not at hworkers
    obtain ⟨w, hw, hne⟩ := hworkers
    obtain ⟨i, hi⟩ := List.mem_iff_getElem?.1 hw
    exact hs.exists_move_of_worker hpermits hi hne

theorem Sound.finished_of_halted (hs : s.Sound o) (h : s.Halted o) : s.finished = true := by
  by_contra hne
  have hpermits : ∀ _ : Case, ∃ (_ : Answer) (_ : Duration), True :=
    fun _ => ⟨.panic none, ⟨0⟩, trivial⟩
  obtain ⟨m, hm, hsome, _⟩ := hs.exists_move hpermits (Bool.eq_false_iff.2 hne)
  rw [h m hm] at hsome
  cases hsome

theorem halted_of_finished (h : s.finished = true) : s.Halted o := by
  rw [finished, Bool.and_eq_true, Bool.and_eq_true, Bool.not_eq_true', Bool.not_eq_true',
    Feeder.active_eq_false, List.any_eq_false] at h
  obtain ⟨⟨hcollected, hfeeder⟩, hworkers⟩ := h
  have hdone {i : Nat} {w : Worker} (hi : s.workers[i]? = some w) : w = .done :=
    Worker.active_eq_false.1 (Bool.eq_false_iff.2 (hworkers w (List.mem_of_getElem? hi)))
  intro m hm
  cases m with
  | feed => rw [move, feed, hfeeder]
  | work i =>
    rw [move, work]
    cases hi : s.workers[i]? with
    | none => rfl
    | some w => rw [hdone hi]
  | answer i a elapsed =>
    rw [move, answer]
    cases hi : s.workers[i]? with
    | none => rfl
    | some w => rw [hdone hi]
  | collect => rw [move, collect, if_pos hcollected]
  | cancel => cases hm

end State

end Conformance.Pool
