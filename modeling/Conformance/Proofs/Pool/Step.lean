import Conformance.Proofs.Pool.Journal
import Mathlib.Algebra.GroupWithZero.Nat
import Mathlib.Data.List.Perm.Basic

/-!
# What a move can do

`Step` lists the moves of a run, one constructor for each thing that feeder, workers and collector
can do, with what has to hold before it and what the state is after it. It has no constructor for
sending to nobody, and needs none: nobody stops early. A worker stops only when the feeder has
stopped and the queue is empty, and the collector only when feeder and workers have stopped and
every event is received. `Sound` says this, holds in every state of a run (`sound_of_follow`), and
makes every move a step (`step_of_move`).
-/

namespace Conformance.Pool

theorem Worker.active_eq_false {w : Worker} : w.active = false ↔ w = .done := by
  cases w <;> simp [active]

theorem Feeder.active_eq_false {f : Feeder} : f.active = false ↔ f = .done := by
  cases f <;> simp [active]

/-- Where one worker moves, a sum over the workers changes by what that worker contributes. -/
theorem sum_map_set (f : Worker → Nat) {workers : List Worker} {i : Nat} {w : Worker}
    (h : workers[i]? = some w) (w' : Worker) :
    ((workers.set i w').map f).sum + f w = (workers.map f).sum + f w' := by
  obtain ⟨hi, rfl⟩ := List.getElem?_eq_some_iff.1 h
  have hset := ((List.set_perm_cons_eraseIdx hi w').map f).sum_nat
  have hold := ((List.getElem_cons_eraseIdx_perm hi).map f).sum_nat
  simp only [List.map_cons, List.sum_cons] at hset hold
  omega

namespace State

/-- Nobody has stopped early, and nothing is lost. -/
structure Sound (o : RunOptions) (s : State) : Prop where
  workers : s.workers.length = o.workers
  stopped : .done ∈ s.workers → s.feeder = .done ∧ s.jobs = []
  collected : s.collected = true → s.feeder = .done ∧ (∀ w ∈ s.workers, w = .done) ∧ s.events = []
  lost : s.lost = false

/-- A move, what happens in it, and the states before and after it. -/
inductive Step (o : RunOptions) : State → Move → Option Note → State → Prop
  | exhaust {s : State} (h : s.feeder = .taking []) :
    Step o s .feed none { s with feeder := .done }
  | abort {s : State} {a : Abort} {rest : List Item} (h : s.feeder = .taking (.error a :: rest)) :
    Step o s .feed none { s with feeder := .done, events := s.events ++ [.fault a] }
  | reject {s : State} {d : Discovered} {rest : List Item}
    (h : s.feeder = .taking (.ok d :: rest)) (hd : o.accepts d = false) :
    Step o s .feed none { s with feeder := .taking rest }
  | accept {s : State} {d : Discovered} {rest : List Item}
    (h : s.feeder = .taking (.ok d :: rest)) (hd : o.accepts d = true) :
    Step o s .feed none { s with feeder := .announcing d s.cancelled rest }
  | leave {s : State} {d : Discovered} {rest : List Item} (h : s.feeder = .announcing d true rest) :
    Step o s .feed (some (.skipped d))
      { s with feeder := .taking rest, events := s.events ++ [.announced d] }
  | announceCase {s : State} {c : Case} {rest : List Item}
    (h : s.feeder = .announcing (.case c) false rest) :
    Step o s .feed none
      { s with feeder := .submitting c rest, events := s.events ++ [.announced (.case c)] }
  | announceMalformed {s : State} {m : MalformedCase} {rest : List Item}
    (h : s.feeder = .announcing (.malformed m) false rest) :
    Step o s .feed none
      { s with feeder := .reporting m rest, events := s.events ++ [.announced (.malformed m)] }
  | submit {s : State} {c : Case} {rest : List Item} (h : s.feeder = .submitting c rest)
    (hroom : s.jobs.length < o.capacity) :
    Step o s .feed none { s with feeder := .taking rest, jobs := s.jobs ++ [c] }
  | report {s : State} {m : MalformedCase} {rest : List Item} (h : s.feeder = .reporting m rest) :
    Step o s .feed (some (.reported m))
      { s with feeder := .taking rest, events := s.events ++ [.finished (.ofMalformed m)] }
  | take {s : State} {i : Nat} {c : Case} {jobs : List Case} (hi : s.workers[i]? = some .idle)
    (hjobs : s.jobs = c :: jobs) :
    Step o s (.work i) none { s with jobs, workers := s.workers.set i (.holding c) }
  | stop {s : State} {i : Nat} (hi : s.workers[i]? = some .idle) (hjobs : s.jobs = [])
    (hfeeder : s.feeder = .done) :
    Step o s (.work i) none { s with workers := s.workers.set i .done }
  | skip {s : State} {i : Nat} {c : Case} (hi : s.workers[i]? = some (.holding c))
    (hcancelled : s.cancelled = true) :
    Step o s (.work i) (some (.skipped (.case c))) { s with workers := s.workers.set i .idle }
  | hand {s : State} {i : Nat} {c : Case} (hi : s.workers[i]? = some (.holding c))
    (hcancelled : s.cancelled = false) :
    Step o s (.work i) (some (.handed c))
      { s with history := c.program :: s.history, workers := s.workers.set i (.evaluating c) }
  | answer {s : State} {i : Nat} {c : Case} {a : Answer} {elapsed : Duration}
    (hi : s.workers[i]? = some (.evaluating c)) :
    Step o s (.answer i a elapsed) (some (.answered c a elapsed))
      { s with workers := s.workers.set i (.sending (c.resultOf o.budget a elapsed)) }
  | deliver {s : State} {i : Nat} {r : Result} (hi : s.workers[i]? = some (.sending r)) :
    Step o s (.work i) none
      { s with events := s.events ++ [.finished r], workers := s.workers.set i .idle }
  | receive {s : State} {e : Event} {events : List Event} (h : s.events = e :: events) :
    Step o s .collect (some (.received e)) ({ s with events }.receive o e)
  | close {s : State} (h : s.events = []) (hfeeder : s.feeder = .done)
    (hworkers : ∀ w ∈ s.workers, w = .done) (hopen : s.collected = false) :
    Step o s .collect none { s with collected := true }
  | cancel {s : State} : Step o s .cancel (some .cancelled) { s with cancelled := true }

variable {o : RunOptions} {s t : State}

theorem send_of_not_collected (h : s.collected = false) (e : Event) (next stop : State → State) :
    s.send e next stop = next { s with events := s.events ++ [e] } := by
  rw [send, h]
  rfl

theorem Sound.not_collected_of_feeder (hs : s.Sound o) (h : s.feeder ≠ .done) :
    s.collected = false := by
  rw [Bool.eq_false_iff]
  exact fun hc => h (hs.collected hc).1

theorem Sound.not_collected_of_worker (hs : s.Sound o) {i : Nat} {w : Worker}
    (hi : s.workers[i]? = some w) (h : w ≠ .done) : s.collected = false := by
  rw [Bool.eq_false_iff]
  exact fun hc => h ((hs.collected hc).2.1 w (List.mem_of_getElem? hi))

theorem Sound.exists_worker (hs : s.Sound o) : ∃ w, w ∈ s.workers := by
  refine List.exists_mem_of_length_pos ?_
  rw [hs.workers, RunOptions.workers]
  omega

theorem Sound.any_active_of_feeder (hs : s.Sound o) (h : s.feeder ≠ .done) :
    s.workers.any Worker.active = true := by
  obtain ⟨w, hw⟩ := hs.exists_worker
  refine List.any_eq_true.2 ⟨w, hw, ?_⟩
  rw [← Bool.not_eq_false, Worker.active_eq_false]
  rintro rfl
  exact h (hs.stopped hw).1

/-! ### Every move is a step -/

theorem step_of_feed (hs : s.Sound o) (h : s.feed o = some t) :
    Step o s .feed (s.note? .feed) t := by
  rw [feed] at h
  cases hf : s.feeder with
  | taking items =>
    have hopen := hs.not_collected_of_feeder (by rw [hf]; nofun)
    rw [hf] at h
    cases items with
    | nil =>
      cases h
      simp only [note?, hf]
      exact Step.exhaust hf
    | cons item rest =>
      cases item with
      | error a =>
        simp only [send_of_not_collected hopen] at h
        cases h
        simp only [note?, hf]
        exact Step.abort hf
      | ok d =>
        simp only at h
        split at h
        · next hd =>
          cases h
          simp only [note?, hf]
          exact Step.accept hf hd
        · next hd =>
          cases h
          simp only [note?, hf]
          exact Step.reject hf (Bool.eq_false_iff.2 hd)
  | announcing d cancelled rest =>
    have hopen := hs.not_collected_of_feeder (by rw [hf]; nofun)
    rw [hf] at h
    simp only [send_of_not_collected hopen] at h
    cases h
    cases cancelled with
    | true =>
      simp only [note?, hf]
      exact Step.leave hf
    | false =>
      cases d with
      | case c =>
        simp only [note?, hf]
        exact Step.announceCase hf
      | malformed m =>
        simp only [note?, hf]
        exact Step.announceMalformed hf
  | submitting c rest =>
    -- no worker has stopped before the feeder, so somebody will take the job
    have hactive := hs.any_active_of_feeder (by rw [hf]; nofun)
    rw [hf] at h
    simp only [hactive, Bool.not_true, Bool.false_eq_true, if_false] at h
    split at h
    · next hroom =>
      cases h
      simp only [note?, hf]
      exact Step.submit hf hroom
    · cases h
  | reporting m rest =>
    have hopen := hs.not_collected_of_feeder (by rw [hf]; nofun)
    rw [hf] at h
    simp only [send_of_not_collected hopen] at h
    cases h
    simp only [note?, hf]
    exact Step.report hf
  | done =>
    rw [hf] at h
    cases h

theorem step_of_work (hs : s.Sound o) {i : Nat} (h : s.work i = some t) :
    Step o s (.work i) (s.note? (.work i)) t := by
  rw [work] at h
  cases hi : s.workers[i]? with
  | none =>
    rw [hi] at h
    cases h
  | some w =>
    rw [hi] at h
    cases w with
    | idle =>
      simp only at h
      split at h
      · next c jobs hjobs =>
        cases h
        simp only [note?, hi]
        exact Step.take hi hjobs
      · next hjobs =>
        split at h
        · cases h
        · next hfeeder =>
          cases h
          have hdone := Feeder.active_eq_false.1 (Bool.eq_false_iff.2 hfeeder)
          simp only [note?, hi]
          exact Step.stop hi hjobs hdone
    | holding c =>
      simp only at h
      split at h
      · next hcancelled =>
        cases h
        have hnote : s.note? (.work i) = some (.skipped (.case c)) := by
          simp only [note?, hi, hcancelled, if_true]
        rw [hnote]
        exact Step.skip hi hcancelled
      · next hcancelled =>
        cases h
        have hnote : s.note? (.work i) = some (.handed c) := by
          simp only [note?, hi, hcancelled, Bool.false_eq_true, if_false]
        rw [hnote]
        exact Step.hand hi (Bool.eq_false_iff.2 hcancelled)
    | evaluating c => cases h
    | sending r =>
      have hopen := hs.not_collected_of_worker hi nofun
      simp only [send_of_not_collected hopen] at h
      cases h
      simp only [note?, hi]
      exact Step.deliver hi
    | done => cases h

theorem step_of_collect (h : s.collect o = some t) :
    Step o s .collect (s.note? .collect) t := by
  rw [collect] at h
  split at h
  · cases h
  · next hopen =>
    split at h
    · next e events he =>
      cases h
      simpa only [note?, he, List.head?_cons, Option.map_some] using Step.receive he
    · next he =>
      split at h
      · cases h
      · next hactive =>
        cases h
        rw [Bool.or_eq_true, not_or, Bool.not_eq_true, Bool.not_eq_true, List.any_eq_false]
          at hactive
        have hfeeder := Feeder.active_eq_false.1 hactive.1
        have hworkers : ∀ w ∈ s.workers, w = .done := fun w hw =>
          Worker.active_eq_false.1 (Bool.eq_false_iff.2 (hactive.2 w hw))
        simpa only [note?, he, List.head?_nil, Option.map_none] using
          Step.close he hfeeder hworkers (Bool.eq_false_iff.2 hopen)

/-- Every move that is possible in a sound state is a step. -/
theorem step_of_move (hs : s.Sound o) {m : Move} (h : s.move o m = some t) :
    Step o s m (s.note? m) t := by
  cases m with
  | feed => exact step_of_feed hs h
  | work i => exact step_of_work hs h
  | answer i a elapsed =>
    rw [move, answer] at h
    cases hi : s.workers[i]? with
    | none =>
      rw [hi] at h
      cases h
    | some w =>
      rw [hi] at h
      cases w with
      | evaluating c =>
        cases h
        simp only [note?, hi]
        exact Step.answer hi
      | idle | holding | sending | done => cases h
  | collect => exact step_of_collect h
  | cancel =>
    cases h
    exact Step.cancel

/-! ### Every state of a run is sound -/

theorem done_mem_of_mem_set {workers : List Worker} {i : Nat} {w : Worker}
    (h : .done ∈ workers.set i w) (hw : w ≠ .done) : .done ∈ workers :=
  (List.mem_or_eq_of_mem_set h).resolve_right fun he => hw he.symm

theorem sound_start (o : RunOptions) (items : List Item) (cancelled : Bool) :
    (start o items cancelled).Sound o where
  workers := List.length_replicate
  stopped h := by
    have := List.eq_of_mem_replicate h
    cases this
  collected h := by cases h
  lost := rfl

/-- A state in which the feeder has moved is sound. -/
theorem Sound.feeder (hs : s.Sound o) (hf : s.feeder ≠ .done) (hworkers : t.workers = s.workers)
    (hcollected : t.collected = s.collected) (hlost : t.lost = s.lost) : t.Sound o where
  workers := hworkers ▸ hs.workers
  stopped h := absurd (hs.stopped (hworkers ▸ h)).1 hf
  collected h := by
    rw [hcollected, hs.not_collected_of_feeder hf] at h
    cases h
  lost := hlost ▸ hs.lost

/-- A state in which a worker has moved is sound, unless it has stopped. -/
theorem Sound.worker (hs : s.Sound o) {i : Nat} {w w' : Worker} (hi : s.workers[i]? = some w)
    (hworkers : t.workers = s.workers.set i w') (hw : w ≠ .done) (hw' : w' ≠ .done)
    (hfeeder : t.feeder = s.feeder) (hjobs : s.jobs = [] → t.jobs = [])
    (hcollected : t.collected = s.collected) (hlost : t.lost = s.lost) : t.Sound o where
  workers := by rw [hworkers, List.length_set, hs.workers]
  stopped h := by
    rw [hworkers] at h
    have := hs.stopped (done_mem_of_mem_set h hw')
    exact ⟨hfeeder ▸ this.1, hjobs this.2⟩
  collected h := by
    rw [hcollected, hs.not_collected_of_worker hi hw] at h
    cases h
  lost := hlost ▸ hs.lost

theorem Sound.receive (hs : s.Sound o) {e : Event} {events : List Event}
    (h : s.events = e :: events) : ({ s with events }.receive o e).Sound o := by
  have hopen : s.collected = false := by
    rw [Bool.eq_false_iff]
    intro hc
    rw [(hs.collected hc).2.2] at h
    cases h
  have hcollected : ({ s with events }.receive o e).collected = s.collected := by
    cases e <;> rfl
  refine ⟨?_, ?_, fun hc => ?_, ?_⟩
  · cases e <;> exact hs.workers
  · cases e <;> exact hs.stopped
  · rw [hcollected, hopen] at hc
    cases hc
  · cases e <;> exact hs.lost

theorem Sound.step (hs : s.Sound o) {m : Move} {n : Option Note} (h : Step o s m n t) :
    t.Sound o := by
  cases h with
  | exhaust h | abort h | reject h | accept h | leave h | announceCase h | announceMalformed h
  | submit h | report h => exact hs.feeder (by rw [h]; nofun) rfl rfl rfl
  | take hi hjobs =>
    exact hs.worker hi rfl nofun nofun rfl (fun h => by rw [hjobs] at h; cases h) rfl rfl
  | skip hi | hand hi | answer hi | deliver hi =>
    exact hs.worker hi rfl nofun nofun rfl id rfl rfl
  | stop hi hjobs hfeeder =>
    refine ⟨?_, fun _ => ⟨hfeeder, hjobs⟩, fun hc => ?_, hs.lost⟩
    · exact List.length_set.trans hs.workers
    · rw [hs.not_collected_of_worker hi nofun] at hc
      cases hc
  | receive h => exact hs.receive h
  | close h hfeeder hworkers =>
    exact ⟨hs.workers, hs.stopped, fun _ => ⟨hfeeder, hworkers, h⟩, hs.lost⟩
  | cancel => exact ⟨hs.workers, hs.stopped, hs.collected, hs.lost⟩

variable {items : List Item} {cancelled : Bool} {moves : List Move}

theorem sound_of_follow (h : (start o items cancelled).follow o moves = some t) : t.Sound o :=
  follow_induction (P := fun _ t => t.Sound o) (sound_start o items cancelled)
    (fun _ _ _ _ _ hs hm => hs.step (step_of_move hs hm)) h

/-- What holds at the start with nothing noted and is kept by every step holds after every run with
its journal. -/
theorem run_induction {P : List Note → State → Prop} (initial : P [] (start o items cancelled))
    (step : ∀ notes s m n t, s.Sound o → P notes s → Step o s m n t → P (notes ++ n.toList) t)
    (h : (start o items cancelled).follow o moves = some t) :
    P ((start o items cancelled).journal o moves) t := by
  refine follow_induction (P := fun moves t => P ((start o items cancelled).journal o moves) t)
    initial (fun moves t m u hrun ih hm => ?_) h
  have hs := sound_of_follow hrun
  rw [journal_concat hrun]
  exact step _ t m _ u hs ih (step_of_move hs hm)

end State

end Conformance.Pool
