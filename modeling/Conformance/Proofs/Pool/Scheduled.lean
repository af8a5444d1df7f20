import Conformance.Proofs.Pool.Balance
import Conformance.Proofs.Pool.Progress

/-!
# The schedule is a run

Each step of the schedule is one move, or a cancellation and an answer. It finds none only when
nobody can move, and it counts down from more than the weight of the state it starts in. So it ends
where all have stopped, and what is true of every finished run is true of it. What the engine keeps
is changed by its replies alone, and it replies to what was handed to it.
-/

namespace Conformance.Pool.State

variable {σ : Type} {o : RunOptions} {engine : Engine σ} {memory memory' : σ} {s t u : State}
  {items : List Item} {cancelled : Bool} {moves more : List Move}

theorem follow_append (h : s.follow o moves = some t) (h' : t.follow o more = some u) :
    s.follow o (moves ++ more) = some u := by
  rw [follow, List.foldlM_append]
  exact Option.bind_eq_some_iff.2 ⟨t, h, h'⟩

theorem follow_singleton {m : Move} (h : s.move o m = some t) : s.follow o [m] = some t := by
  rw [follow_cons, h]
  rfl

theorem history_suffix_step {m : Move} {n : Option Note} (h : Step o s m n t) :
    s.history <:+ t.history := by
  cases h with
  | hand => exact List.suffix_cons _ _
  | @receive e events => cases e <;> exact List.suffix_refl _
  | _ => exact List.suffix_refl _

theorem Sound.history_suffix_follow (hs : s.Sound o) (h : s.follow o moves = some t) :
    s.history <:+ t.history := by
  refine (follow_induction (P := fun _ t => t.Sound o ∧ s.history <:+ t.history)
    ⟨hs, List.suffix_refl _⟩ ?_ h).2
  intro moves t m u _ ih hm
  have hstep := step_of_move ih.1 hm
  exact ⟨ih.1.step hstep, ih.2.trans (history_suffix_step hstep)⟩

/-- A worker waits for the engine only after a program was handed to it. -/
theorem history_ne_nil_of_evaluating (h : (start o items cancelled).follow o moves = some t)
    {i : Nat} {c : Case} (hi : t.workers[i]? = some (.evaluating c)) : t.history ≠ [] := by
  have hb := balanced_of_follow h
  have hevaluated : c ∈ t.workers.filterMap Worker.evaluated? :=
    List.mem_filterMap.2 ⟨_, List.mem_of_getElem? hi, rfl⟩
  have hhanded := hb.handed.mem_iff.2 (List.mem_append_right _ hevaluated)
  intro hnil
  rw [hb.history, List.reverse_eq_nil_iff, List.map_eq_nil_iff] at hnil
  rw [hnil] at hhanded
  exact List.not_mem_nil hhanded

/-! ### Steps of the schedule -/

/-- A reply is an answer, perhaps after a cancellation. -/
theorem exists_follow_of_reply? {i : Nat} (h : s.reply? o engine i memory = some (t, memory')) :
    (∃ c, s.workers[i]? = some (.evaluating c)) ∧
      ∃ moves, s.follow o moves = some t ∧ ∃ m ∈ moves, m.working = true := by
  rw [reply?] at h
  split at h
  · next c hi =>
    obtain ⟨u, hu, heq⟩ := Option.map_eq_some_iff.1 h
    cases heq
    refine ⟨⟨c, hi⟩, ?_⟩
    generalize (engine c.program memory).1 = r at hu
    cases hc : r.cancels with
    | false =>
      rw [hc] at hu
      exact ⟨[.answer i r.answer r.elapsed], follow_singleton hu, _, List.mem_singleton_self _, rfl⟩
    | true =>
      rw [hc] at hu
      exact ⟨[.cancel, .answer i r.answer r.elapsed], follow_singleton hu, _,
        List.mem_cons_of_mem _ (List.mem_singleton_self _), rfl⟩
  · cases h

theorem reply?_ne_none {i : Nat} {c : Case} (hi : s.workers[i]? = some (.evaluating c)) :
    s.reply? o engine i memory ≠ none := by
  rw [reply?, hi]
  dsimp only
  cases (engine c.program memory).1.cancels <;> simp [answer, hi]

/-- A step of the schedule is made of moves. The engine keeps what it has unless a worker waits for
it. -/
theorem exists_follow_of_next (h : s.next o engine memory = some (t, memory')) :
    (∃ moves, s.follow o moves = some t ∧ ∃ m ∈ moves, m.working = true) ∧
      (memory' = memory ∨ ∃ (i : Nat) (c : Case), s.workers[i]? = some (.evaluating c)) := by
  have hone {m : Move} (hm : m.working = true)
      (h : (s.move o m).map (·, memory) = some (t, memory')) :
      (∃ moves, s.follow o moves = some t ∧ ∃ m ∈ moves, m.working = true) ∧
        memory' = memory := by
    obtain ⟨u, hu, heq⟩ := Option.map_eq_some_iff.1 h
    cases heq
    exact ⟨⟨[m], follow_singleton hu, m, List.mem_singleton_self m, hm⟩, rfl⟩
  rw [next, Option.or_eq_some_iff] at h
  rcases h with h | ⟨_, h⟩
  · exact (hone (m := .collect) rfl h).imp_right .inl
  rw [Option.or_eq_some_iff] at h
  rcases h with h | ⟨_, h⟩
  · obtain ⟨i, _, h⟩ := List.exists_of_findSome?_eq_some h
    rw [Option.or_eq_some_iff] at h
    rcases h with h | ⟨_, h⟩
    · exact (hone (m := .work i) rfl h).imp_right .inl
    · obtain ⟨⟨c, hi⟩, hmoves⟩ := exists_follow_of_reply? h
      exact ⟨hmoves, .inr ⟨i, c, hi⟩⟩
  · exact (hone (m := .feed) rfl h).imp_right .inl

/-- The schedule has no next step only when nobody can move. -/
theorem halted_of_next_eq_none (h : s.next o engine memory = none) : s.Halted o := by
  rw [next, Option.or_eq_none_iff, Option.or_eq_none_iff, Option.map_eq_none_iff,
    Option.map_eq_none_iff, workAny, List.findSome?_eq_none_iff] at h
  obtain ⟨hcollect, hwork, hfeed⟩ := h
  have hworker {i : Nat} {w : Worker} (hi : s.workers[i]? = some w) :
      s.work i = none ∧ s.reply? o engine i memory = none := by
    have := hwork i (List.mem_range.2 (List.getElem?_eq_some_iff.1 hi).1)
    rwa [Option.or_eq_none_iff, Option.map_eq_none_iff] at this
  intro m hm
  cases m with
  | feed => exact hfeed
  | collect => exact hcollect
  | cancel => cases hm
  | work i =>
    cases hi : s.workers[i]? with
    | none => rw [move, work, hi]
    | some w => exact (hworker hi).1
  | answer i a elapsed =>
    rw [move, answer]
    split
    · next c hi => exact absurd (hworker hi).2 (reply?_ne_none hi)
    · rfl

/-! ### The whole schedule -/

/-- Moves count down from the weight of a state if one of them is work. -/
theorem Sound.weight_lt_of_working (hs : s.Sound o) (h : s.follow o moves = some t)
    (hworking : ∃ m ∈ moves, m.working = true) : t.weight < s.weight := by
  obtain ⟨m, hm, hworking⟩ := hworking
  have hpos := List.length_pos_of_mem (List.mem_filter.2 ⟨hm, hworking⟩)
  have hweight := hs.weight_follow h
  omega

/-- With as many steps as the weight of a state the schedule goes on from it until nobody can
move. -/
theorem exists_follow_settle (engine : Engine σ) (memory : σ) {n : Nat}
    (hrun : (start o items cancelled).follow o moves = some s) (hn : s.weight ≤ n) :
    ∃ more, s.follow o more = some (settle o engine n (s, memory)).1 ∧
      (settle o engine n (s, memory)).1.Halted o ∧
      ((settle o engine n (s, memory)).1.history = [] →
        (settle o engine n (s, memory)).2 = memory) := by
  induction n generalizing moves s memory with
  | zero =>
    have hnone : s.next o engine memory = none := by
      by_contra hne
      obtain ⟨⟨t, memory'⟩, hnext⟩ := Option.ne_none_iff_exists'.1 hne
      obtain ⟨⟨more, hmore, hworking⟩, _⟩ := exists_follow_of_next hnext
      have hweight := (sound_of_follow hrun).weight_lt_of_working hmore hworking
      omega
    exact ⟨[], follow_nil s, halted_of_next_eq_none hnone, fun _ => rfl⟩
  | succ n ih =>
    rw [settle]
    cases hnext : s.next o engine memory with
    | none => exact ⟨[], follow_nil s, halted_of_next_eq_none hnext, fun _ => rfl⟩
    | some now =>
      obtain ⟨t, memory'⟩ := now
      obtain ⟨⟨first, hfirst, hworking⟩, hmemory⟩ := exists_follow_of_next hnext
      have hweight := (sound_of_follow hrun).weight_lt_of_working hfirst hworking
      obtain ⟨more, hmore, hhalted, hkept⟩ := ih memory' (follow_append hrun hfirst) (by omega)
      have hall := follow_append hfirst hmore
      refine ⟨first ++ more, hall, hhalted, fun hnil => ?_⟩
      rw [hkept hnil]
      refine hmemory.resolve_right ?_
      rintro ⟨i, c, hi⟩
      -- a worker that waits for the engine has left its program in the history
      have hsuffix := (sound_of_follow hrun).history_suffix_follow hall
      rw [hnil, List.suffix_nil] at hsuffix
      exact history_ne_nil_of_evaluating hrun hi hsuffix

/-- The schedule is one of the runs and comes to its end. If no program was handed to the engine, it
keeps what it had. -/
theorem exists_follow_run (o : RunOptions) (engine : Engine σ) (memory : σ) (items : List Item)
    (cancelled : Bool) :
    ∃ moves, (start o items cancelled).follow o moves
        = some (run o engine memory items cancelled).1 ∧
      (run o engine memory items cancelled).1.finished = true ∧
      ((run o engine memory items cancelled).1.history = [] →
        (run o engine memory items cancelled).2 = memory) := by
  obtain ⟨moves, hmoves, hhalted, hkept⟩ :=
    exists_follow_settle engine memory (follow_nil (o := o) _) (weight_start items cancelled)
  exact ⟨moves, hmoves, (sound_of_follow hmoves).finished_of_halted hhalted, hkept⟩

end Conformance.Pool.State
