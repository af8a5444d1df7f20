import Conformance.Proofs.Pool.Accounting
import Conformance.Proofs.Pool.Draining
import Conformance.Proofs.Pool.Sequential

/-!
# A limit stops no run too early

The collector sets the token when as many cases have not passed as the limit says. Workers go on
meanwhile, so how many results still come in is up to the schedule. But the count of those that did
not pass never goes down, and where nobody else sets the token it has reached the limit once the
token is set (`limitReached_step`). So a run that leaves something out has reached its limit. One
whose limit is above what the run without a limit comes to is not disturbed by it: without the limit
the same moves lead to the same state (`Undisturbed.unlimited`).
-/

namespace Conformance

/-- The same run without a limit and with any number of workers. -/
def RunOptions.unlimited (o : RunOptions) (parallelism : Nat) : RunOptions :=
  { o with parallelism, maxFailures? := none }

namespace Tally

end Tally

namespace Pool.State

variable {o : RunOptions} {engine : Program → Answer} {found : List Discovered}
  {notes : List Note} {moves : List Move} {s t : State}

/-- A run over what was found in which the engine's answers depend on the program alone and nobody
sets the token but the collector. -/
structure Unattended (o : RunOptions) (engine : Program → Answer) (found : List Discovered)
    (moves : List Move) (t : State) : Prop where
  run : (start o (found.map .ok) false).follow o moves = some t
  answers : AnswersBy engine ((start o (found.map .ok) false).journal o moves)
  alone : .cancel ∉ moves

namespace Unattended

theorem length_le (h : Unattended o engine found moves t) :
    moves.length ≤ moveBound o (found.map .ok) := by
  have hlength := length_le_moveBound h.run
  rwa [List.filter_eq_self.2] at hlength
  intro m hm
  cases m with
  | cancel => exact absurd hm h.alone
  | feed | work | answer | collect => rfl

theorem exists_finished (o : RunOptions) (engine : Program → Answer) (found : List Discovered) :
    ∃ moves t, Unattended o engine found moves t ∧ t.finished = true := by
  let behaviour : Behaviour := fun _ p a _ => a = engine p
  have hstart : RunBy behaviour o (found.map .ok) false [] (start o (found.map .ok) false) := by
    refine ⟨follow_nil _, fun before c a elapsed hprefix => ?_⟩
    simp [journal] at hprefix
  obtain ⟨moves, t, hworking, hrun, hfinished⟩ :=
    hstart.exists_finished fun _ p => ⟨engine p, ⟨0⟩, rfl⟩
  rw [List.nil_append] at hrun
  refine ⟨moves, t, ⟨hrun.follow, ?_, fun hcancel => ?_⟩, hfinished⟩
  · intro c a elapsed hn
    obtain ⟨before, after, hnotes⟩ := List.append_of_mem hn
    refine hrun.answers before c a elapsed ?_
    rw [hnotes]
    exact ⟨after, by simp⟩
  · cases hworking _ hcancel

end Unattended

/-- A move that leaves the token unset is the same without a limit. -/
theorem move_unlimited {m : Move} (h : s.move o m = some t) (hquiet : t.cancelled = false) :
    s.move (o.unlimited o.parallelism) m = some t := by
  cases m with
  | feed | work | answer | cancel => exact h
  | collect =>
    rw [move, collect] at h ⊢
    split at h
    · cases h
    · next hcollected =>
      rw [if_neg hcollected]
      split at h
      · next e events hevents =>
        cases h
        cases e with
        | announced | fault => rfl
        | finished r =>
          simp only [receive, (Bool.or_eq_false_iff.1 hquiet).2]
          rfl
      · exact h

/-- Without its limit an undisturbed run is the same run. -/
theorem Undisturbed.unlimited (hu : Undisturbed o engine found moves t) :
    Undisturbed (o.unlimited o.parallelism) engine found moves t := by
  have hsame : t.cancelled = false →
      (start o (found.map .ok) false).follow (o.unlimited o.parallelism) moves = some t ∧
        (start o (found.map .ok) false).journal (o.unlimited o.parallelism) moves
          = (start o (found.map .ok) false).journal o moves := by
    refine follow_induction (P := fun moves t => t.cancelled = false →
      (start o (found.map .ok) false).follow (o.unlimited o.parallelism) moves = some t ∧
        (start o (found.map .ok) false).journal (o.unlimited o.parallelism) moves
          = (start o (found.map .ok) false).journal o moves)
      (fun _ => ⟨rfl, rfl⟩) (fun moves t m u hrun ih hm hquiet => ?_) hu.run
    have hbefore : t.cancelled = false := Bool.eq_false_iff.2 fun hc =>
      Bool.eq_false_iff.1 hquiet (cancelled_step (step_of_move (sound_of_follow hrun) hm) hc)
    obtain ⟨hfollow, hjournal⟩ := ih hbefore
    refine ⟨follow_concat_of_move hfollow (move_unlimited hm hquiet), ?_⟩
    rw [journal_concat hfollow, journal_concat hrun, hjournal]
  obtain ⟨hfollow, hjournal⟩ := hsame hu.quiet
  refine ⟨hfollow, ?_, hu.quiet⟩
  exact fun c a elapsed hn => hu.answers c a elapsed (hjournal ▸ hn)

/-- Both workers have a case when the first result arrives, and the third case is left out. -/
def overrun : List Move :=
  [.feed, .feed, .feed, .feed, .feed, .feed, .work 0, .work 1, .work 0, .work 1,
    .answer 0 (.outcome (.threw "Error" "")) ⟨0⟩, .work 0, .collect, .collect, .collect,
    .feed, .feed, .feed, .answer 1 (.outcome (.threw "Error" "")) ⟨0⟩, .work 1, .work 1, .work 0,
    .collect, .collect, .collect]

end Pool.State

end Conformance
