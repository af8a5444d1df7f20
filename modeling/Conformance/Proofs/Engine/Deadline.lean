import Conformance.Engine.Deadline
import Mathlib.Algebra.Order.Floor.Div

/-!
# A watch ends and leaves no process behind

A watch goes on after a poll only if the process is running and has time left. It ends with the
first poll after which it does not go on, and a paced clock brings such a poll: before poll `k`
there were `k` pauses, and these use up any time in the end. What was done to the process follows
from where the watch ended. It was polled up to there, and it was got rid of unless it had exited.
-/

namespace Conformance.Child

/-- After poll `k` the process is polled again: it is running and has time left. -/
def GoesOn (c : Child) (timeout : Duration) (k : Nat) : Prop :=
  c.poll k = .running ∧ (c.elapsed k).nanoseconds < timeout.nanoseconds

/-- The process is polled as exited before any poll finds its time used up. -/
def ExitsInTime (c : Child) (timeout : Duration) (status : ExitStatus) : Prop :=
  ∃ k, c.poll k = .exited status ∧
    ∀ j < k, c.poll j = .running ∧ (c.elapsed j).nanoseconds < timeout.nanoseconds

/-- Why a watch is over that ends with this answer to a poll. -/
def endOf : Poll → WatchEnd
  | .exited status => .exited status
  | .failed reason => .pollFailed reason
  | .running => .overran

/-- What is done to the process when a watch is over. -/
def cleanup (c : Child) : WatchEnd → List Contact
  | .exited _ => []
  | .overran | .pollFailed _ => c.dispose

/-- The `n` polls from poll `k` on. -/
def polls (c : Child) (k n : Nat) : List Contact :=
  (List.range' k n).map fun j => .poll (c.poll j)

/-- The watch from poll `k` on that makes `n` polls more and ends with one after them. -/
def watchOf (c : Child) (k n : Nat) : Watch :=
  ⟨c.polls k (n + 1) ++ c.cleanup (endOf (c.poll (k + n))), endOf (c.poll (k + n))⟩

variable {c : Child} {timeout : Duration} {k n fuel : Nat}

/-! ### One poll -/

theorem watchFrom?_succ_of_goesOn (h : c.GoesOn timeout k) :
    c.watchFrom? timeout k (fuel + 1) = (c.watchFrom? timeout (k + 1) fuel).map fun w =>
      { w with contacts := .poll (c.poll k) :: w.contacts } := by
  obtain ⟨hrunning, htime⟩ := h
  rw [watchFrom?, hrunning]
  exact if_neg (Nat.not_le.2 htime)

theorem watchFrom?_succ_of_not_goesOn (h : ¬ c.GoesOn timeout k) :
    c.watchFrom? timeout k (fuel + 1) = some (c.watchOf k 0) := by
  rw [watchFrom?, watchOf, Nat.add_zero]
  cases hpoll : c.poll k with
  | exited status => simp [polls, cleanup, endOf, hpoll]
  | failed reason => simp [polls, cleanup, endOf, hpoll]
  | running =>
    have htime : timeout.nanoseconds ≤ (c.elapsed k).nanoseconds :=
      Nat.not_lt.1 fun htime => h ⟨hpoll, htime⟩
    simp [polls, cleanup, endOf, hpoll, htime]

theorem watchOf_succ (c : Child) (k n : Nat) : c.watchOf k (n + 1) =
    { c.watchOf (k + 1) n with
      contacts := .poll (c.poll k) :: (c.watchOf (k + 1) n).contacts } := by
  have hlast : k + (n + 1) = k + 1 + n := by omega
  rw [watchOf, watchOf, hlast, polls, List.range'_succ]
  rfl

/-! ### All polls -/

/-- A watch that goes on after `n` polls and not after one more has made these polls, and is not
over within fewer. -/
theorem watchFrom?_eq (hgoes : ∀ j < n, c.GoesOn timeout (k + j))
    (hends : ¬ c.GoesOn timeout (k + n)) (fuel : Nat) :
    c.watchFrom? timeout k fuel = if n < fuel then some (c.watchOf k n) else none := by
  induction n generalizing k fuel with
  | zero =>
    cases fuel with
    | zero => rfl
    | succ fuel =>
      rw [Nat.add_zero] at hends
      rw [watchFrom?_succ_of_not_goesOn hends, if_pos (Nat.succ_pos fuel)]
  | succ n ih =>
    cases fuel with
    | zero => rfl
    | succ fuel =>
      have hshift (j : Nat) : k + 1 + j = k + (j + 1) := by omega
      have hgoes' : ∀ j < n, c.GoesOn timeout (k + 1 + j) := fun j hj =>
        hshift j ▸ hgoes (j + 1) (Nat.succ_lt_succ hj)
      have hfirst : c.GoesOn timeout k := hgoes 0 (Nat.succ_pos n)
      rw [watchFrom?_succ_of_goesOn hfirst, ih hgoes' (hshift n ▸ hends) fuel, watchOf_succ]
      simp only [Nat.succ_lt_succ_iff]
      split <;> rfl

theorem Paced.le_elapsed (h : c.Paced) (k : Nat) :
    k * pollInterval.nanoseconds ≤ (c.elapsed k).nanoseconds := by
  induction k with
  | zero => omega
  | succ k ih =>
    have := h k
    rw [Nat.succ_mul]
    omega

/-- On a paced clock a watch ends at the latest after the pauses that the time has room for. -/
theorem Paced.exists_end (h : c.Paced) (timeout : Duration) :
    ∃ n ≤ timeout.nanoseconds ⌈/⌉ pollInterval.nanoseconds,
      (∀ j < n, c.GoesOn timeout j) ∧ ¬ c.GoesOn timeout n := by
  classical
  have hlast : ¬ c.GoesOn timeout (timeout.nanoseconds ⌈/⌉ pollInterval.nanoseconds) := by
    rintro ⟨-, htime⟩
    have hroom := le_smul_ceilDiv (a := pollInterval.nanoseconds) (b := timeout.nanoseconds)
      (by decide)
    rw [smul_eq_mul, Nat.mul_comm] at hroom
    exact absurd htime (Nat.not_lt.2 (hroom.trans (h.le_elapsed _)))
  have hexists : ∃ n, ¬ c.GoesOn timeout n := ⟨_, hlast⟩
  exact ⟨Nat.find hexists, Nat.find_min' hexists hlast,
    fun j hj => not_not.1 (Nat.find_min hexists hj), Nat.find_spec hexists⟩

theorem ceilDiv_lt_pollBound (timeout : Duration) :
    timeout.nanoseconds ⌈/⌉ pollInterval.nanoseconds < pollBound timeout := by
  have hinterval : pollInterval.nanoseconds = 5000000 := rfl
  rw [pollBound, hinterval, Nat.ceilDiv_eq_add_pred_div]
  omega

/-! ### How a watch ends -/

theorem not_goesOn_of_exited {status : ExitStatus} (h : c.poll k = .exited status) :
    ¬ c.GoesOn timeout k := by
  rintro ⟨hrunning, -⟩
  rw [h] at hrunning
  cases hrunning

theorem not_goesOn_of_failed {reason : String} (h : c.poll k = .failed reason) :
    ¬ c.GoesOn timeout k := by
  rintro ⟨hrunning, -⟩
  rw [h] at hrunning
  cases hrunning

/-- A watch ends in one place. -/
theorem eq_of_ends {n' : Nat} (hgoes : ∀ j < n, c.GoesOn timeout j) (hends : ¬ c.GoesOn timeout n)
    (hgoes' : ∀ j < n', c.GoesOn timeout j) (hends' : ¬ c.GoesOn timeout n') : n = n' :=
  Nat.le_antisymm (Nat.not_lt.1 fun hlt => hends' (hgoes n' hlt))
    (Nat.not_lt.1 fun hlt => hends (hgoes' n hlt))

theorem watch?_of_ends (hpaced : c.Paced) (hgoes : ∀ j < n, c.GoesOn timeout j)
    (hends : ¬ c.GoesOn timeout n) : c.watch? timeout = some (c.watchOf 0 n) := by
  obtain ⟨n', hle, hgoes', hends'⟩ := hpaced.exists_end timeout
  obtain rfl := eq_of_ends hgoes hends hgoes' hends'
  rw [watch?, watchFrom?_eq (by simpa using hgoes) (by simpa using hends),
    if_pos (hle.trans_lt (ceilDiv_lt_pollBound timeout))]

theorem ExitsInTime.watch?_eq {status : ExitStatus} (h : c.ExitsInTime timeout status)
    (hpaced : c.Paced) :
    ∃ contacts, c.watch? timeout = some ⟨contacts, .exited status⟩ := by
  obtain ⟨k, hexit, hgoes⟩ := h
  refine ⟨c.polls 0 (k + 1), ?_⟩
  rw [watch?_of_ends hpaced hgoes (not_goesOn_of_exited hexit), watchOf, Nat.zero_add, hexit]
  simp [endOf, cleanup]

/-- Why a watch is over is known from the poll that it ends with. -/
theorem endOf_eq_iff (hgoes : ∀ j < n, c.GoesOn timeout j) (hends : ¬ c.GoesOn timeout n)
    {e : WatchEnd} : endOf (c.poll n) = e ↔
      ∃ k, (∀ j < k, c.GoesOn timeout j) ∧ ¬ c.GoesOn timeout k ∧ endOf (c.poll k) = e := by
  constructor
  · rintro rfl
    exact ⟨n, hgoes, hends, rfl⟩
  · rintro ⟨k, hgoes', hends', rfl⟩
    rw [eq_of_ends hgoes hends hgoes' hends']

theorem endOf_eq_exited_iff {p : Poll} {status : ExitStatus} :
    endOf p = .exited status ↔ p = .exited status := by
  cases p <;> simp [endOf]

theorem endOf_eq_pollFailed_iff {p : Poll} {reason : String} :
    endOf p = .pollFailed reason ↔ p = .failed reason := by
  cases p <;> simp [endOf]

theorem endOf_eq_overran_iff {p : Poll} : endOf p = .overran ↔ p = .running := by
  cases p <;> simp [endOf]

section
variable (hgoes : ∀ j < n, c.GoesOn timeout j) (hends : ¬ c.GoesOn timeout n)
include hgoes hends

theorem ends_exited_iff {status : ExitStatus} : endOf (c.poll n) = .exited status ↔
    ∃ k, c.poll k = .exited status ∧ ∀ j < k, c.GoesOn timeout j := by
  rw [endOf_eq_iff hgoes hends]
  simp only [endOf_eq_exited_iff]
  constructor
  · rintro ⟨k, hgoes', -, hexit⟩
    exact ⟨k, hexit, hgoes'⟩
  · rintro ⟨k, hexit, hgoes'⟩
    exact ⟨k, hgoes', not_goesOn_of_exited hexit, hexit⟩

theorem ends_overran_iff : endOf (c.poll n) = .overran ↔
    ∃ k, (∀ j < k, c.GoesOn timeout j) ∧ c.poll k = .running ∧
      timeout.nanoseconds ≤ (c.elapsed k).nanoseconds := by
  rw [endOf_eq_iff hgoes hends]
  simp only [endOf_eq_overran_iff]
  constructor
  · rintro ⟨k, hgoes', hends', hrunning⟩
    exact ⟨k, hgoes', hrunning, Nat.not_lt.1 fun htime => hends' ⟨hrunning, htime⟩⟩
  · rintro ⟨k, hgoes', hrunning, htime⟩
    exact ⟨k, hgoes', fun hgoes'' => Nat.not_lt.2 htime hgoes''.2, hrunning⟩

theorem ends_pollFailed_iff {reason : String} : endOf (c.poll n) = .pollFailed reason ↔
    ∃ k, (∀ j < k, c.GoesOn timeout j) ∧ c.poll k = .failed reason := by
  rw [endOf_eq_iff hgoes hends]
  simp only [endOf_eq_pollFailed_iff]
  constructor
  · rintro ⟨k, hgoes', -, hfailed⟩
    exact ⟨k, hgoes', hfailed⟩
  · rintro ⟨k, hgoes', hfailed⟩
    exact ⟨k, hgoes', not_goesOn_of_failed hfailed, hfailed⟩

end

theorem goesOn_iff : c.GoesOn timeout k ↔ (∀ status, c.poll k ≠ .exited status) ∧
    (∀ reason, c.poll k ≠ .failed reason) ∧
      (c.elapsed k).nanoseconds < timeout.nanoseconds := by
  rw [GoesOn]
  cases c.poll k <;> simp

/-- A watch on a paced clock is over after as many polls as the time has room for and one more at
most, whatever the process answers. It ends with an exit exactly if a poll is the first to report
one, no poll before it failed, and after none of these was the time used up. Then the process was
only polled. In every other case it was killed and then waited for, once each. -/
theorem watch_ends (hpaced : c.Paced) (timeout : Duration) :
    ∃ (n : Nat) (w : Watch), n ≤ timeout.nanoseconds ⌈/⌉ pollInterval.nanoseconds + 1 ∧
      c.watch? timeout = some w ∧
      (∀ fuel, c.watchFrom? timeout 0 fuel = if n ≤ fuel then some w else none) ∧
      (∀ status, w.ending = .exited status ↔ ∃ k, c.poll k = .exited status ∧ ∀ j < k,
        (∀ status, c.poll j ≠ .exited status) ∧ (∀ reason, c.poll j ≠ .failed reason) ∧
          (c.elapsed j).nanoseconds < timeout.nanoseconds) ∧
      (w.ending = .overran ↔ ∃ k, (∀ j < k, c.GoesOn timeout j) ∧ c.poll k = .running ∧
        timeout.nanoseconds ≤ (c.elapsed k).nanoseconds) ∧
      (∀ reason, w.ending = .pollFailed reason ↔
        ∃ k, (∀ j < k, c.GoesOn timeout j) ∧ c.poll k = .failed reason) ∧
      (∀ status, w.ending = .exited status →
        w.contacts = (List.range n).map fun k => .poll (c.poll k)) ∧
      ((∀ status, w.ending ≠ .exited status) → w.contacts =
        ((List.range n).map fun k => .poll (c.poll k)) ++ [.kill c.kill, .wait c.wait]) := by
  obtain ⟨n, hle, hgoes, hends⟩ := hpaced.exists_end timeout
  have hending : (c.watchOf 0 n).ending = endOf (c.poll n) := by rw [watchOf, Nat.zero_add]
  have hcontacts : (c.watchOf 0 n).contacts
      = ((List.range (n + 1)).map fun k => .poll (c.poll k)) ++ c.cleanup (endOf (c.poll n)) := by
    rw [watchOf, Nat.zero_add, polls, List.range_eq_range']
  refine ⟨n + 1, c.watchOf 0 n, Nat.succ_le_succ hle, watch?_of_ends hpaced hgoes hends,
    watchFrom?_eq (by simpa using hgoes) (by simpa using hends), fun status => ?_, ?_,
    fun reason => ?_, fun status hexited => ?_, fun hnot => ?_⟩
  · rw [hending, ends_exited_iff hgoes hends]
    simp only [goesOn_iff]
  · rw [hending, ends_overran_iff hgoes hends]
  · rw [hending, ends_pollFailed_iff hgoes hends]
  · rw [hcontacts, ← hending, hexited, cleanup, List.append_nil]
  · rw [hcontacts]
    rw [hending] at hnot
    cases hend : endOf (c.poll n) with
    | exited status => exact absurd hend (hnot status)
    | overran | pollFailed => rfl

/-- A process that neither ends nor lets itself be killed, on a clock that is slower than the pauses
between polls. -/
def stubborn : Child where
  poll _ := .running
  elapsed k := .ofMilliseconds (7 * k)
  kill := .error "Operation not permitted"
  wait := .error "No child processes"

theorem paced_stubborn : stubborn.Paced := fun k => by
  show 7 * k * 1000000 + 5 * 1000000 ≤ 7 * (k + 1) * 1000000
  omega

/-- Ten milliseconds allow three polls, and the last is the first to find the time used up. -/
theorem watch_ends_stubborn : stubborn.Paced ∧
    ∃ w : Watch, stubborn.watch? (.ofMilliseconds 10) = some w ∧ w.ending = .overran ∧
      w.contacts = [.poll .running, .poll .running, .poll .running,
        .kill (.error "Operation not permitted"), .wait (.error "No child processes")] := by
  refine ⟨paced_stubborn, ?_⟩
  obtain ⟨n, w, hle, hwatch, hfuel, -, hoverran, -, -, hcontacts⟩ :=
    watch_ends paced_stubborn (.ofMilliseconds 10)
  have hgoes : ∀ j < 2, stubborn.GoesOn (.ofMilliseconds 10) j := fun j hj => by
    refine ⟨rfl, ?_⟩
    show 7 * j * 1000000 < 10 * 1000000
    omega
  have hending : w.ending = .overran := hoverran.2 ⟨2, hgoes, rfl, by decide⟩
  have hn : n = 3 := by
    have hmore : ¬ n ≤ 2 := fun hn => by
      have hover := hfuel 2
      rw [if_pos hn] at hover
      cases hover
    have hfew : n ≤ 3 := hle
    omega
  have hnot (status : ExitStatus) : w.ending ≠ .exited status := by
    rw [hending]
    intro h
    cases h
  subst hn
  exact ⟨w, hwatch, hending, hcontacts hnot⟩

end Conformance.Child
