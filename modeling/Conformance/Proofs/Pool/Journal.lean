import Conformance.Pool.State
import Mathlib.Data.List.Induction

/-!
# The journal of a run

A run is a list of moves. Its journal lists what happened in it that matters afterwards: what became
of each item, which cases the engine got and what it answered, and what the collector received, in
the order of the moves. A state remembers little of this, so what a run did is said of its journal.
-/

namespace Conformance.Pool

/-- Something that happens in a run. -/
inductive Note where
  /-- An accepted item is left out because the token says so. -/
  | skipped (d : Discovered)
  | handed (c : Case)
  | answered (c : Case) (a : Answer) (elapsed : Duration)
  /-- The result of a malformed case is sent. -/
  | reported (m : MalformedCase)
  | received (e : Event)
  /-- Somebody cancels, other than the collector. -/
  | cancelled

namespace State

variable {o : RunOptions}

/-- What happens when `m` is made in the state `s`. -/
def note? (s : State) (m : Move) : Option Note :=
  match m with
  | .feed =>
    match s.feeder with
    | .announcing d true _ => some (.skipped d)
    | .reporting m _ => some (.reported m)
    | _ => none
  | .work i =>
    match s.workers[i]? with
    | some (.holding c) => some (if s.cancelled then .skipped (.case c) else .handed c)
    | _ => none
  | .answer i a elapsed =>
    match s.workers[i]? with
    | some (.evaluating c) => some (.answered c a elapsed)
    | _ => none
  | .collect => s.events.head?.map Note.received
  | .cancel => some .cancelled

/-- What happens in a list of moves. -/
def journal (o : RunOptions) (s : State) : List Move → List Note
  | [] => []
  | m :: moves =>
    (s.note? m).toList ++
      match s.move o m with
      | some t => journal o t moves
      | none => []

/-- What `f` says of each move of a list and the state before it. -/
def observe {α : Type} (o : RunOptions) (f : State → Move → Option α) (s : State) :
    List Move → List α
  | [] => []
  | m :: moves =>
    (f s m).toList ++
      match s.move o m with
      | some t => observe o f t moves
      | none => []

theorem journal_eq_observe (s : State) (moves : List Move) :
    s.journal o moves = s.observe o note? moves := by
  induction moves generalizing s with
  | nil => rfl
  | cons m moves ih =>
    rw [journal, observe]
    cases s.move o m with
    | none => rfl
    | some t => exact congrArg _ (ih t)

theorem note?_eq_answered {s : State} {m : Move} {c : Case} {a : Answer} {elapsed : Duration}
    (h : s.note? m = some (.answered c a elapsed)) : ∃ i, m = .answer i a elapsed := by
  unfold note? at h
  split at h
  · split at h <;> cases h
  · split at h
    · split at h <;> cases h
    · cases h
  · split at h
    · cases h
      exact ⟨_, rfl⟩
    · cases h
  · obtain ⟨e, _, he⟩ := Option.map_eq_some_iff.1 h
    cases he
  · cases h

theorem follow_nil (s : State) : s.follow o [] = some s := rfl

theorem follow_cons (s : State) (m : Move) (moves : List Move) :
    s.follow o (m :: moves) = (s.move o m).bind fun t => t.follow o moves := rfl

theorem follow_concat {s u : State} {moves : List Move} {m : Move}
    (h : s.follow o (moves ++ [m]) = some u) :
    ∃ t, s.follow o moves = some t ∧ t.move o m = some u := by
  rw [follow, List.foldlM_append] at h
  obtain ⟨t, ht, hm⟩ := Option.bind_eq_some_iff.1 h
  exact ⟨t, ht, by simpa using hm⟩

theorem follow_concat_of_move {s t u : State} {moves : List Move} {m : Move}
    (h : s.follow o moves = some t) (hm : t.move o m = some u) :
    s.follow o (moves ++ [m]) = some u := by
  rw [follow, List.foldlM_append]
  exact Option.bind_eq_some_iff.2 ⟨t, h, by simpa using hm⟩

theorem observe_concat {α : Type} (f : State → Move → Option α) {s t : State} {moves : List Move}
    (h : s.follow o moves = some t) (m : Move) :
    s.observe o f (moves ++ [m]) = s.observe o f moves ++ (f t m).toList := by
  induction moves generalizing s with
  | nil =>
    rw [follow_nil] at h
    cases h
    simp only [List.nil_append, observe]
    cases t.move o m <;> simp
  | cons m' moves ih =>
    rw [follow_cons] at h
    obtain ⟨s', hs', hrest⟩ := Option.bind_eq_some_iff.1 h
    simp only [List.cons_append, observe, hs', ih hrest, List.append_assoc]

theorem journal_concat {s t : State} {moves : List Move} (h : s.follow o moves = some t)
    (m : Move) : s.journal o (moves ++ [m]) = s.journal o moves ++ (t.note? m).toList := by
  rw [journal_eq_observe, journal_eq_observe]
  exact observe_concat note? h m

/-- What holds at the start and is kept by every move holds after every run. -/
theorem follow_induction {s : State} {P : List Move → State → Prop} (start : P [] s)
    (step : ∀ moves t m u, s.follow o moves = some t → P moves t → t.move o m = some u →
      P (moves ++ [m]) u)
    {moves : List Move} {t : State} (h : s.follow o moves = some t) : P moves t := by
  induction moves using List.reverseRecOn generalizing t with
  | nil =>
    rw [follow_nil] at h
    cases h
    exact start
  | append_singleton moves m ih =>
    obtain ⟨u, hu, hm⟩ := follow_concat h
    exact step moves u m t hu (ih hu) hm

end State

end Conformance.Pool
