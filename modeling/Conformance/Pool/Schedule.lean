import Conformance.Pool.State

/-!
# A schedule

Of all orders in which a run may go this one lets whoever is further along go first: the collector
before the workers, and those before the feeder. So every item is done with before the next one is
taken, and the programs reach the engine in the order of the items. The engine may keep a state of
its own from one program to the next.

A run needs at most a fixed number of moves for each item, for each worker and for its end, which
is what the schedule counts down from.
-/

namespace Conformance

/-- An engine that keeps a state: what it does with a program. -/
abbrev Engine (σ : Type) := Program → σ → Reply × σ

namespace Pool.State

/-- The engine's reply to worker `i`, if that is what it waits for. -/
def reply? {σ : Type} (o : RunOptions) (engine : Engine σ) (i : Nat) (memory : σ) (s : State) :
    Option (State × σ) :=
  match s.workers[i]? with
  | some (.evaluating c) =>
    let (r, memory) := engine c.program memory
    let s := if r.cancels then { s with cancelled := true } else s
    (s.answer o i r.answer r.elapsed).map (·, memory)
  | _ => none

/-- The move of the first worker that can move. -/
def workAny {σ : Type} (o : RunOptions) (engine : Engine σ) (memory : σ) (s : State) :
    Option (State × σ) :=
  (List.range s.workers.length).findSome? fun i =>
    ((s.work i).map (·, memory)).or (s.reply? o engine i memory)

/-- The next state of the schedule. -/
def next {σ : Type} (o : RunOptions) (engine : Engine σ) (memory : σ) (s : State) :
    Option (State × σ) :=
  ((s.collect o).map (·, memory)).or ((s.workAny o engine memory).or ((s.feed o).map (·, memory)))

/-- The state when no move is left, or after `n` moves. -/
def settle {σ : Type} (o : RunOptions) (engine : Engine σ) : Nat → State × σ → State × σ
  | 0, now => now
  | n + 1, (s, memory) =>
    match s.next o engine memory with
    | some now => settle o engine n now
    | none => (s, memory)

/-- More moves than a run needs. -/
def moveBound (o : RunOptions) (items : List Item) : Nat := 9 * items.length + 2 * o.workers + 3

/-- The last state of a run, and what the engine keeps after it. -/
def run {σ : Type} (o : RunOptions) (engine : Engine σ) (memory : σ) (items : List Item)
    (cancelled : Bool) : State × σ :=
  settle o engine (moveBound o items) (start o items cancelled, memory)

end Pool.State

end Conformance
