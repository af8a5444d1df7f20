import Conformance.Abort
import Conformance.Report.Tally

/-!
# The pool and its moves

A feeder takes what a scan finds, item by item. It announces each accepted item to the collector;
a case it then puts into a bounded queue of jobs, and the result of a malformed case it sends right
away. Workers take jobs and have them evaluated, and send results. The collector receives from all
of them and keeps the tally. A token says that no further case is to be started: it is looked at
when an item is taken and again when a job is, it never goes back, and whoever is in the middle of a
case finishes it.

Feeder, workers and collector move one at a time, in any order. A move that has nothing to do, or
has to wait, is not possible. What an engine answers is part of the move in which it answers, so a
list of moves is a complete account of a run.
-/

namespace Conformance

/-- How a run is made. -/
structure RunOptions where
  parallelism : Nat
  /-- Only items whose section key starts so are accepted. -/
  filter? : Option String
  /-- The run is cancelled when so many cases have not passed. -/
  maxFailures? : Option Nat
  /-- How long a case may take. -/
  budget : Duration
  deriving DecidableEq, Repr

namespace RunOptions

/-- The number of workers, which is one at least. -/
def workers (o : RunOptions) : Nat := max o.parallelism 1

/-- How many jobs the queue holds. -/
def capacity (o : RunOptions) : Nat := 2 * o.workers

/-- Items of this section key are accepted. -/
def acceptsSection (o : RunOptions) (key : String) : Bool :=
  match o.filter? with
  | none => true
  | some start => start.toList.isPrefixOf key.toList

def accepts (o : RunOptions) (d : Discovered) : Bool := o.acceptsSection d.sectionKey

end RunOptions

namespace Pool

/-- What a scan yields next: something found, or the end of it for a reason. -/
abbrev Item := Except Abort Discovered

/-- Where the feeder stands. -/
inductive Feeder where
  /-- About to take the next item. -/
  | taking (rest : List Item)
  /-- About to announce an accepted item; `cancelled` is what the token said when it was taken. -/
  | announcing (d : Discovered) (cancelled : Bool) (rest : List Item)
  /-- About to put a case into the queue. -/
  | submitting (c : Case) (rest : List Item)
  /-- About to send the result of a malformed case. -/
  | reporting (m : MalformedCase) (rest : List Item)
  | done

/-- Where a worker stands. -/
inductive Worker where
  | idle
  /-- Has taken a job and not yet looked at the token. -/
  | holding (c : Case)
  /-- Waits for the engine. -/
  | evaluating (c : Case)
  /-- About to send a result. -/
  | sending (r : Result)
  | done

/-- What the collector receives. -/
inductive Event where
  | announced (d : Discovered)
  | finished (r : Result)
  | fault (a : Abort)

/-- A run in progress. -/
structure State where
  feeder : Feeder
  /-- The queue of jobs, oldest first. -/
  jobs : List Case
  workers : List Worker
  /-- What was sent and not received, oldest first. -/
  events : List Event
  tally : Tally
  /-- The first fault received. -/
  fault? : Option Abort
  /-- The token. -/
  cancelled : Bool
  /-- The collector has seen that nothing more can come. -/
  collected : Bool
  /-- Something was sent and nobody was left to receive it. -/
  lost : Bool
  /-- The programs handed to the engine, latest first. -/
  history : List Program

/-- The state before the first move. -/
def State.start (o : RunOptions) (items : List Item) (cancelled : Bool) : State :=
  { feeder := .taking items, jobs := [], workers := .replicate o.workers .idle, events := []
    tally := .empty, fault? := none, cancelled, collected := false, lost := false, history := [] }

/-- Who moves. -/
inductive Move where
  | feed
  /-- Worker `i` moves, other than by an answer. -/
  | work (i : Nat)
  /-- The engine answers worker `i`. -/
  | answer (i : Nat) (a : Answer) (elapsed : Duration)
  | collect
  /-- Somebody cancels: from outside, or the engine in the middle of a case. -/
  | cancel

/-- A worker that has not stopped. -/
def Worker.active : Worker → Bool
  | .done => false
  | _ => true

/-- The feeder has not stopped. -/
def Feeder.active : Feeder → Bool
  | .done => false
  | _ => true

namespace State

/-- The state after an event was sent, and the sender went on with `next` or, if nobody receives
any more, stopped with `stop`. -/
def send (s : State) (e : Event) (next stop : State → State) : State :=
  if s.collected then stop { s with lost := true }
  else next { s with events := s.events ++ [e] }

def feederAt (f : Feeder) (s : State) : State := { s with feeder := f }

def workerAt (i : Nat) (w : Worker) (s : State) : State := { s with workers := s.workers.set i w }

/-- The feeder's move. -/
def feed (o : RunOptions) (s : State) : Option State :=
  match s.feeder with
  | .taking [] => some (s.feederAt .done)
  | .taking (.error a :: _) => some (s.send (.fault a) (feederAt .done) (feederAt .done))
  | .taking (.ok d :: rest) =>
    if o.accepts d then some (s.feederAt (.announcing d s.cancelled rest))
    else some (s.feederAt (.taking rest))
  | .announcing d cancelled rest =>
    let next := if cancelled then .taking rest else
      match d with
      | .case c => .submitting c rest
      | .malformed m => .reporting m rest
    some (s.send (.announced d) (feederAt next) (feederAt .done))
  | .submitting c rest =>
    if !s.workers.any Worker.active then some { s with feeder := .done, lost := true }
    else if s.jobs.length < o.capacity then
      some { s with feeder := .taking rest, jobs := s.jobs ++ [c] }
    else none
  | .reporting m rest =>
    some (s.send (.finished (.ofMalformed m)) (feederAt (.taking rest)) (feederAt .done))
  | .done => none

/-- The move of worker `i`. -/
def work (i : Nat) (s : State) : Option State :=
  match s.workers[i]? with
  | some .idle =>
    match s.jobs with
    | c :: jobs => some ({ s with jobs }.workerAt i (.holding c))
    | [] => if s.feeder.active then none else some (s.workerAt i .done)
  | some (.holding c) =>
    if s.cancelled then some (s.workerAt i .idle)
    else some ({ s with history := c.program :: s.history }.workerAt i (.evaluating c))
  | some (.sending r) => some (s.send (.finished r) (workerAt i .idle) (workerAt i .done))
  | _ => none

/-- The engine's answer to worker `i`. -/
def answer (o : RunOptions) (i : Nat) (a : Answer) (elapsed : Duration) (s : State) :
    Option State :=
  match s.workers[i]? with
  | some (.evaluating c) => some (s.workerAt i (.sending (c.resultOf o.budget a elapsed)))
  | _ => none

/-- So many cases have not passed that the run is cancelled. -/
def limitReached (o : RunOptions) (t : Tally) : Bool :=
  o.maxFailures?.any fun limit => decide (limit ≤ t.failingCount)

/-- What the collector does with an event. -/
def receive (o : RunOptions) (e : Event) (s : State) : State :=
  match e with
  | .announced d => { s with tally := s.tally.expect d.id d.path d.sectionKey }
  | .finished r =>
    let tally := s.tally.record r
    { s with tally, cancelled := s.cancelled || limitReached o tally }
  | .fault a => { s with cancelled := true, fault? := s.fault?.or (some a) }

/-- The collector's move. -/
def collect (o : RunOptions) (s : State) : Option State :=
  if s.collected then none
  else
    match s.events with
    | e :: events => some ({ s with events }.receive o e)
    | [] =>
      if s.feeder.active || s.workers.any Worker.active then none
      else some { s with collected := true }

/-- The state after a move, if it is possible. -/
def move (o : RunOptions) (m : Move) (s : State) : Option State :=
  match m with
  | .feed => s.feed o
  | .work i => s.work i
  | .answer i a elapsed => s.answer o i a elapsed
  | .collect => s.collect o
  | .cancel => some { s with cancelled := true }

/-- The state after a list of moves, if each of them is possible. -/
def follow (o : RunOptions) (s : State) (moves : List Move) : Option State :=
  moves.foldlM (fun s m => s.move o m) s

/-- Feeder, workers and collector have stopped. -/
def finished (s : State) : Bool :=
  s.collected && !s.feeder.active && !s.workers.any Worker.active

/-- What the run amounts to when all have stopped. -/
def outcome (s : State) : Except Abort Summary :=
  match s.fault? with
  | some a => .error a
  | none => .ok (s.tally.finish (if s.cancelled then .cancelled else .complete))

end State

end Pool

end Conformance
