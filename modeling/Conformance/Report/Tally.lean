import Conformance.Report.Summary

/-!
# Tallies

A tally takes up the cases of a run as they are announced and their results as they arrive, in any
order. Paths identify cases, whatever their spelling. The first result of a case counts and later
ones do not; announcing a case that has a result changes nothing.

When the run is over, the cases that were announced and have no result are crashes if the run was
complete, in the order of their paths, and are left out if it was cancelled. The entries of what did
not pass are sorted by name and printed path. Paths that differ may be printed alike: entries that
agree in both stay in the order in which they came.
-/

namespace Conformance

/-- How a run ended. -/
inductive Completion where
  | complete
  | cancelled
  deriving DecidableEq, Repr

/-- A case that was announced. -/
structure Pending where
  /-- As it was spelled first. -/
  path : Path
  id : String
  sectionKey : String
  deriving DecidableEq, Repr

/-- Pending cases in the order of their paths. -/
def Pending.inPathOrder (pending : List Pending) : List Pending :=
  pending.mergeSort fun p q => !decide (q.path.Before p.path)

/-- What has been announced and recorded so far. -/
structure Tally where
  /-- The cases without a result, in the order in which they were announced. -/
  pending : List Pending
  /-- The paths of the cases with a result. -/
  recorded : List Path
  totals : Counts
  sections : Table Counts
  /-- The cases that did not pass, the latest first. -/
  failures : List Failure
  deriving DecidableEq, Repr

namespace Tally

/-- Before anything is announced. -/
def empty : Tally :=
  { pending := [], recorded := [], totals := .zero, sections := .empty, failures := [] }

def hasRecorded (t : Tally) (path : Path) : Bool := t.recorded.any fun p => decide (p.Same path)

/-- The pending cases with one announced, or announced anew. -/
def announce (id : String) (path : Path) (sectionKey : String) : List Pending → List Pending
  | [] => [⟨path, id, sectionKey⟩]
  | p :: rest =>
    if p.path.Same path then ⟨p.path, id, sectionKey⟩ :: rest
    else p :: announce id path sectionKey rest

/-- Takes up a case that has to have a result. -/
def expect (t : Tally) (id : String) (path : Path) (sectionKey : String) : Tally :=
  if t.hasRecorded path then t
  else { t with pending := announce id path sectionKey t.pending }

/-- Takes up a result. -/
def record (t : Tally) (r : Result) : Tally :=
  if t.hasRecorded r.path then t
  else
    { pending := t.pending.filter fun p => !decide (p.path.Same r.path)
      recorded := r.path :: t.recorded
      totals := t.totals.add r.verdict
      sections := t.sections.alter r.sectionKey fun c => (c.getD .zero).add r.verdict
      failures := if r.verdict = .pass then t.failures else .ofResult r :: t.failures }

def recordedCount (t : Tally) : Nat := t.recorded.length

def failingCount (t : Tally) : Nat := t.failures.length

def pendingCount (t : Tally) : Nat := t.pending.length

/-- The tally with every pending case as a crash. -/
def crashPending (t : Tally) : Tally :=
  (Pending.inPathOrder t.pending).foldl
    (fun t p => t.record (.notExecuted p.id p.path p.sectionKey)) t

/-- The summary of what is recorded, with the given names left out. -/
def summary (t : Tally) (notRun : List String) : Summary :=
  { total := t.totals.total
    passed := t.totals.pass
    failed := t.totals.fail
    crashed := t.totals.crash
    sections := t.sections
    failures := t.failures.reverse.mergeSort Failure.le
    notRun := Text.sort notRun }

/-- The summary of a run that ended. -/
def finish (t : Tally) : Completion → Summary
  | .complete => t.crashPending.summary []
  | .cancelled => t.summary (t.pending.map (·.id))

end Tally

end Conformance
