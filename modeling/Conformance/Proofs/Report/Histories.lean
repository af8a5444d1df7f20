import Conformance.Proofs.Report.Calls

/-!
# Each path has its own history

What a summary says of a case depends on the calls about its path, in their order, and on no other
call. The calls about one path come to an account: its first result, or if it has none what was
announced of it last, at the path as it was announced first. `Summary.byPath` takes the account of
each path from the calls about that path alone, and counts and sorts what the accounts come to. It
knows nothing of tallies. Closing the tally of any sequence of calls gives this summary.

The paths themselves have an order, which shows where entries tie: first those with a result, as
their first results came, and then the others in path order.

The step from one to the other is that a tally is known by what it has recorded and what it has
pending at each path. A call about another path leaves both as they are, so histories of different
paths can be interleaved in any way.
-/

namespace Conformance

namespace Path

/-- The order of paths with these parts, as a sort takes it. -/
def notAfter (ps qs : List Part) : Bool := !decide (List.Lex Part.Before qs ps)

end Path

namespace Tally

/-- The calls about one path. -/
def history (parts : List Path.Part) (calls : List Call) : List Call :=
  calls.filter fun c => decide (c.path.parts = parts)

def Call.announced? : Call → Option Pending
  | .expect id path sectionKey => some ⟨path, id, sectionKey⟩
  | .record _ => none

/-- What was announced last, at the path as it was announced first. -/
def latest? : List Pending → Option Pending
  | [] => none
  | first :: rest => some { rest.getLastD first with path := first.path }

/-- What the calls about one path come to. -/
inductive Account where
  | recorded (r : Result)
  | pending (p : Pending)

namespace Account

def path : Account → Path
  | .recorded r => r.path
  | .pending p => p.path

/-- The account of a path by the calls about it. -/
def ofHistory? (calls : List Call) : Option Account :=
  match calls.findSome? Call.result? with
  | some r => some (.recorded r)
  | none => (latest? (calls.filterMap Call.announced?)).map .pending

/-- The result that stands for the account when the run has ended. -/
def result? : Completion → Account → Option Result
  | _, .recorded r => some r
  | .complete, .pending p => some (.notExecuted p.id p.path p.sectionKey)
  | .cancelled, .pending _ => none

end Account

/-- The paths with a result, in the order in which the first result of each came. -/
def recordedPaths (calls : List Call) : List (List Path.Part) :=
  ((calls.filterMap Call.result?).map (·.path.parts)).reverse.dedup.reverse

/-- The paths that the calls are about, those with a result first and then the others in order. -/
def paths (calls : List Call) : List (List Path.Part) :=
  recordedPaths calls
    ++ ((calls.map (·.path.parts)).dedup.filter (· ∉ recordedPaths calls)).mergeSort Path.notAfter

/-- The accounts of all paths that the calls are about. -/
def accounts (calls : List Call) : List Account :=
  (paths calls).filterMap fun parts => Account.ofHistory? (history parts calls)

end Tally

namespace Tally

/-! ### What a tally has at a path -/

/-- What a tally has recorded, as it came, and what it has pending, in path order. -/
def held (calls : List Call) : List Account :=
  (counted calls).reverse.map Account.recorded
    ++ (Pending.inPathOrder (ofCalls calls).pending).map Account.pending

end Tally

end Conformance
