import Conformance.Json.Reader
import Conformance.Json.Writer
import Conformance.Report.Rate
import Conformance.Verdict

/-!
# Summaries

A summary is what is kept of a run: totals, counts for each section, every case that did not pass,
and the names of the cases that a cancelled run left out. It is stored as a JSON record, in the
indented layout, and printed as text.
-/

namespace Conformance

/-- How many cases passed, failed and crashed. -/
structure Counts where
  pass : Nat
  fail : Nat
  crash : Nat
  deriving DecidableEq, Repr, Inhabited

namespace Counts

def zero : Counts := ⟨0, 0, 0⟩

def total (c : Counts) : Nat := c.pass + c.fail + c.crash

/-- One case more. -/
def add (c : Counts) : Verdict → Counts
  | .pass => { c with pass := c.pass + 1 }
  | .fail => { c with fail := c.fail + 1 }
  | .crash => { c with crash := c.crash + 1 }

/-- The record of counts. -/
def toJson (c : Counts) : Json :=
  .record [("pass", .count c.pass), ("fail", .count c.fail), ("crash", .count c.crash)]

/-- The counts of a record. -/
def ofJson? (value : Json) : Option Counts := do
  match ← value.fields? ["pass", "fail", "crash"] with
  | [pass, fail, crash] =>
    return ⟨← Json.required? Json.count? pass, ← Json.required? Json.count? fail,
      ← Json.required? Json.count? crash⟩
  | _ => none

end Counts

/-- A case that did not pass. -/
structure Failure where
  id : String
  /-- As it is printed. -/
  path : String
  sectionKey : String
  verdict : Verdict
  message : String
  reason? : Option Reason
  deriving DecidableEq, Repr

namespace Failure

/-- The entry of a result. -/
def ofResult (r : Result) : Failure :=
  ⟨r.id, r.path.text, r.sectionKey, r.verdict, r.message, r.reason?⟩

/-- By name, then by path. -/
def le (a b : Failure) : Bool := decide (a.id < b.id) || (a.id == b.id && decide (a.path ≤ b.path))

/-- The record of an entry. -/
def toJson (f : Failure) : Json :=
  .record [("id", .text f.id), ("path", .text f.path), ("section", .text f.sectionKey),
    ("outcome", .text f.verdict.name), ("message", .text f.message),
    ("reason", (f.reason?.map Reason.toJson).getD .null)]

/-- The entry of a record, which stands in a list in a record. -/
def ofJson? (value : Json) : Option Failure := do
  match ← value.fields? ["id", "path", "section", "outcome", "message", "reason"] with
  | [id, path, sectionKey, verdict, message, reason] =>
    return {
      id := ← Json.required? Json.text? id
      path := ← Json.required? Json.text? path
      sectionKey := ← Json.required? Json.text? sectionKey
      verdict := ← Verdict.ofName? (← (← verdict).choice?)
      message := ← Json.required? Json.text? message
      reason? := ← Json.absent? (Reason.ofJson? 3) reason }
  | _ => none

end Failure

/-- What is kept of a run. -/
structure Summary where
  total : Nat
  passed : Nat
  failed : Nat
  crashed : Nat
  sections : Table Counts
  failures : List Failure
  /-- The names of the cases that were left out. -/
  notRun : List String
  deriving DecidableEq, Repr

namespace Summary

/-- Nothing failed, nothing crashed and nothing was left out. -/
def success (s : Summary) : Bool := s.failed == 0 && s.crashed == 0 && s.notRun.isEmpty

/-- The names of the cases that did not pass. -/
def failingIds (s : Summary) : List String := s.failures.map (·.id)

def passRate (s : Summary) : Rate := .ofCounts s.passed s.total

/-- The lines of an entry in the printed report. -/
def failureLines (f : Failure) : List String :=
  ["  " ++ f.verdict.label ++ " " ++ f.id ++ " (" ++ f.path ++ ")", "    " ++ f.message]

/-- The lines of the printed report. -/
def reportLines (s : Summary) : List String :=
  ["Conformance results:",
    "  Total:   " ++ toString s.total,
    "  Passed:  " ++ toString s.passed ++ " (" ++ s.passRate.text ++ "%)",
    "  Failed:  " ++ toString s.failed,
    "  Crashed: " ++ toString s.crashed] ++
  (if s.notRun.isEmpty then [] else ["  Not run: " ++ toString s.notRun.length]) ++
  (if s.failures.isEmpty then [] else "" :: "Failures:" :: s.failures.flatMap failureLines)

def report (s : Summary) : String := String.join (s.reportLines.map (· ++ "\n"))

/-- The record of a summary. -/
def toJson (s : Summary) : Json :=
  .record [("total", .count s.total), ("passed", .count s.passed), ("failed", .count s.failed),
    ("crashed", .count s.crashed),
    ("sections", .record (s.sections.entries.map fun (key, counts) => (key, counts.toJson))),
    ("failures", .array (s.failures.map Failure.toJson)),
    ("not_run", .array (s.notRun.map Json.text))]

/-- The counts of each section. -/
def sectionsOfJson? (value : Json) : Option (Table Counts) := do
  let entries ← (← value.members).mapM fun (key, counts) => (Counts.ofJson? counts).map (key, ·)
  return .ofList entries

/-- The summary of a record. -/
def ofJson? (value : Json) : Option Summary := do
  let names := ["total", "passed", "failed", "crashed", "sections", "failures", "not_run"]
  match ← value.fields? names with
  | [total, passed, failed, crashed, sections, failures, notRun] =>
    return {
      total := ← Json.required? Json.count? total
      passed := ← Json.required? Json.count? passed
      failed := ← Json.required? Json.count? failed
      crashed := ← Json.required? Json.count? crashed
      sections := ← Json.required? sectionsOfJson? sections
      failures := ← Json.required? (Json.list? Failure.ofJson?) failures
      notRun := ← Json.required? (Json.list? Json.text?) notRun }
  | _ => none

def store (s : Summary) : String := s.toJson.pretty

def restore? (text : String) : Option Summary := (Json.read text.toList).bind ofJson?

end Summary

end Conformance
