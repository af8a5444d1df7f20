import Conformance.Case.Basic
import Conformance.Engine.Basic

/-!
# Verdicts

A verdict depends on the trace of a case and on what the case expects, and on nothing else. A case
that reports fails, a case that does not end in time or whose engine is at fault crashes, and
whether raising or completing is right is a matter of the expectation.

Every result that is no pass has a reason. Its message is what the case reported, for a report, and
the reason in words otherwise.
-/

namespace Conformance

/-- How a case is judged. -/
inductive Verdict where
  | pass
  | fail
  | crash
  deriving DecidableEq, Repr

namespace Verdict

/-- The name in a printed report. -/
def label : Verdict → String
  | .pass => "PASS"
  | .fail => "FAIL"
  | .crash => "CRASH"

/-- The name in a stored report. -/
def name : Verdict → String
  | .pass => "pass"
  | .fail => "fail"
  | .crash => "crash"

/-- The verdict of a name. -/
def ofName? : String → Option Verdict
  | "pass" => some .pass
  | "fail" => some .fail
  | "crash" => some .crash
  | _ => none

end Verdict

/-- Why a case did not pass. -/
inductive Reason where
  | malformed (detail : String)
  | assertionFailed (primitive message : String)
  | unexpectedError (kind message : String) (expected : Option String)
  | expectedErrorMissing (expected : String)
  | timeout (milliseconds : Nat)
  | engineFault (detail : String)
  | notExecuted
  deriving DecidableEq, Repr

namespace Reason

/-- The reason in words. -/
def describe : Reason → String
  | .malformed detail => "malformed case: " ++ detail
  | .assertionFailed primitive message => primitive ++ ": " ++ message
  | .unexpectedError kind message none => "uncaught " ++ kind ++ ": " ++ message
  | .unexpectedError kind message (some expected) =>
    "expected " ++ expected ++ " but " ++ kind ++ " was raised: " ++ message
  | .expectedErrorMissing expected =>
    "expected " ++ expected ++ " to be raised, but the case completed normally"
  | .timeout milliseconds =>
    "case exceeded the " ++ toString milliseconds ++ "ms time budget"
  | .engineFault detail => "engine fault: " ++ detail
  | .notExecuted => "case did not terminate / was not executed"

/-- The message of a result with this reason. -/
def message : Reason → String
  | .assertionFailed _ message => message
  | reason => reason.describe

/-- The record of a reason. -/
def toJson : Reason → Json
  | .malformed detail => .record [("type", .text "malformed_case"), ("detail", .text detail)]
  | .assertionFailed primitive message =>
    .record [("type", .text "assertion_failed"), ("primitive", .text primitive),
      ("message", .text message)]
  | .unexpectedError kind message expected =>
    .record [("type", .text "unexpected_engine_error"), ("kind", .text kind),
      ("message", .text message), ("expected", (expected.map Json.text).getD .null)]
  | .expectedErrorMissing expected =>
    .record [("type", .text "expected_error_missing"), ("expected", .text expected)]
  | .timeout milliseconds =>
    .record [("type", .text "timeout"), ("timeout_ms", .count milliseconds)]
  | .engineFault detail => .record [("type", .text "engine_fault"), ("detail", .text detail)]
  | .notExecuted => .record [("type", .text "not_executed")]

/-- The reason of a record inside `outer` arrays and objects. -/
def ofJson? (outer : Nat) (value : Json) : Option Reason := do
  let (type, rest) ← value.tagged? "type" outer
  match type with
  | "malformed_case" =>
    match ← rest.fields? ["detail"] with
    | [detail] => return .malformed (← Json.required? Json.text? detail)
    | _ => none
  | "assertion_failed" =>
    match ← rest.fields? ["primitive", "message"] with
    | [primitive, message] =>
      return .assertionFailed (← Json.required? Json.text? primitive)
        (← Json.required? Json.text? message)
    | _ => none
  | "unexpected_engine_error" =>
    match ← rest.fields? ["kind", "message", "expected"] with
    | [kind, message, expected] =>
      return .unexpectedError (← Json.required? Json.text? kind)
        (← Json.required? Json.text? message) (← Json.absent? Json.text? expected)
    | _ => none
  | "expected_error_missing" =>
    match ← rest.fields? ["expected"] with
    | [expected] => return .expectedErrorMissing (← Json.required? Json.text? expected)
    | _ => none
  | "timeout" =>
    match ← rest.fields? ["timeout_ms"] with
    | [milliseconds] => return .timeout (← Json.required? Json.count? milliseconds)
    | _ => none
  | "engine_fault" =>
    match ← rest.fields? ["detail"] with
    | [detail] => return .engineFault (← Json.required? Json.text? detail)
    | _ => none
  | "not_executed" => (rest.noContent?).map fun _ => .notExecuted
  | _ => none

end Reason

/-- The result of one case. -/
structure Result where
  id : String
  path : Path
  sectionKey : String
  verdict : Verdict
  reason? : Option Reason
  message : String
  elapsed : Duration
  deriving DecidableEq, Repr

namespace Result

/-- The result with the message that its reason gives. -/
def make (id : String) (path : Path) (sectionKey : String) (verdict : Verdict)
    (reason? : Option Reason) (elapsed : Duration) : Result :=
  { id, path, sectionKey, verdict, reason?, elapsed
    message := (reason?.map Reason.message).getD "" }

/-- The result of a malformed case. -/
def ofMalformed (m : MalformedCase) : Result :=
  make m.id m.path m.sectionKey .crash (some (.malformed m.detail)) ⟨0⟩

/-- The result of a case that never reported. -/
def notExecuted (id : String) (path : Path) (sectionKey : String) : Result :=
  make id path sectionKey .crash (some .notExecuted) ⟨0⟩

end Result

/-- The verdict on a trace, and the reason for it. -/
def judge (expectation? : Option Expectation) (t : Trace) : Verdict × Option Reason :=
  match t.outcome, expectation? with
  | .error detail, _ => (.crash, some (.engineFault detail))
  | .ok .timedOut, _ => (.crash, some (.timeout t.budget.milliseconds))
  | .ok (.reported primitive message), _ =>
    (.fail, some (.assertionFailed primitive.name message))
  | .ok .completed, none => (.pass, none)
  | .ok .completed, some expected => (.fail, some (.expectedErrorMissing expected.describe))
  | .ok (.threw kind message), none => (.crash, some (.unexpectedError kind message none))
  | .ok (.threw kind message), some expected =>
    if expected.accepts kind then (.pass, none)
    else (.fail, some (.unexpectedError kind message (some expected.describe)))

/-- The result of a case with a trace. -/
def Case.result (c : Case) (t : Trace) : Result :=
  let (verdict, reason?) := judge c.metadata.expectation? t
  .make c.id c.path c.sectionKey verdict reason? t.elapsed

/-- The result of a case for which an engine gave an answer. -/
def Case.resultOf (c : Case) (budget : Duration) (a : Answer) (elapsed : Duration) : Result :=
  c.result ⟨a.capture, budget, elapsed⟩

def Case.program (c : Case) : Program := ⟨c.id, c.source, c.strict⟩

end Conformance
