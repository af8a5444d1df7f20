import Conformance.Verdict

/-!
# What a verdict depends on

A case passes exactly if its engine did what the case expects: it ran to its end and nothing else
was expected, or it raised an error of the expected kind. Whatever an engine answers, the reason is
never that the case was not executed. Messages, budget and time have no part in a verdict: it is the
same on the trace without them.
-/

namespace Conformance

/-- A case of an empty text, known by its path. -/
def Case.plain (path : String) (expectation? : Option Expectation) : Case :=
  ⟨.ofText path, "", ⟨path, none, none, none, expectation?, [], .tagged⟩⟩

/-- The engine did what the case expects. -/
def Case.AsExpected (c : Case) (a : Answer) : Prop :=
  a = .outcome .completed ∧ c.metadata.expectation? = none ∨
    ∃ kind message expected, a = .outcome (.threw kind message) ∧
      c.metadata.expectation? = some expected ∧ expected.accepts kind = true

theorem Answer.capture_eq_ok_iff {a : Answer} {o : Outcome} :
    a.capture = .ok o ↔ a = .outcome o := by
  cases a <;> simp [capture]

/-- The outcome without its message. -/
def Outcome.unsaid : Outcome → Outcome
  | .completed => .completed
  | .reported primitive _ => .reported primitive ""
  | .threw kind _ => .threw kind ""
  | .timedOut => .timedOut

/-- The trace without messages, budget and time. -/
def Trace.bare (t : Trace) : Trace :=
  match t.outcome with
  | .error _ => ⟨.error "", ⟨0⟩, ⟨0⟩⟩
  | .ok outcome => ⟨.ok outcome.unsaid, ⟨0⟩, ⟨0⟩⟩

/-- A trace passes if it ran to its end as expected or raised the error that was expected. -/
theorem judge_eq_pass_iff (expectation? : Option Expectation) (t : Trace) :
    (judge expectation? t).1 = .pass ↔
      t.outcome = .ok .completed ∧ expectation? = none ∨
        ∃ kind message expected, t.outcome = .ok (.threw kind message) ∧
          expectation? = some expected ∧ expected.accepts kind = true := by
  obtain ⟨detail | (_ | _ | ⟨kind, message⟩ | _), budget, elapsed⟩ := t
  · simp [judge]
  · cases expectation? <;> simp [judge]
  · simp [judge]
  · rcases expectation? with _ | expected
    · simp [judge]
    · by_cases h : expected.accepts kind = true <;> simp [judge, h]
  · simp [judge]

theorem judge_ne_notExecuted (expectation? : Option Expectation) (t : Trace) :
    (judge expectation? t).2 ≠ some .notExecuted := by
  unfold judge
  split
  case h_7 => split <;> simp
  all_goals simp

theorem judge_bare (expectation? : Option Expectation) (t : Trace) :
    (judge expectation? t.bare).1 = (judge expectation? t).1 := by
  obtain ⟨detail | outcome, budget, elapsed⟩ := t
  · rfl
  cases outcome with
  | reported | timedOut => rfl
  | completed => cases expectation? <;> rfl
  | threw kind message =>
    cases expectation? with
    | none => rfl
    | some expected =>
      -- the kind decides, and it stays
      show (judge _ ⟨.ok (.threw kind ""), ⟨0⟩, ⟨0⟩⟩).1 = _
      simp only [judge]
      split <;> rfl

namespace Case

theorem verdict_result_bare (c : Case) (t : Trace) :
    (c.result t.bare).verdict = (c.result t).verdict := judge_bare _ t

theorem verdict_resultOf_eq_pass_iff (c : Case) (budget : Duration) (a : Answer)
    (elapsed : Duration) : (c.resultOf budget a elapsed).verdict = .pass ↔ c.AsExpected a :=
  (judge_eq_pass_iff _ _).trans (by simp only [Answer.capture_eq_ok_iff, AsExpected])

theorem reason?_resultOf_ne_notExecuted (c : Case) (budget : Duration) (a : Answer)
    (elapsed : Duration) : (c.resultOf budget a elapsed).reason? ≠ some .notExecuted :=
  judge_ne_notExecuted _ _

end Case

end Conformance
