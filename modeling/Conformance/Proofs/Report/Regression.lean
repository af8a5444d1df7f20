import Conformance.Report.Comparison

/-!
# What a comparison takes for a regression

A comparison knows cases by their names. It finds a regression exactly if some name fails in the
newer summary and none of its cases failed in the older one.
-/

namespace Conformance.Comparison

theorem mem_newFailures_between {old new : Summary} {id : String} :
    id ∈ (between old new).newFailures ↔ id ∈ new.failingIds ∧ id ∉ old.failingIds := by
  rw [between, List.mem_filter, Text.mem_setOf, Bool.not_eq_true', List.contains_eq_mem,
    decide_eq_false_iff_not, Text.mem_setOf]

theorem regressed_between_iff {old new : Summary} :
    (between old new).regressed = true ↔ ∃ id ∈ new.failingIds, id ∉ old.failingIds := by
  rw [regressed, Bool.not_eq_true', List.isEmpty_eq_false_iff_exists_mem]
  exact exists_congr fun _ => mem_newFailures_between

end Conformance.Comparison
