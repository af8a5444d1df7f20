import Conformance.Proofs.Report.Regression
import Conformance.Proofs.Text.Octets
import Conformance.Proofs.Text.Table
import Mathlib.Data.Finset.Card

/-!
# What a comparison says

A comparison takes the names that fail for sets: a name that is listed more than once, or out of
order, counts once and stands at its place. What fails in one summary only and what fails in both
make up what fails in it. A section is listed exactly if its counts differ, and as long as counts
are below half the words its changes lead from the older counts to the newer ones.
-/

namespace Conformance

/-- A set of strings as a list. -/
theorem length_eq_card_of_mem_iff {texts : List String} {s : Finset String} (h : texts.Nodup)
    (hmem : ∀ x, x ∈ texts ↔ x ∈ s) : texts.length = s.card := by
  have hset : texts.toFinset = s := by
    ext x
    rw [List.mem_toFinset, hmem]
  rw [← hset, List.toFinset_card_of_nodup h]

theorem Text.pairwise_octets_of_lt {texts : List String} (h : texts.Pairwise fun a b => a < b) :
    texts.Pairwise fun a b => Utf8.octets a < Utf8.octets b :=
  h.imp Utf8.octets_lt_octets.2

namespace Table

variable {α : Type}

theorem mem_keys_iff {t : Table α} {key : String} :
    key ∈ t.keys ↔ ∃ value, t.find? key = some value := by
  rw [keys, List.mem_map]
  constructor
  · rintro ⟨⟨k, value⟩, hmem, rfl⟩
    exact ⟨value, mem_entries_iff.1 hmem⟩
  · rintro ⟨value, hfind⟩
    exact ⟨(key, value), mem_entries_iff.2 hfind, rfl⟩

end Table

namespace Change

/-- The change leads from the older counts to the newer ones, each as far as it is below half the
words. -/
structure Leads (old new : Counts) (c : Change) : Prop where
  pass : old.pass < Word.half → new.pass < Word.half → (old.pass : Int) + c.pass = new.pass
  fail : old.fail < Word.half → new.fail < Word.half → (old.fail : Int) + c.fail = new.fail
  crash : old.crash < Word.half → new.crash < Word.half → (old.crash : Int) + c.crash = new.crash

theorem add_between {old new : Nat} (hold : old < Word.half) (hnew : new < Word.half) :
    (old : Int) + between old new = new := by
  have hhalf : Word.half = 9223372036854775808 := rfl
  have hsize : Word.size = 18446744073709551616 := rfl
  rw [hhalf] at hold hnew
  have hsigned : between old new = new - old := by
    rw [between, Word.signed, hsize]
    apply Int.bmod_eq_of_le <;> omega
  omega

theorem leads_ofCounts (old new : Counts) : (ofCounts old new).Leads old new :=
  ⟨add_between, add_between, add_between⟩

end Change

namespace Comparison

/-- What a comparison has to say about an older and a newer summary. -/
structure Tells (old new : Summary) (c : Comparison) : Prop where
  newFailures_increasing :
    c.newFailures.Pairwise fun a b => Text.Utf8.octets a < Text.Utf8.octets b
  mem_newFailures : ∀ id, id ∈ c.newFailures ↔ id ∈ new.failingIds ∧ id ∉ old.failingIds
  fixed_increasing : c.fixed.Pairwise fun a b => Text.Utf8.octets a < Text.Utf8.octets b
  mem_fixed : ∀ id, id ∈ c.fixed ↔ id ∈ old.failingIds ∧ id ∉ new.failingIds
  stillFailing : c.stillFailing = (new.failingIds.toFinset ∩ old.failingIds.toFinset).card
  failing_new : c.newFailures.length + c.stillFailing = new.failingIds.toFinset.card
  failing_old : c.fixed.length + c.stillFailing = old.failingIds.toFinset.card
  /-- A section that is missing counts zero. -/
  mem_sections : ∀ key, key ∈ c.sectionChanges.keys ↔
    (old.sections.find? key).getD ⟨0, 0, 0⟩ ≠ (new.sections.find? key).getD ⟨0, 0, 0⟩
  leads : ∀ key change, c.sectionChanges.find? key = some change →
    change.Leads ((old.sections.find? key).getD ⟨0, 0, 0⟩)
      ((new.sections.find? key).getD ⟨0, 0, 0⟩)

variable (old new : Summary)

theorem mem_fixed_between {id : String} :
    id ∈ (between old new).fixed ↔ id ∈ old.failingIds ∧ id ∉ new.failingIds := by
  -- what is fixed is what fails newly the other way round
  change id ∈ (between new old).newFailures ↔ _
  exact mem_newFailures_between

theorem pairwise_newFailures_between :
    (between old new).newFailures.Pairwise fun a b => a < b :=
  (Text.pairwise_setOf new.failingIds).filter _

theorem length_newFailures_between :
    (between old new).newFailures.length
      = (new.failingIds.toFinset \ old.failingIds.toFinset).card := by
  apply length_eq_card_of_mem_iff
  · exact (pairwise_newFailures_between old new).imp ne_of_lt
  · intro id
    rw [mem_newFailures_between, Finset.mem_sdiff, List.mem_toFinset, List.mem_toFinset]

theorem stillFailing_between :
    (between old new).stillFailing
      = (new.failingIds.toFinset ∩ old.failingIds.toFinset).card := by
  apply length_eq_card_of_mem_iff
  · exact ((Text.pairwise_setOf new.failingIds).filter _).imp ne_of_lt
  · intro id
    rw [List.mem_filter, Text.mem_setOf, List.contains_eq_mem, decide_eq_true_eq, Text.mem_setOf,
      Finset.mem_inter, List.mem_toFinset, List.mem_toFinset]

/-! ### Sections -/

theorem changes_eq_map (keys : List String) :
    changes old new keys = (keys.filter fun key => countsOf old key ≠ countsOf new key).map
      fun key => (key, .ofCounts (countsOf old key) (countsOf new key)) := by
  rw [changes]
  induction keys with
  | nil => rfl
  | cons key keys ih =>
    rw [List.filterMap_cons, List.filter_cons]
    by_cases hsame : countsOf old key = countsOf new key
    · simpa [hsame] using ih
    · simpa [hsame] using ih

theorem mem_keys_of_countsOf_ne {key : String} (h : countsOf old key ≠ countsOf new key) :
    key ∈ old.sections.keys ++ new.sections.keys := by
  rw [List.mem_append, Table.mem_keys_iff, Table.mem_keys_iff]
  by_contra hmissing
  rw [not_or, ← Option.ne_none_iff_exists', ← Option.ne_none_iff_exists', not_not, not_not]
    at hmissing
  apply h
  rw [countsOf, countsOf, hmissing.1, hmissing.2]

/-- A section is listed if its counts differ, with the change that leads from the older counts to
the newer ones. -/
theorem find?_sectionChanges_between (key : String) :
    (between old new).sectionChanges.find? key
      = if countsOf old key = countsOf new key then none
        else some (.ofCounts (countsOf old key) (countsOf new key)) := by
  rw [between, changes_eq_map]
  dsimp only
  rw [Table.find?_ofList_map fun key => Change.ofCounts (countsOf old key) (countsOf new key)]
  by_cases hsame : countsOf old key = countsOf new key
  · simp [hsame]
  · rw [if_neg hsame, if_pos]
    exact List.mem_filter.2 ⟨mem_keys_of_countsOf_ne old new hsame, decide_eq_true hsame⟩

/-- The comparison of two summaries, in whatever order and however often they list names, says what
there is to say about them. -/
theorem tells_between : (between old new).Tells old new where
  newFailures_increasing := Text.pairwise_octets_of_lt (pairwise_newFailures_between old new)
  mem_newFailures _ := mem_newFailures_between
  fixed_increasing := Text.pairwise_octets_of_lt (pairwise_newFailures_between new old)
  mem_fixed _ := mem_fixed_between old new
  stillFailing := stillFailing_between old new
  failing_new := by
    rw [length_newFailures_between, stillFailing_between, Finset.card_sdiff_add_card_inter]
  failing_old := by
    have hfixed : (between old new).fixed.length
        = (old.failingIds.toFinset \ new.failingIds.toFinset).card :=
      length_newFailures_between new old
    rw [hfixed, stillFailing_between, Finset.inter_comm, Finset.card_sdiff_add_card_inter]
  mem_sections key := by
    rw [Table.mem_keys_iff, find?_sectionChanges_between]
    change _ ↔ countsOf old key ≠ countsOf new key
    split
    · next hsame => simp [hsame]
    · next hne => simp [hne]
  leads key change h := by
    rw [find?_sectionChanges_between] at h
    split at h
    · cases h
    · cases h
      exact Change.leads_ofCounts _ _

end Comparison

end Conformance
