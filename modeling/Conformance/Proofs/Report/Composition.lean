import Conformance.Proofs.Report.Comparison

/-!
# Comparisons the other way round and one after the other

Compared the other way round, what failed newly is fixed and every section changes back. With a
third summary in between, the changes of each section add up, where a section that is not listed
does not change, and nothing fails newly that did not do so on one of the two ways.

Both need counts below half the words: two counts further apart than that do not differ by a signed
word, and the change that is listed is then another one.
-/

namespace Conformance

namespace Table

variable {α β : Type}

/-- The table with every value replaced by its image. -/
def map (f : α → β) (t : Table α) : Table β where
  entries := t.entries.map fun e => (e.1, f e.2)
  increasing := List.pairwise_map.2 t.increasing

@[simp] theorem keys_map (f : α → β) (t : Table α) : (t.map f).keys = t.keys := by
  simp [keys, map]

theorem find?_map (f : α → β) (t : Table α) (key : String) :
    (t.map f).find? key = (t.find? key).map f := by
  obtain ⟨entries, hincreasing⟩ := t
  simp only [find?, map]
  clear hincreasing
  induction entries with
  | nil => rfl
  | cons e entries ih =>
    obtain ⟨k, v⟩ := e
    rw [List.map_cons, lookup_cons_eq_ite, lookup_cons_eq_ite, ih]
    split <;> rfl

end Table

/-- Each of the counts is below half the words. -/
def Counts.Small (c : Counts) : Prop :=
  c.pass < Word.half ∧ c.fail < Word.half ∧ c.crash < Word.half

instance (c : Counts) : Decidable c.Small := inferInstanceAs (Decidable (_ ∧ _ ∧ _))

/-- All counts of sections are below half the words. -/
def Summary.Small (s : Summary) : Prop := ∀ e ∈ s.sections.entries, e.2.Small

instance (s : Summary) : Decidable s.Small :=
  inferInstanceAs (Decidable (∀ e ∈ s.sections.entries, e.2.Small))

namespace Change

instance : Zero Change := ⟨⟨0, 0, 0⟩⟩

instance : Add Change := ⟨fun c d => ⟨c.pass + d.pass, c.fail + d.fail, c.crash + d.crash⟩⟩

instance : Neg Change := ⟨fun c => ⟨-c.pass, -c.fail, -c.crash⟩⟩

theorem between_eq {old new : Nat} (hold : old < Word.half) (hnew : new < Word.half) :
    between old new = (new : Int) - old := by
  have := add_between hold hnew
  omega

theorem ofCounts_self (c : Counts) : ofCounts c c = 0 := by
  simp only [ofCounts, between, sub_self]
  rfl

theorem neg_def (c : Change) : -c = ⟨-c.pass, -c.fail, -c.crash⟩ := rfl

theorem add_def (c d : Change) : c + d = ⟨c.pass + d.pass, c.fail + d.fail, c.crash + d.crash⟩ :=
  rfl

/-- Small counts change by their differences. -/
theorem ofCounts_eq {old new : Counts} (hold : old.Small) (hnew : new.Small) :
    ofCounts old new = ⟨new.pass - old.pass, new.fail - old.fail, new.crash - old.crash⟩ := by
  obtain ⟨hpass, hfail, hcrash⟩ := hold
  obtain ⟨hpass', hfail', hcrash'⟩ := hnew
  rw [ofCounts, between_eq hpass hpass', between_eq hfail hfail', between_eq hcrash hcrash']

theorem ofCounts_swap {old new : Counts} (hold : old.Small) (hnew : new.Small) :
    ofCounts new old = -ofCounts old new := by
  rw [ofCounts_eq hnew hold, ofCounts_eq hold hnew, neg_def]
  simp only [neg_sub]

theorem ofCounts_trans {old mid new : Counts} (hold : old.Small) (hmid : mid.Small)
    (hnew : new.Small) : ofCounts old new = ofCounts old mid + ofCounts mid new := by
  rw [ofCounts_eq hold hnew, ofCounts_eq hold hmid, ofCounts_eq hmid hnew, add_def]
  simp only [sub_add_sub_cancel']

end Change

namespace Comparison

/-- How a section changed, which is not at all if it is not listed. -/
def changeOf (c : Comparison) (key : String) : Change := (c.sectionChanges.find? key).getD 0

/-- The comparison the other way round. -/
def reversed (c : Comparison) : Comparison where
  newFailures := c.fixed
  fixed := c.newFailures
  stillFailing := c.stillFailing
  sectionChanges := c.sectionChanges.map fun change => -change

theorem small_countsOf {s : Summary} (h : s.Small) (key : String) : (countsOf s key).Small := by
  rw [countsOf]
  cases hfind : s.sections.find? key with
  | none => decide
  | some counts => exact h (key, counts) (Table.mem_entries_iff.2 hfind)

theorem changeOf_between (old new : Summary) (key : String) :
    (between old new).changeOf key = .ofCounts (countsOf old key) (countsOf new key) := by
  rw [changeOf, find?_sectionChanges_between]
  split
  · next hsame =>
    rw [hsame, Change.ofCounts_self]
    rfl
  · rfl

theorem sectionChanges_between_swap {a b : Summary} (ha : a.Small) (hb : b.Small) :
    (between b a).sectionChanges = (between a b).sectionChanges.map fun change => -change := by
  apply Table.ext_find?
  intro key
  rw [Table.find?_map, find?_sectionChanges_between, find?_sectionChanges_between]
  by_cases hsame : countsOf a key = countsOf b key
  · rw [if_pos hsame, if_pos hsame.symm]
    rfl
  · rw [if_neg hsame, if_neg (Ne.symm hsame),
      Change.ofCounts_swap (small_countsOf ha key) (small_countsOf hb key)]
    rfl

theorem between_swap {a b : Summary} (ha : a.Small) (hb : b.Small) :
    between b a = (between a b).reversed := by
  have hstill : (between b a).stillFailing = (between a b).stillFailing := by
    rw [stillFailing_between, stillFailing_between, Finset.inter_comm]
  -- what is fixed is by definition what fails newly the other way round
  show Comparison.mk (between b a).newFailures (between b a).fixed (between b a).stillFailing
    (between b a).sectionChanges = _
  rw [hstill, sectionChanges_between_swap ha hb]
  rfl

theorem newFailures_between_subset (a b c : Summary) :
    ∀ id ∈ (between a c).newFailures,
      id ∈ (between a b).newFailures ∨ id ∈ (between b c).newFailures := by
  intro id hid
  rw [mem_newFailures_between] at hid ⊢
  rw [mem_newFailures_between]
  by_cases hb : id ∈ b.failingIds
  · exact .inl ⟨hb, hid.2⟩
  · exact .inr ⟨hid.1, hb⟩

theorem fixed_between_subset (a b c : Summary) :
    ∀ id ∈ (between a c).fixed, id ∈ (between a b).fixed ∨ id ∈ (between b c).fixed :=
  fun id hid => (newFailures_between_subset c b a id hid).symm

/-- Comparing the other way round reverses a comparison, and with a third summary in between the
changes add up and no failure is new, or fixed, that is not so on one of the two ways. -/
theorem swaps_and_composes {a b c : Summary} (ha : a.Small) (hb : b.Small) (hc : c.Small) :
    between b a = (between a b).reversed ∧
      (∀ key, (between a c).changeOf key
        = (between a b).changeOf key + (between b c).changeOf key) ∧
      (∀ id ∈ (between a c).newFailures,
        id ∈ (between a b).newFailures ∨ id ∈ (between b c).newFailures) ∧
      ∀ id ∈ (between a c).fixed, id ∈ (between a b).fixed ∨ id ∈ (between b c).fixed := by
  refine ⟨between_swap ha hb, ?_, newFailures_between_subset a b c, fixed_between_subset a b c⟩
  intro key
  rw [changeOf_between, changeOf_between, changeOf_between]
  exact Change.ofCounts_trans (small_countsOf ha key) (small_countsOf hb key)
    (small_countsOf hc key)

/-- A summary of one case in a section that has passed or failed. -/
def oneCase (key : String) (verdict : Verdict) : Summary :=
  let counts := Counts.zero.add verdict
  { total := 1, passed := counts.pass, failed := counts.fail, crashed := counts.crash
    sections := .ofList [(key, counts)]
    failures := if verdict = .pass then [] else [⟨"S1", "a.js", key, verdict, "", none⟩]
    notRun := [] }

/-- A section vanishes and comes back as it was, so it is listed twice in between and not at all
from end to end. -/
theorem swaps_and_composes_comingBack :
    let a := oneCase "15.1" .fail
    let b := oneCase "15.2" .pass
    between b a = (between a b).reversed ∧
      (between a a).changeOf "15.1"
        = (between a b).changeOf "15.1" + (between b a).changeOf "15.1" ∧
      (between a a).sectionChanges.keys = [] ∧
      (between a b).sectionChanges.keys = ["15.1", "15.2"] := by
  have ha : (oneCase "15.1" .fail).Small := by decide
  have hb : (oneCase "15.2" .pass).Small := by decide
  obtain ⟨hswap, hsum, -, -⟩ := swaps_and_composes ha hb ha
  exact ⟨hswap, hsum "15.1", by decide, by decide⟩

end Comparison

end Conformance
