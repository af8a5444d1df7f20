import Conformance.Proofs.Text.Blank

/-!
# Where a mark stands first

A text is broken where a mark stands in it first, and it cannot be broken if the mark stands
nowhere. Whether a mark is the first one depends on what is before it alone, so the text is broken
there whatever comes after.
-/

namespace Conformance.Text

variable {mark front rest text : List Char}

/-- A mark put after `front` is the first one there. -/
def FirstAfter (mark front : List Char) : Prop :=
  ∀ front', front' ++ mark <+: front ++ mark → front' = front

theorem firstAfter_nil (mark : List Char) : FirstAfter mark [] := by
  intro front' h
  have hle := h.length_le
  rw [List.length_append, List.nil_append] at hle
  exact List.eq_nil_of_length_eq_zero (by omega)

theorem firstAfter_cons {c : Char} :
    FirstAfter mark (c :: front) ↔ ¬ mark <+: c :: (front ++ mark) ∧ FirstAfter mark front := by
  constructor
  · intro h
    refine ⟨fun hmark => List.cons_ne_nil c front (h [] hmark).symm, fun front' hfront => ?_⟩
    exact (List.cons.inj (h (c :: front') (List.cons_prefix_cons.2 ⟨rfl, hfront⟩))).2
  · rintro ⟨hmark, h⟩ front' hfront
    cases front' with
    | nil => exact absurd hfront hmark
    | cons d front' =>
      obtain ⟨rfl, hrest⟩ := List.cons_prefix_cons.1 hfront
      rw [h front' hrest]

theorem FirstAfter.not_part (h : FirstAfter mark front) (hne : mark ≠ []) : ¬ mark <:+: front := by
  rintro ⟨front', rest, rfl⟩
  have heq := congrArg List.length (h front' ⟨rest ++ mark, by simp⟩)
  have hlength := List.length_pos_iff.2 hne
  simp only [List.length_append] at heq
  omega

theorem breakFrom_eq (mark held text : List Char) :
    breakFrom mark held text
      = (breakOn mark text).map fun (front, rest) => (held.reverse ++ front, rest) := by
  rw [breakOn]
  have hfrom (passed : List Char) : breakFrom mark (passed ++ held) text
      = (breakFrom mark passed text).map fun (front, rest) => (held.reverse ++ front, rest) := by
    induction text generalizing passed with
    | nil =>
      rw [breakFrom, breakFrom]
      split
      · rw [List.reverse_append]
        rfl
      · rfl
    | cons c text ih =>
      rw [breakFrom, breakFrom]
      split
      · rw [List.reverse_append]
        rfl
      · exact ih (c :: passed)
  exact hfrom []

theorem breakOn_cons (mark : List Char) (c : Char) (text : List Char) :
    breakOn mark (c :: text)
      = if mark <+: c :: text then some ([], (c :: text).drop mark.length)
        else (breakOn mark text).map fun (front, rest) => (c :: front, rest) := by
  rw [breakOn, breakFrom, breakFrom_eq]
  simp only [List.isPrefixOf_iff_prefix]
  rfl

theorem breakOn_append (h : FirstAfter mark front) (rest : List Char) :
    breakOn mark (front ++ (mark ++ rest)) = some (front, rest) := by
  induction front with
  | nil =>
    cases htext : mark ++ rest with
    | nil =>
      obtain ⟨rfl, rfl⟩ := List.append_eq_nil_iff.1 htext
      rfl
    | cons c text =>
      have hdrop : (c :: text).drop mark.length = rest := by rw [← htext, List.drop_left]
      rw [List.nil_append, breakOn_cons, if_pos (htext ▸ List.prefix_append mark rest), hdrop]
  | cons c front ih =>
    obtain ⟨hmark, hfront⟩ := firstAfter_cons.1 h
    have hnot : ¬ mark <+: c :: (front ++ (mark ++ rest)) := by
      intro hprefix
      refine hmark (List.prefix_of_prefix_length_le hprefix ⟨rest, by simp⟩ ?_)
      simp only [List.length_cons, List.length_append]
      omega
    rw [List.cons_append, breakOn_cons, if_neg hnot, ih hfront]
    rfl

theorem breakOn_mark (mark rest : List Char) : breakOn mark (mark ++ rest) = some ([], rest) :=
  breakOn_append (firstAfter_nil mark) rest

theorem breakOn_eq_some_iff :
    breakOn mark text = some (front, rest) ↔
      text = front ++ (mark ++ rest) ∧ FirstAfter mark front := by
  constructor
  · intro h
    induction text generalizing front with
    | nil =>
      rw [breakOn, breakFrom] at h
      split at h
      · next hempty =>
        cases h
        exact ⟨(List.isEmpty_iff.1 hempty).symm ▸ rfl, firstAfter_nil mark⟩
      · cases h
    | cons c text ih =>
      rw [breakOn_cons] at h
      split at h
      · next hmark =>
        cases h
        exact ⟨List.prefix_append_drop hmark, firstAfter_nil mark⟩
      · next hmark =>
        obtain ⟨⟨front', rest'⟩, hbreak, heq⟩ := Option.map_eq_some_iff.1 h
        cases heq
        obtain ⟨rfl, hfront⟩ := ih hbreak
        refine ⟨rfl, firstAfter_cons.2 ⟨fun hstart => hmark (hstart.trans ?_), hfront⟩⟩
        exact ⟨rest, by simp⟩
  · rintro ⟨rfl, h⟩
    exact breakOn_append h rest

theorem breakOn_eq_none_iff : breakOn mark text = none ↔ ¬ mark <:+: text := by
  induction text with
  | nil => cases mark <;> simp [breakOn, breakFrom]
  | cons c text ih =>
    rw [breakOn_cons, List.infix_cons_iff, not_or, ← ih]
    split
    · next hmark => simp [hmark]
    · next hmark => simp [hmark]

end Conformance.Text
