import Conformance.Proofs.Text.Blank

/-!
# Texts put together

Dropping from the start of two texts stops in the first, or goes on to the second if nothing of the
first is left. A text that does not end with a blank is trimmed at its start only, and what comes
after it stays as it is.
-/

namespace Conformance.Text

/-! ### Where dropping stops -/

theorem dropWhile_append_of_stop {p : Char → Bool} {u v : List Char}
    (h : u.dropWhile p ≠ [] ∨ ∀ c ∈ v.head?, p c = false) :
    (u ++ v).dropWhile p = u.dropWhile p ++ v := by
  by_cases hnil : u.dropWhile p = []
  · rw [List.dropWhile_append, hnil, dropWhile_eq_self (h.resolve_left (not_not_intro hnil))]
    rfl
  · rw [List.dropWhile_append, if_neg (by simpa using hnil)]

theorem takeWhile_append_of_stop {p : Char → Bool} {u v : List Char}
    (h : u.dropWhile p ≠ [] ∨ ∀ c ∈ v.head?, p c = false) :
    (u ++ v).takeWhile p = u.takeWhile p := by
  have hparts : (u ++ v).takeWhile p ++ (u ++ v).dropWhile p = u ++ v :=
    List.takeWhile_append_dropWhile
  have hparts' : u.takeWhile p ++ u.dropWhile p = u := List.takeWhile_append_dropWhile
  rw [dropWhile_append_of_stop h, ← List.append_assoc] at hparts
  exact List.append_cancel_right ((List.append_cancel_right hparts).trans hparts'.symm)

/-- A mark that lacks a character does not reach over it. -/
theorem prefix_of_not_mem {mark u v : List Char} {c : Char} (hc : c ∉ mark)
    (h : mark <+: u ++ c :: v) : mark <+: u := by
  rcases List.prefix_or_prefix_of_prefix h (List.prefix_append u (c :: v)) with hprefix | hprefix
  · exact hprefix
  · obtain ⟨rest, rfl⟩ := hprefix
    cases rest with
    | nil => simp
    | cons d rest =>
      obtain ⟨rfl, -⟩ := List.cons_prefix_cons.1 ((List.prefix_append_right_inj u).1 h)
      simp at hc

theorem getLast?_of_suffix {u v : List Char} (hsuffix : u <:+ v) {c : Char}
    (h : u.getLast? = some c) : v.getLast? = some c := by
  obtain ⟨front, rfl⟩ := hsuffix
  rw [List.getLast?_append, h]
  rfl

/-! ### Blanks at the end -/

/-- The text ends with a blank. -/
def endsBlank (text : List Char) : Bool := text.getLast?.any isBlank

theorem endsBlank_eq_false_iff {text : List Char} :
    endsBlank text = false ↔ ∀ c ∈ text.getLast?, isBlank c = false := by
  rw [endsBlank]
  cases text.getLast? <;> simp

theorem endsBlank_append {v : List Char} (h : v ≠ []) (u : List Char) :
    endsBlank (u ++ v) = endsBlank v := by
  rw [endsBlank, List.getLast?_append_of_ne_nil u h, endsBlank]

theorem endsBlank_of_suffix {u v : List Char} (hsuffix : u <:+ v) (h : endsBlank v = false) :
    endsBlank u = false := by
  obtain ⟨front, rfl⟩ := hsuffix
  by_cases hne : u = []
  · rw [hne]
    rfl
  · rwa [endsBlank_append hne] at h

theorem endsBlank_of_blank {blanks : List Char} (hne : blanks ≠ [])
    (hblanks : ∀ c ∈ blanks, isBlank c = true) : endsBlank blanks = true := by
  rw [endsBlank, List.getLast?_eq_some_getLast hne]
  exact hblanks _ (List.getLast_mem hne)

theorem endsBlank_trimEnd (text : List Char) : endsBlank (trimEnd text) = false := by
  by_cases hne : trimEnd text = []
  · rw [hne]
    rfl
  · have hlast := List.rdropWhile_last_not isBlank text hne
    rw [endsBlank, List.getLast?_eq_some_getLast hne]
    exact Bool.eq_false_iff.2 hlast

/-! ### Trimming -/

section

variable {text : List Char}

theorem isBlank_head_trimStart (text : List Char) :
    ∀ c ∈ (trimStart text).head?, isBlank c = false := by
  intro c hc
  obtain ⟨rest, hrest⟩ := List.head?_eq_some_iff.1 hc
  have hdrop : (trimStart text).dropWhile isBlank = trimStart text :=
    List.dropWhile_idempotent isBlank text
  rw [hrest] at hdrop
  exact Bool.eq_false_iff.2 (List.dropWhile_eq_self_iff.1 hdrop (Nat.succ_pos _))

theorem mem_of_mem_trim {c : Char} (h : c ∈ trim text) : c ∈ text :=
  (List.dropWhile_suffix isBlank).subset
    ((List.rdropWhile_prefix isBlank (trimStart text)).subset h)

theorem trimmed_trim (text : List Char) : Trimmed (trim text) := by
  refine ⟨fun c hc => ?_, endsBlank_eq_false_iff.1 (endsBlank_trimEnd _)⟩
  obtain ⟨rest, hrest⟩ := List.head?_eq_some_iff.1 hc
  have hprefix : trim text <+: trimStart text := List.rdropWhile_prefix isBlank _
  rw [hrest] at hprefix
  obtain ⟨rest', hrest'⟩ := hprefix
  exact isBlank_head_trimStart text c (by rw [← hrest']; rfl)

/-- Trimming takes off blanks alone. -/
theorem exists_blanks_trim (text : List Char) : ∃ front back, text = front ++ trim text ++ back ∧
    (∀ c ∈ front, isBlank c = true) ∧ ∀ c ∈ back, isBlank c = true := by
  have hend : trim text ++ (trimStart text).rtakeWhile isBlank = trimStart text :=
    List.rdropWhile_append_rtakeWhile
  refine ⟨text.takeWhile isBlank, (trimStart text).rtakeWhile isBlank, ?_, fun c hc =>
    List.mem_takeWhile_imp hc, fun c hc => List.mem_rtakeWhile_imp hc⟩
  rw [List.append_assoc, hend]
  exact List.takeWhile_append_dropWhile.symm

/-- Nothing is left of a text that is blank, and of no other. -/
theorem trim_eq_nil_iff : trim text = [] ↔ ∀ c ∈ text, isBlank c = true := by
  constructor
  · intro hnil
    obtain ⟨front, back, htext, hfront, hback⟩ := exists_blanks_trim text
    rw [hnil, List.append_nil] at htext
    rw [htext]
    exact List.forall_mem_append.2 ⟨hfront, hback⟩
  · intro hblanks
    rw [trim, trimStart, List.dropWhile_eq_nil_iff.2 hblanks]
    rfl

theorem trimmed_ofList_trim (text : List Char) :
    trimmed (String.ofList (trim text)) = String.ofList (trim text) := by
  rw [trimmed, String.toList_ofList, (trimmed_trim text).trim_eq]

theorem trimEnd_eq_self (h : endsBlank text = false) : trimEnd text = text :=
  dropEndWhile_eq_self (endsBlank_eq_false_iff.1 h)

theorem trim_eq_trimStart (h : endsBlank text = false) : trim text = trimStart text :=
  trimEnd_eq_self (endsBlank_of_suffix (List.dropWhile_suffix _) h)

theorem trimStart_ne_nil (hne : text ≠ []) (h : endsBlank text = false) : trimStart text ≠ [] := by
  intro hnil
  rw [endsBlank_of_blank hne (List.dropWhile_eq_nil_iff.1 hnil)] at h
  cases h

theorem trim_append (hstart : trimStart text ≠ []) {rest : List Char} (hrest : rest ≠ [])
    (h : endsBlank rest = false) : trim (text ++ rest) = trimStart text ++ rest := by
  rw [trim_eq_trimStart (by rwa [endsBlank_append hrest]), trimStart,
    dropWhile_append_of_stop (.inl hstart), trimStart]

theorem trim_append_blanks (h : endsBlank text = false) {blanks : List Char}
    (hblanks : ∀ c ∈ blanks, isBlank c = true) : trim (text ++ blanks) = trim text := by
  have hend : trimEnd blanks = [] := List.rdropWhile_eq_nil_iff.2 hblanks
  by_cases hne : text = []
  · rw [hne, List.nil_append, trim, trimStart, List.dropWhile_eq_nil_iff.2 hblanks]
    rfl
  · have hends : endsBlank (trimStart text) = false :=
      endsBlank_of_suffix (List.dropWhile_suffix _) h
    have hend' : trimEnd (trimStart text ++ blanks) = trimStart text ++ trimEnd blanks :=
      dropEndWhile_append (endsBlank_eq_false_iff.1 hends) blanks
    rw [trim_eq_trimStart h, trim, trimStart,
      dropWhile_append_of_stop (.inl (trimStart_ne_nil hne h))]
    exact hend'.trans (by rw [hend, List.append_nil])

end

end Conformance.Text
