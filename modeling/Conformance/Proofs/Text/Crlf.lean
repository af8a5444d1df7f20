import Conformance.Proofs.Text.Mark

/-!
# Texts with other line ends

A text keeps its lines when a carriage return is put before each of its line feeds, if it had none
before. Marks without either character stand where they stood, and dropping from the start goes as
far as before unless it tells the two characters apart.
-/

namespace Conformance.Text

/-- The text with a carriage return before each line feed. -/
def crlf (text : List Char) : List Char :=
  text.flatMap fun c => if c = '\n' then ['\r', '\n'] else [c]

/-- The mark has no part of a line end in it. -/
def Unbroken (mark : List Char) : Prop := '\n' ∉ mark ∧ '\r' ∉ mark

instance (mark : List Char) : Decidable (Unbroken mark) := inferInstanceAs (Decidable (_ ∧ _))

theorem crlf_lf (text : List Char) : crlf ('\n' :: text) = '\r' :: '\n' :: crlf text := rfl

theorem crlf_cons {c : Char} (hc : c ≠ '\n') (text : List Char) :
    crlf (c :: text) = c :: crlf text := by
  rw [crlf, List.flatMap_cons, if_neg hc]
  rfl

theorem crlf_append (u v : List Char) : crlf (u ++ v) = crlf u ++ crlf v := List.flatMap_append

theorem crlf_eq_self {text : List Char} (h : '\n' ∉ text) : crlf text = text := by
  induction text with
  | nil => rfl
  | cons c text ih =>
    obtain ⟨hc, htext⟩ := not_or.1 (mt List.mem_cons.2 h)
    rw [crlf_cons (Ne.symm hc), ih htext]

theorem crlf_eq_append_iff {mark : List Char} (hmark : Unbroken mark) {text rest : List Char} :
    crlf text = mark ++ rest ↔ ∃ rest', text = mark ++ rest' ∧ crlf rest' = rest := by
  constructor
  · intro h
    induction mark generalizing text with
    | nil => exact ⟨text, rfl, h⟩
    | cons c mark ih =>
      obtain ⟨-, hlfs⟩ := not_or.1 (mt List.mem_cons.2 hmark.1)
      obtain ⟨hcr, hcrs⟩ := not_or.1 (mt List.mem_cons.2 hmark.2)
      cases text with
      | nil => cases h
      | cons d text =>
        by_cases hd : d = '\n'
        · subst hd
          exact absurd (List.cons.inj h).1 hcr
        · rw [crlf_cons hd] at h
          obtain ⟨rfl, htext⟩ := List.cons.inj h
          obtain ⟨rest', rfl, hrest⟩ := ih ⟨hlfs, hcrs⟩ htext
          exact ⟨rest', rfl, hrest⟩
  · rintro ⟨rest', rfl, rfl⟩
    rw [crlf_append, crlf_eq_self hmark.1]

theorem prefix_crlf_iff {mark : List Char} (hmark : Unbroken mark) {text : List Char} :
    mark <+: crlf text ↔ mark <+: text := by
  constructor
  · rintro ⟨rest, hrest⟩
    obtain ⟨rest', htext, -⟩ := (crlf_eq_append_iff hmark).1 hrest.symm
    exact ⟨rest', htext.symm⟩
  · rintro ⟨rest, rfl⟩
    exact ⟨crlf rest, by rw [crlf_append, crlf_eq_self hmark.1]⟩

theorem dropWhile_crlf {p : Char → Bool} (h : p '\r' = p '\n') (text : List Char) :
    (crlf text).dropWhile p = crlf (text.dropWhile p) := by
  induction text with
  | nil => rfl
  | cons c text ih =>
    by_cases hc : c = '\n'
    · subst hc
      cases hp : p '\n' with
      | true =>
        rw [crlf_lf, List.dropWhile_cons_of_pos (h.trans hp), List.dropWhile_cons_of_pos hp, ih,
          List.dropWhile_cons_of_pos hp]
      | false =>
        rw [List.dropWhile_cons_of_neg (by simp [hp]), crlf_lf,
          List.dropWhile_cons_of_neg (by simp [h, hp])]
    · rw [crlf_cons hc, List.dropWhile_cons, List.dropWhile_cons]
      split
      · exact ih
      · exact (crlf_cons hc text).symm

theorem breakOn_crlf {mark : List Char} (hmark : Unbroken mark) (hne : mark ≠ [])
    (text : List Char) :
    breakOn mark (crlf text)
      = (breakOn mark text).map fun (front, rest) => (crlf front, crlf rest) := by
  have hnot {c : Char} (hc : c ∉ mark) (text : List Char) : ¬ mark <+: c :: text := by
    intro hprefix
    obtain ⟨d, mark, rfl⟩ := List.exists_cons_of_ne_nil hne
    exact hc (List.mem_cons.2 (.inl (List.cons_prefix_cons.1 hprefix).1.symm))
  induction text with
  | nil =>
    obtain ⟨d, mark, rfl⟩ := List.exists_cons_of_ne_nil hne
    rfl
  | cons c text ih =>
    by_cases hc : c = '\n'
    -- no mark starts with either of the two characters, so both are passed
    · subst hc
      rw [crlf_lf, breakOn_cons, if_neg (hnot hmark.2 _), breakOn_cons, if_neg (hnot hmark.1 _), ih,
        breakOn_cons, if_neg (hnot hmark.1 _)]
      cases breakOn mark text <;> rfl
    · by_cases hprefix : mark <+: c :: text
      · obtain ⟨rest, hrest⟩ := hprefix
        rw [← hrest, crlf_append, crlf_eq_self hmark.1, breakOn_mark, breakOn_mark]
        rfl
      · have hprefix' : ¬ mark <+: c :: crlf text := by
          rwa [← crlf_cons hc, prefix_crlf_iff hmark]
        rw [crlf_cons hc, breakOn_cons, if_neg hprefix', ih, breakOn_cons, if_neg hprefix]
        cases breakOn mark text with
        | none => rfl
        | some parts =>
          exact congrArg (fun front => some (front, crlf parts.2)) (crlf_cons hc _).symm

theorem lines_crlf {text : List Char} (h : '\r' ∉ text) : lines (crlf text) = lines text := by
  have hfrom (held : List Char) : linesFrom held (crlf text) = linesFrom held text := by
    induction text generalizing held with
    | nil => rfl
    | cons c text ih =>
      obtain ⟨hcr, htext⟩ := not_or.1 (mt List.mem_cons.2 h)
      by_cases hc : c = '\n'
      · subst hc
        exact congrArg (held.reverse :: ·) (ih htext [])
      · rw [crlf_cons hc, linesFrom_cons held hc (fun heq => absurd heq.symm hcr), ih htext,
          linesFrom_cons held hc (fun heq => absurd heq.symm hcr)]
  exact hfrom []

end Conformance.Text
