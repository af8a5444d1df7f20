import Conformance.Case.Frontmatter
import Conformance.Proofs.Text.Mark

/-!
# The text in a frontmatter header

The YAML text of a header is what a backtracking matcher captures for the pattern `/*---`, a line
end, any text as short as can be, a carriage return and a line feed that may each be missing, and
`---*/`. The matcher has a choice at the two characters that may be missing and at each length of
the text, so what it captures has to be compared with the direct description: the text up to the
first `---*/`, less one line end.
-/

namespace Conformance.Frontmatter

/-! ### One line end less -/

/-- `ending` is the line end after `text`, or empty if there is none. -/
inductive LineEnd : List Char → List Char → Prop
  | crlf (text : List Char) : LineEnd text ['\r', '\n']
  | lf {text : List Char} (h : text.getLast? ≠ some '\r') : LineEnd text ['\n']
  | cr (text : List Char) : LineEnd text ['\r']
  | none {text : List Char} (hlf : text.getLast? ≠ some '\n') (hcr : text.getLast? ≠ some '\r') :
    LineEnd text []

theorem exists_lineEnd (block : List Char) :
    ∃ text ending, block = text ++ ending ∧ LineEnd text ending := by
  rcases block.eq_nil_or_concat' with rfl | ⟨front, c, rfl⟩
  · exact ⟨[], [], rfl, .none (by simp) (by simp)⟩
  · by_cases hlf : c = '\n'
    · subst hlf
      by_cases hcr : front.getLast? = some '\r'
      · obtain ⟨text, rfl⟩ := List.getLast?_eq_some_iff.1 hcr
        exact ⟨text, _, by simp, .crlf text⟩
      · exact ⟨front, _, rfl, .lf hcr⟩
    · by_cases hcr : c = '\r'
      · subst hcr
        exact ⟨front, _, rfl, .cr front⟩
      · exact ⟨front ++ [c], [], by simp, .none (by simpa using hlf) (by simpa using hcr)⟩

theorem dropLineEnd_append {text ending : List Char} (h : LineEnd text ending) :
    dropLineEnd (text ++ ending) = text := by
  cases h with
  | crlf => simp [dropLineEnd]
  | lf h =>
    rw [dropLineEnd, List.reverse_append]
    rcases text.eq_nil_or_concat' with rfl | ⟨front, c, rfl⟩
    · rfl
    · have hc : c ≠ '\r' := by simpa using h
      simp [hc]
  | cr => simp [dropLineEnd]
  | none hlf hcr =>
    rw [List.append_nil, dropLineEnd]
    rcases text.eq_nil_or_concat' with rfl | ⟨front, c, rfl⟩
    · rfl
    · have hc : c ≠ '\n' ∧ c ≠ '\r' := ⟨by simpa using hlf, by simpa using hcr⟩
      simp [hc]

/-- A character more at the start stays, unless it belongs to the line end. -/
theorem dropLineEnd_cons {c : Char} {block : List Char} (hblock : c = '\r' ∨ c = '\n' → block ≠ [])
    (hcrlf : c = '\r' → block ≠ ['\n']) : dropLineEnd (c :: block) = c :: dropLineEnd block := by
  obtain ⟨text, ending, rfl, h⟩ := exists_lineEnd block
  have hlast (d : Char) (hd : c = d → text ≠ []) (h : text.getLast? ≠ some d) :
      (c :: text).getLast? ≠ some d := by
    cases text with
    | nil => simpa using hd
    | cons e text => rwa [List.getLast?_cons_cons]
  have hcons : LineEnd (c :: text) ending := by
    cases h with
    | crlf => exact .crlf _
    | lf h => exact .lf (hlast _ (fun hc hnil => hcrlf hc (by rw [hnil]; rfl)) h)
    | cr => exact .cr _
    | none hlf hcr =>
      rw [List.append_nil] at hblock
      exact .none (hlast _ (fun hc => hblock (.inr hc)) hlf)
        (hlast _ (fun hc => hblock (.inl hc)) hcr)
  rw [dropLineEnd_append h]
  exact dropLineEnd_append hcons

/-! ### The pattern -/

/-- What a header opens with, before the end of its first line. -/
def opening : List Char := ['/', '*', '-', '-', '-']

/-- What a header ends with. -/
def closing : List Char := ['-', '-', '-', '*', '/']

/-- An item of a pattern. -/
inductive Item where
  | char (c : Char)
  /-- The character, or nothing where that fails. -/
  | optional (c : Char)
  /-- Any text, each character only where the rest fails without it. This text is captured. -/
  | captured

section

variable {α : Type}

/-- Goes on with `next` after the character. -/
def afterChar (c : Char) (next : List Char → List α) : List Char → List α
  | [] => []
  | d :: text => if d = c then next text else []

/-- Goes on with `next` after each front of a text, the shortest first. -/
def afterFront (next : List Char → List (List Char)) : List Char → List (List Char)
  | [] => next []
  | c :: text => next (c :: text) ++ (afterFront next text).map (c :: ·)

end

/-- What is captured where the items match the start of a text, in all the ways they do, in the
order in which they are tried. -/
def captures : List Item → List Char → List (List Char)
  | [] => fun _ => [[]]
  | .char c :: items => afterChar c (captures items)
  | .optional c :: items => fun text => afterChar c (captures items) text ++ captures items text
  | .captured :: items => afterFront (captures items)

/-- The end of the pattern: a line end, which may be missing, and the closing mark. -/
def endItems : List Item := .optional '\r' :: .optional '\n' :: closing.map .char

/-- The pattern of a frontmatter header. -/
def pattern : List Item :=
  opening.map .char ++ .optional '\r' :: .char '\n' :: .captured :: endItems

theorem captures_chars (mark : List Char) (items : List Item) (text : List Char) :
    captures (mark.map .char ++ items) text
      = if mark <+: text then captures items (text.drop mark.length) else [] := by
  induction mark generalizing text with
  | nil => simp
  | cons c mark ih =>
    cases text with
    | nil => rfl
    | cons d text =>
      show (if d = c then captures (mark.map .char ++ items) text else []) = _
      rw [ih]
      by_cases hd : d = c
      · simp [hd, List.cons_prefix_cons]
      · simp [hd, List.cons_prefix_cons, Ne.symm hd]

/-- The text without the character, if it starts with it. -/
def dropChar (c : Char) : List Char → List Char
  | [] => []
  | d :: text => if d = c then text else d :: text

theorem eq_dropChar (c : Char) (text : List Char) :
    text = dropChar c text ∨ text = c :: dropChar c text := by
  cases text with
  | nil => exact .inl rfl
  | cons d text =>
    rw [dropChar]
    split
    · next hd => exact .inr (by rw [hd])
    · exact .inl rfl

/-- No choice is left at a character that the rest of the pattern cannot start with. -/
theorem captures_optional {c : Char} {items : List Item}
    (h : ∀ text, captures items (c :: text) = []) (text : List Char) :
    captures (.optional c :: items) text = captures items (dropChar c text) := by
  cases text with
  | nil => rfl
  | cons d text =>
    show (if d = c then captures items text else []) ++ captures items (d :: text) = _
    rw [dropChar]
    split
    · next hd => rw [hd, h, List.append_nil]
    · rfl

/-- The end of the pattern matches at the start of the text. -/
def Ends (text : List Char) : Prop := closing <+: dropChar '\n' (dropChar '\r' text)

instance (text : List Char) : Decidable (Ends text) := inferInstanceAs (Decidable (_ <+: _))

theorem captures_endItems (text : List Char) :
    captures endItems text = if Ends text then [[]] else [] := by
  have hclosing (text : List Char) :
      captures (closing.map .char) text = if closing <+: text then [[]] else [] := by
    have hchars := captures_chars closing [] text
    rwa [List.append_nil] at hchars
  have hlf (text : List Char) : captures (.optional '\n' :: closing.map .char) text
      = if closing <+: dropChar '\n' text then [[]] else [] := by
    rw [captures_optional (fun _ => rfl), hclosing]
  rw [endItems, captures_optional (fun _ => rfl), hlf]
  rfl

theorem ends_iff {text : List Char} :
    Ends text ↔ ∃ ending rest, text = ending ++ (closing ++ rest) ∧
      (ending = [] ∨ ending = ['\n'] ∨ ending = ['\r'] ∨ ending = ['\r', '\n']) := by
  constructor
  · rintro ⟨rest, hrest⟩
    rcases eq_dropChar '\r' text with hcr | hcr
    · rcases eq_dropChar '\n' (dropChar '\r' text) with hlf | hlf
      · exact ⟨[], rest, by rw [hrest, ← hlf]; exact hcr, .inl rfl⟩
      · exact ⟨['\n'], rest, by rw [hrest, List.singleton_append, ← hlf]; exact hcr,
          .inr (.inl rfl)⟩
    · rcases eq_dropChar '\n' (dropChar '\r' text) with hlf | hlf
      · exact ⟨['\r'], rest, by rw [hrest, ← hlf]; exact hcr, .inr (.inr (.inl rfl))⟩
      · refine ⟨['\r', '\n'], rest, ?_, .inr (.inr (.inr rfl))⟩
        rw [hrest, List.cons_append, List.singleton_append, ← hlf]
        exact hcr
  · rintro ⟨ending, rest, rfl, rfl | rfl | rfl | rfl⟩ <;> exact ⟨rest, rfl⟩

/-- Of all fronts after which the end of the pattern matches, the first is the text up to the
closing mark, less one line end. -/
theorem head?_afterFront (text : List Char) :
    (afterFront (captures endItems) text).head?
      = (Text.breakOn closing text).map fun (block, _) => dropLineEnd block := by
  induction text with
  | nil => rfl
  | cons c text ih =>
    rw [afterFront, captures_endItems, List.head?_append, List.head?_map, ih]
    by_cases hends : Ends (c :: text)
    -- nothing is captured here, and what stands before the mark is one line end or less
    · obtain ⟨ending, rest, htext, hending⟩ := ends_iff.1 hends
      have hfirst : Text.FirstAfter closing ending := by
        rcases hending with rfl | rfl | rfl | rfl <;>
          simp [Text.firstAfter_cons, Text.firstAfter_nil, closing]
      rw [if_pos hends, htext, Text.breakOn_append hfirst]
      rcases hending with rfl | rfl | rfl | rfl <;> rfl
    · have hmark : ¬ closing <+: c :: text := by
        rintro ⟨rest, hrest⟩
        exact hends (ends_iff.2 ⟨[], rest, hrest.symm, .inl rfl⟩)
      rw [if_neg hends, Text.breakOn_cons, if_neg hmark]
      cases hbreak : Text.breakOn closing text with
      | none => rfl
      | some parts =>
        obtain ⟨block, rest⟩ := parts
        obtain ⟨rfl, -⟩ := Text.breakOn_eq_some_iff.1 hbreak
        -- the end would have matched here if `c` were a part of the line end that is dropped
        have hdrop : dropLineEnd (c :: block) = c :: dropLineEnd block := by
          refine dropLineEnd_cons ?_ ?_
          · rintro (rfl | rfl) rfl
            · exact hends (ends_iff.2 ⟨['\r'], rest, rfl, .inr (.inr (.inl rfl))⟩)
            · exact hends (ends_iff.2 ⟨['\n'], rest, rfl, .inr (.inl rfl)⟩)
          · rintro rfl rfl
            exact hends (ends_iff.2 ⟨['\r', '\n'], rest, rfl, .inr (.inr (.inr rfl))⟩)
        exact congrArg some hdrop.symm

/-! ### The opening line -/

/-- The text after the mark and the line end that a header opens with. -/
theorem opened?_eq_some_iff {header text : List Char} :
    opened? header = some text
      ↔ header = opening ++ '\n' :: text ∨ header = opening ++ '\r' :: '\n' :: text := by
  constructor
  · intro h
    rw [opened?.eq_def] at h
    split at h
    · cases h
      exact .inl rfl
    · cases h
      exact .inr rfl
    · cases h
  · rintro (rfl | rfl) <;> rfl

theorem captures_pattern (header : List Char) :
    captures pattern header = ((opened? header).map (afterFront (captures endItems))).getD [] := by
  have hopening (text : List Char) : captures pattern (opening ++ text)
      = afterChar '\n' (afterFront (captures endItems)) (dropChar '\r' text) := by
    rw [pattern, captures_chars, if_pos (List.prefix_append opening text), List.drop_left,
      captures_optional fun _ => rfl, captures, captures]
  cases hopened : opened? header with
  | some text =>
    rcases opened?_eq_some_iff.1 hopened with rfl | rfl
    · exact hopening ('\n' :: text)
    · exact hopening ('\r' :: '\n' :: text)
  | none =>
    by_cases hprefix : opening <+: header
    · obtain ⟨text, rfl⟩ := hprefix
      rw [hopening]
      cases htext : dropChar '\r' text with
      | nil => rfl
      | cons c rest =>
        rw [afterChar, if_neg]
        · rfl
        -- a line feed here would end the opening line, with or without a carriage return before it
        rintro rfl
        have hline : opening ++ text = opening ++ '\n' :: rest ∨
            opening ++ text = opening ++ '\r' :: '\n' :: rest := by
          rw [← htext]
          exact (eq_dropChar '\r' text).imp (congrArg _) (congrArg _)
        rw [opened?_eq_some_iff.2 hline] at hopened
        cases hopened
    · rw [pattern, captures_chars, if_neg hprefix]
      rfl

/-! ### The YAML text -/

theorem yaml?_eq_bind (header : List Char) :
    yaml? header = (opened? header).bind fun text =>
      (Text.breakOn closing text).map fun (block, _) => dropLineEnd block := by
  rw [yaml?]
  cases opened? header with
  | none => rfl
  | some text =>
    show (Text.breakOn closing text >>= _) = _
    cases hbreak : Text.breakOn closing text <;> simp [hbreak]

theorem parse_of_yaml? {header text : List Char} (h : yaml? header = some text) (path : Path) :
    parse header path
      = (Record.ofYaml? text).elim (.error .badFrontmatter) (·.metadata path) := by
  rw [parse, h]
  cases hrecord : Record.ofYaml? text <;> simp only [hrecord, Option.elim]

/-- The YAML text of a header is what the pattern captures when it is matched by backtracking. -/
theorem yaml?_eq_head?_captures (header : List Char) :
    yaml? header = (captures pattern header).head? := by
  rw [captures_pattern, yaml?_eq_bind]
  cases opened? header with
  | none => rfl
  | some text => exact (head?_afterFront text).symm

end Conformance.Frontmatter
