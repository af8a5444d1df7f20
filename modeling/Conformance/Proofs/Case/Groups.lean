import Conformance.Proofs.Case.Effects

/-!
# Groups of lines in a printed header

Each thing that a header says is printed as one group of lines. A value may be broken at its single
spaces, where a space is single if it stands between two characters that are no blanks, and each
piece after the first is set in on a line of its own. A group is read as one tag, whatever stands
before it, with the value in one piece again. None of its lines ends the comment.
-/

namespace Conformance.TagHeader

open Text (Trimmed isBlank trim Without)

/-! ### What can be printed -/

/-- A text that a tag can carry: on one line, without the end of a comment, with nothing at its ends
that reading takes off. -/
structure IsValue (text : List Char) : Prop where
  ne_nil : text ≠ []
  oneLine : '\n' ∉ text
  inComment : ¬ ['*', '/'] <:+: text
  trimmed : trim text = text
  last : text.getLast? ≠ some ';'

/-- The pieces of a value that is broken at some of its single spaces. No piece after the first
looks like a tag. -/
structure Breaks (value : List Char) (pieces : List (List Char)) : Prop where
  joined : [' '].intercalate pieces = value
  ne_nil : ∀ piece ∈ pieces, piece ≠ []
  trimmed : ∀ piece ∈ pieces, trim piece = piece
  noTag : ∀ piece ∈ pieces.tail, piece.head? ≠ some '@'

/-- An ASCII identifier: letters, digits, `_` and `$`, and no digit at its start. -/
structure IsWord (text : List Char) : Prop where
  ne_nil : text ≠ []
  chars : ∀ c ∈ text, c.isAlpha ∨ c.isDigit ∨ c = '_' ∨ c = '$'
  head : ∀ c ∈ text.head?, ¬ c.isDigit

/-! ### Printing -/

/-- One thing that a header says. -/
inductive Group where
  /-- The text of a field, in pieces. -/
  | text (field : TextField) (pieces : List (List Char))
  | negative (expectation : Expectation)
  | flag (name : String)

/-- The pieces with a semicolon after the last. -/
def closed : List (List Char) → List (List Char)
  | [] => []
  | [piece] => [piece ++ [';']]
  | piece :: rest => piece :: closed rest

/-- The lines of pieces, the first of which stands after `opening`. -/
def pieceLines (opening : List Char) : List (List Char) → List (List Char)
  | [] => []
  | piece :: rest =>
    decorated (opening ++ piece) :: rest.map fun piece => decorated (' ' :: ' ' :: piece)

/-- The lines of a group. -/
def Group.lines : Group → List (List Char)
  | .text field pieces => pieceLines ('@' :: (field.tag.toList ++ [':', ' '])) (closed pieces)
  | .negative .anyError => [decorated ('@' :: "negative".toList)]
  | .negative (.kind kind) => [decorated ('@' :: ("negative".toList ++ ' ' :: kind.toList))]
  | .flag name => [decorated ('@' :: name.toList)]

/-! ### Groups are read as tags -/

/-- What a group is read as. -/
def Group.tag : Group → Tag
  | .text field pieces => ⟨field.tag, [' '].intercalate pieces ++ [';']⟩
  | .negative .anyError => ⟨"negative", []⟩
  | .negative (.kind kind) => ⟨"negative", kind.toList⟩
  | .flag name => ⟨name, []⟩

/-- The group can be printed. -/
def Group.Sound : Group → Prop
  | .text _ pieces => ∃ value, IsValue value ∧ Breaks value pieces
  | .negative .anyError => True
  | .negative (.kind kind) => IsWord kind.toList
  | .flag name => name = strictFlag ∨ name = sloppyFlag

/-! #### Pieces -/

theorem intercalate_cons (piece : List Char) (rest : List (List Char)) :
    [' '].intercalate (piece :: rest) = piece ++ rest.flatMap (' ' :: ·) := by
  induction rest generalizing piece with
  | nil => rw [List.intercalate_singleton, List.flatMap_nil, List.append_nil]
  | cons next rest ih =>
    rw [List.intercalate_cons_cons, ih, List.flatMap_cons, List.append_assoc]
    rfl

theorem infix_intercalate {piece : List Char} {pieces : List (List Char)} (h : piece ∈ pieces) :
    piece <:+: [' '].intercalate pieces := by
  cases pieces with
  | nil => cases h
  | cons first rest =>
    rw [intercalate_cons]
    rcases List.mem_cons.1 h with rfl | h
    · exact (List.prefix_append _ _).isInfix
    · have hpiece : piece <:+: ' ' :: piece := (List.suffix_cons ' ' piece).isInfix
      have hrest : ' ' :: piece <:+: rest.flatMap (' ' :: ·) :=
        List.infix_of_mem_flatten (List.mem_map_of_mem h)
      exact (hpiece.trans hrest).trans (List.suffix_append _ _).isInfix

theorem closed_cons {piece : List Char} {rest : List (List Char)} (h : rest ≠ []) :
    closed (piece :: rest) = piece :: closed rest := by
  cases rest with
  | nil => exact absurd rfl h
  | cons next rest => rfl

theorem closed_ne_nil {pieces : List (List Char)} (h : pieces ≠ []) : closed pieces ≠ [] := by
  rcases pieces with _ | ⟨piece, _ | ⟨next, rest⟩⟩
  · exact absurd rfl h
  · exact List.cons_ne_nil _ _
  · exact List.cons_ne_nil _ _

theorem tail_closed (pieces : List (List Char)) : (closed pieces).tail = closed pieces.tail := by
  rcases pieces with _ | ⟨piece, _ | ⟨next, rest⟩⟩ <;> rfl

theorem intercalate_closed {pieces : List (List Char)} (h : pieces ≠ []) :
    [' '].intercalate (closed pieces) = [' '].intercalate pieces ++ [';'] := by
  induction pieces with
  | nil => exact absurd rfl h
  | cons piece rest ih =>
    by_cases hrest : rest = []
    · subst hrest
      rw [closed, List.intercalate_singleton, List.intercalate_singleton]
    · rw [closed_cons hrest, List.intercalate_cons_of_ne_nil (closed_ne_nil hrest), ih hrest,
        List.intercalate_cons_of_ne_nil hrest, List.append_assoc, List.append_assoc,
        List.append_assoc]

theorem forall_mem_closed {P : List Char → Prop} {pieces : List (List Char)}
    (h : ∀ piece ∈ pieces, P piece ∧ P (piece ++ [';'])) : ∀ piece ∈ closed pieces, P piece := by
  induction pieces with
  | nil => exact List.forall_mem_nil P
  | cons piece rest ih =>
    obtain ⟨hpiece, hpieces⟩ := List.forall_mem_cons.1 h
    by_cases hrest : rest = []
    · subst hrest
      exact List.forall_mem_singleton.2 hpiece.2
    · rw [closed_cons hrest]
      exact List.forall_mem_cons.2 ⟨hpiece.1, ih hpieces⟩

/-- The pieces with the semicolon are the pieces of the value with the semicolon. -/
theorem Breaks.closed {value : List Char} {pieces : List (List Char)} (h : Breaks value pieces)
    (hvalue : value ≠ []) : Breaks (value ++ [';']) (closed pieces) where
  joined := by
    have hpieces : pieces ≠ [] := fun heq => hvalue (by rw [← h.joined, heq]; rfl)
    rw [intercalate_closed hpieces, h.joined]
  ne_nil := forall_mem_closed fun piece hpiece => ⟨h.ne_nil piece hpiece, by simp⟩
  trimmed := forall_mem_closed fun piece hpiece => by
    have htrimmed := Text.trimmed_of_trim_eq (h.trimmed piece hpiece)
    refine ⟨h.trimmed piece hpiece, Trimmed.trim_eq ⟨?_, by simp [isBlank]⟩⟩
    rw [List.head?_append_of_ne_nil _ (h.ne_nil piece hpiece)]
    exact htrimmed.1
  noTag := by
    rw [tail_closed]
    refine forall_mem_closed fun piece hpiece => ⟨h.noTag piece hpiece, ?_⟩
    rw [List.head?_append_of_ne_nil _ (h.ne_nil piece (List.mem_of_mem_tail hpiece))]
    exact h.noTag piece hpiece

/-! #### Words -/

theorem IsWord.graphic {text : List Char} (h : IsWord text) :
    ∀ c ∈ text, 0x24 ≤ c.val.toNat ∧ c.val.toNat ≤ 0x7a := by
  intro c hc
  have hwithin {low high : UInt32} (hlow : 0x24 ≤ low.toNat) (hhigh : high.toNat ≤ 0x7a)
      (h : low ≤ c.val ∧ c.val ≤ high) : 0x24 ≤ c.val.toNat ∧ c.val.toNat ≤ 0x7a :=
    ⟨hlow.trans (UInt32.le_iff_toNat_le.1 h.1), (UInt32.le_iff_toNat_le.1 h.2).trans hhigh⟩
  have hbetween {low high : UInt32} (h : (decide (c.val ≥ low) && decide (c.val ≤ high)) = true) :
      low ≤ c.val ∧ c.val ≤ high :=
    (Bool.and_eq_true_iff.1 h).imp of_decide_eq_true of_decide_eq_true
  rcases h.chars c hc with halpha | hdigit | rfl | rfl
  · rcases Bool.or_eq_true_iff.1 halpha with hupper | hlower
    · exact hwithin (by decide) (by decide) (of_decide_eq_true hupper)
    · exact hwithin (by decide) (by decide) (hbetween hlower)
  · exact hwithin (by decide) (by decide) (hbetween hdigit)
  · decide
  · decide

theorem IsWord.isBlank_eq_false {text : List Char} (h : IsWord text) :
    ∀ c ∈ text, isBlank c = false := by
  intro c hc
  have hgraphic := h.graphic c hc
  simp only [isBlank, UInt32.le_iff_toNat_le, Bool.or_eq_false_iff, Bool.and_eq_false_iff,
    decide_eq_false_iff_not, beq_eq_false_iff_ne, ne_eq, ← UInt32.toNat_inj, UInt32.reduceToNat]
  omega

theorem IsWord.trimmed {text : List Char} (h : IsWord text) : Trimmed text :=
  ⟨fun c hc => h.isBlank_eq_false c (List.mem_of_mem_head? hc),
    fun c hc => h.isBlank_eq_false c (List.mem_of_getLast? hc)⟩

/-! #### One group -/

theorem TextField.endsName_tag (field : TextField) :
    field.tag.toList.all (!endsName ·) = true := by
  cases field <;> decide

/-- A group is read as one tag, whatever stands before it. -/
theorem Group.foldl_addLine_lines {g : Group} (h : g.Sound) (before : List Tag) :
    g.lines.foldl addLine before = g.tag :: before := by
  match g, h with
  | .text field pieces, ⟨value, hvalue, hbreaks⟩ =>
    have hclosed := hbreaks.closed hvalue.ne_nil
    rw [Group.lines, Group.tag, hbreaks.joined]
    cases hpieces : TagHeader.closed pieces with
    | nil =>
      have hjoined := hclosed.joined
      rw [hpieces] at hjoined
      exact absurd hjoined.symm (by simp [List.intercalate_nil])
    | cons first rest =>
      rw [hpieces] at hclosed
      obtain ⟨hne, hnes⟩ := List.forall_mem_cons.1 hclosed.ne_nil
      obtain ⟨htrim, htrims⟩ := List.forall_mem_cons.1 hclosed.trimmed
      have hfirst : Trimmed first := Text.trimmed_of_trim_eq htrim
      have hlast : (field.tag.toList ++ ':' :: ' ' :: first).getLast? = first.getLast? := by
        rw [List.getLast?_append_of_ne_nil _ (List.cons_ne_nil _ _)]
        exact List.getLast?_append_of_ne_nil [':', ' '] hne
      have hbare := bare_decorated_at (hlast ▸ hfirst.2)
      have hopening : ('@' :: (field.tag.toList ++ [':', ' '])) ++ first
          = '@' :: (field.tag.toList ++ ':' :: ' ' :: first) := by simp
      have hjoined := hclosed.joined
      rw [intercalate_cons] at hjoined
      rw [pieceLines, hopening, List.foldl_cons, addLine_of_at hbare,
        Tag.ofLine_colon field.endsName_tag hfirst, foldl_addLine_indented hnes
          (fun piece hpiece => Text.trimmed_of_trim_eq (htrims piece hpiece)) hclosed.noTag hne,
        hjoined]
  | .negative .anyError, _ => rfl
  | .negative (.kind kind), hword =>
    have hlast : ("negative".toList ++ ' ' :: kind.toList).getLast? = kind.toList.getLast? := by
      rw [List.getLast?_append_of_ne_nil _ (List.cons_ne_nil _ _)]
      exact List.getLast?_append_of_ne_nil [' '] (IsWord.ne_nil hword)
    have hbare := bare_decorated_at (hlast ▸ hword.trimmed.2)
    rw [Group.lines, List.foldl_cons, addLine_of_at hbare, List.foldl_nil,
      Tag.ofLine_blank (by decide) hword.trimmed, Group.tag]
  | .flag name, hname =>
    rcases hname with rfl | rfl
    · rfl
    · rfl

/-! ### Lines -/

/-- A line that a header can have between its marks. -/
structure IsLine (line : List Char) : Prop where
  oneLine : '\n' ∉ line
  last : line.getLast? ≠ some '\r'
  inComment : Without '*' '/' line

theorem isLine_decorated {front text : List Char} (hne : text ≠ []) (hlf : '\n' ∉ front ++ text)
    (hlast : ∀ c ∈ text.getLast?, isBlank c = false) (hfront : Without '*' '/' front)
    (htext : Without '*' '/' text) (hbetween : front.getLast? ≠ some '*') :
    IsLine (decorated (front ++ text)) where
  oneLine := by simpa [decorated] using hlf
  last := by
    have heq : (decorated (front ++ text)).getLast? = text.getLast? := by
      rw [decorated, ← List.getLast?_append_of_ne_nil (' ' :: '*' :: ' ' :: front) hne]
      rfl
    rw [heq]
    exact fun hcr => absurd (hlast _ hcr) (by decide)
  inComment := by
    have hstar : Without '*' '/' [' ', '*', ' '] := by decide
    exact hstar.append (hfront.append htext (.inl hbetween)) (.inl (by decide))

theorem exists_of_mem_pieceLines {opening line : List Char} {pieces : List (List Char)}
    (h : line ∈ pieceLines opening pieces) : ∃ piece ∈ pieces,
      line = decorated (opening ++ piece) ∨ line = decorated ([' ', ' '] ++ piece) := by
  cases pieces with
  | nil => cases h
  | cons first rest =>
    rcases List.mem_cons.1 h with rfl | h
    · exact ⟨first, List.mem_cons_self, .inl rfl⟩
    · obtain ⟨piece, hpiece, rfl⟩ := List.mem_map.1 h
      exact ⟨piece, List.mem_cons_of_mem _ hpiece, .inr rfl⟩

theorem Group.isLine {g : Group} (h : g.Sound) : ∀ line ∈ g.lines, IsLine line := by
  intro line hline
  match g, h with
  | .text field pieces, ⟨value, hvalue, hbreaks⟩ =>
    have hclosed := hbreaks.closed hvalue.ne_nil
    obtain ⟨piece, hpiece, heq⟩ := exists_of_mem_pieceLines hline
    have hne := hclosed.ne_nil piece hpiece
    have hlast := (Text.trimmed_of_trim_eq (hclosed.trimmed piece hpiece)).2
    have hpart : piece <:+: value ++ [';'] := hclosed.joined ▸ infix_intercalate hpiece
    have hlf : '\n' ∉ piece := fun hmem => hvalue.oneLine (by simpa using hpart.subset hmem)
    have hwithout : Without '*' '/' piece :=
      ((Text.without_of_not_part hvalue.inComment).append (by decide) (.inr (by decide))).part hpart
    rcases heq with rfl | rfl
    · refine isLine_decorated hne ?_ hlast ?_ hwithout ?_
      · rw [List.mem_append, not_or]
        exact ⟨by cases field <;> decide, hlf⟩
      · cases field <;> decide
      · cases field <;> decide
    · exact isLine_decorated hne (by simpa using hlf) hlast (by decide) hwithout (by decide)
  | .negative .anyError, _ =>
    rw [List.mem_singleton.1 hline]
    exact ⟨by decide, by decide, by decide⟩
  | .negative (.kind kind), hword =>
    have hfront : '@' :: ("negative".toList ++ ' ' :: kind.toList)
        = ('@' :: ("negative".toList ++ [' '])) ++ kind.toList := by simp
    have hlf : '\n' ∉ kind.toList := fun hmem => absurd (hword.chars _ hmem) (by decide)
    have hstar : '*' ∉ kind.toList := fun hmem => absurd (hword.chars _ hmem) (by decide)
    rw [List.mem_singleton.1 hline, hfront]
    exact isLine_decorated hword.ne_nil (by simpa using hlf) hword.trimmed.2 (by decide)
      (Text.without_of_not_mem '/' hstar) (by decide)
  | .flag name, hname =>
    rw [List.mem_singleton.1 hline]
    rcases hname with rfl | rfl <;> exact ⟨by decide, by decide, by decide⟩

end Conformance.TagHeader
