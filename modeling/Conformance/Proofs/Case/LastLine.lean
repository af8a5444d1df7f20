import Conformance.Proofs.Case.Enclosed
import Conformance.Proofs.Case.Entries
import Conformance.Proofs.Text.Ends

/-!
# The last line of a group

A group of lines ends where the next thing that is said opens a tag, or where nothing more is said.
The tags of the lines after it are the same whatever stands in it, so the tags of a header with
another last line differ only in what that line adds to those before it. A header with the line
emptied is a header still.
-/

namespace Conformance.TagHeader

open Text (Without)

/-! ### Lines of a header -/

/-- `line` is a line of the text between the comment's marks. The stars that this text starts with
are no part of a line. -/
structure LineAt (before line after : List Char) : Prop where
  start : before.getLast? = some '\n' ∨ (∀ c ∈ before, c = '*') ∧ line.head? ≠ some '*'
  oneLine : '\n' ∉ line
  ending : after = [] ∨ (after.head? = some '\n' ∧ line.getLast? ≠ some '\r') ∨
    ['\r', '\n'] <+: after

/-- `line` is the last line of a group: it says something, and what is said next opens a tag. -/
structure EndsGroup (before line after : List Char) : Prop extends LineAt before line after where
  ne_nil : bare line ≠ []
  next : ∀ text ∈ (textsOf (Text.lines after)).head?, text.head? = some '@'

variable {before line after : List Char}

namespace LineAt

theorem emptied (h : LineAt before line after) : LineAt before [] after where
  start := h.start.imp_right fun hstart => ⟨hstart.1, by simp⟩
  oneLine := List.not_mem_nil
  ending := h.ending.imp_right fun hend => hend.imp_left fun hlf => ⟨hlf.1, by simp⟩

theorem textsOf_lines (h : LineAt before line after) :
    textsOf (Text.lines (line ++ after)) = textsOf [line] ++ textsOf (Text.lines after) := by
  rcases h.ending with rfl | ⟨hlf, hcr⟩ | ⟨rest, rfl⟩
  · have hlines : Text.lines (line ++ []) = Text.linesFrom (line.reverse ++ []) [] :=
      Text.linesFrom_append [] h.oneLine (by simp)
    rw [hlines]
    by_cases hnil : line = []
    · rw [hnil]
      rfl
    · simp [Text.linesFrom, hnil, textsOf, Text.lines]
  · obtain ⟨rest, rfl⟩ := List.head?_eq_some_iff.1 hlf
    rw [Text.lines_line h.oneLine hcr]
    exact textsOf_append [line] (Text.lines rest)
  · exact (congrArg textsOf (Text.lines_line_crlf h.oneLine rest)).trans
      (textsOf_append [line] (Text.lines rest))

/-- What is said before a line, in it and after it. -/
theorem said_eq (h : LineAt before line after) :
    said (before ++ (line ++ after))
      = said before ++ (textsOf [line] ++ textsOf (Text.lines after)) := by
  rw [← h.textsOf_lines]
  rcases h.start with hlf | ⟨hstars, hline⟩
  · obtain ⟨front, rfl⟩ := List.getLast?_eq_some_iff.1 hlf
    have hlf' (rest : List Char) : (front ++ '\n' :: rest).dropWhile (· == '*')
        = front.dropWhile (· == '*') ++ '\n' :: rest :=
      Text.dropWhile_append_of_stop (.inr (by simp))
    rw [said, List.append_assoc, List.singleton_append, hlf', Text.lines_append_lf, textsOf_append,
      said, hlf']
  · have hnone : said before = [] := by
      rw [said, List.dropWhile_eq_nil_iff.2 (by simpa using hstars)]
      rfl
    have hself : (line ++ after).dropWhile (· == '*') = line ++ after := by
      refine Text.dropWhile_eq_self fun c hc => beq_eq_false_iff_ne.2 ?_
      rintro rfl
      by_cases hnil : line = []
      · rcases h.ending with rfl | ⟨hlf, -⟩ | ⟨rest, rfl⟩
        · simp [hnil] at hc
        · simp [hnil, hlf] at hc
        · simp [hnil] at hc
      · rw [List.head?_append_of_ne_nil _ hnil] at hc
        exact hline hc
    rw [hnone, List.nil_append, said, List.dropWhile_append_of_pos (by simpa using hstars), hself]

end LineAt

/-! ### Tags before and after -/

theorem addText_append (t : Tag) (tags before : List Tag) (text : List Char) :
    ∃ t' tags', addText (t :: tags) text = t' :: tags' ∧
      addText (t :: tags ++ before) text = t' :: tags' ++ before := by
  by_cases hat : text.head? = some '@'
  · obtain ⟨rest, rfl⟩ := List.head?_eq_some_iff.1 hat
    exact ⟨_, _, rfl, rfl⟩
  · by_cases hne : text = []
    · rw [hne]
      exact ⟨_, _, rfl, rfl⟩
    · exact ⟨_, _, addText_of_text hne hat t tags, addText_of_text hne hat t (tags ++ before)⟩

/-- What is said from a tag on has nothing to do with the tags before it. -/
theorem foldl_addText_of_next {texts : List (List Char)}
    (h : ∀ text ∈ texts.head?, text.head? = some '@') (before : List Tag) :
    texts.foldl addText before = texts.foldl addText [] ++ before := by
  have hrest (texts : List (List Char)) (t : Tag) (tags : List Tag) :
      texts.foldl addText (t :: tags ++ before) = texts.foldl addText (t :: tags) ++ before := by
    induction texts generalizing t tags with
    | nil => rfl
    | cons text texts ih =>
      obtain ⟨t', tags', haddText, haddText'⟩ := addText_append t tags before text
      rw [List.foldl_cons, List.foldl_cons, haddText, haddText', ih]
  cases texts with
  | nil => rfl
  | cons text texts =>
    obtain ⟨rest, rfl⟩ := List.head?_eq_some_iff.1 (h text rfl)
    exact hrest texts (Tag.ofLine rest) []

/-- The tags of the lines after a group. -/
def tagsAfter (after : List Char) : List Tag :=
  ((textsOf (Text.lines after)).foldl addText []).reverse

theorem LineAt.tags_eq (h : LineAt before line after)
    (hnext : ∀ text ∈ (textsOf (Text.lines after)).head?, text.head? = some '@') :
    tags (before ++ (line ++ after))
      = ((textsOf [line]).foldl addText (tags before).reverse).reverse ++ tagsAfter after := by
  rw [tags_eq_of_said, h.said_eq, List.foldl_append, List.foldl_append, foldl_addText_of_next hnext,
    List.reverse_append, tags_eq_of_said, List.reverse_reverse, tagsAfter]

theorem EndsGroup.tags_eq (h : EndsGroup before line after) :
    tags (before ++ (line ++ after))
      = (addText (tags before).reverse (bare line)).reverse ++ tagsAfter after := by
  rw [h.toLineAt.tags_eq h.next, textsOf_singleton h.ne_nil]
  rfl

theorem LineAt.tags_emptied (h : LineAt before line after)
    (hnext : ∀ text ∈ (textsOf (Text.lines after)).head?, text.head? = some '@') :
    tags (before ++ after) = tags before ++ tagsAfter after := by
  have htags := h.emptied.tags_eq hnext
  have hnone : textsOf [[]] = [] := rfl
  rwa [hnone, List.foldl_nil, List.reverse_reverse, List.nil_append] at htags

/-! ### The header without the line -/

variable {lead body : List Char}

theorem LineAt.after_eq (h : LineAt before line after) :
    after = [] ∨ ∃ c rest, after = c :: rest ∧ (c = '\n' ∨ c = '\r') := by
  rcases h.ending with hnil | ⟨hlf, -⟩ | ⟨rest, rfl⟩
  · exact .inl hnil
  · obtain ⟨rest, rfl⟩ := List.head?_eq_some_iff.1 hlf
    exact .inr ⟨_, _, rfl, .inl rfl⟩
  · exact .inr ⟨_, _, rfl, .inr rfl⟩

theorem LineAt.isTagged_emptied (h : LineAt before line after)
    (htagged : Header.IsTagged lead (before ++ (line ++ after)) body) :
    Header.IsTagged lead (before ++ after) body := by
  have hbefore : Without '*' '/' before := htagged.inComment.part (List.prefix_append _ _).isInfix
  have hafter : Without '*' '/' after :=
    htagged.inComment.part ((List.suffix_append _ _).trans (List.suffix_append _ _)).isInfix
  refine htagged.replace ?_ (fun hmark => htagged.tagged ?_) body
  · refine hbefore.append hafter (.inr ?_)
    rcases h.after_eq with rfl | ⟨c, rest, rfl, rfl | rfl⟩ <;> simp
  · have hprefix : ['-', '-', '-'] <+: before := by
      rcases h.after_eq with rfl | ⟨c, rest, rfl, hc⟩
      · rwa [List.append_nil] at hmark
      · refine Text.prefix_of_not_mem ?_ hmark
        rcases hc with rfl | rfl <;> decide
    exact hprefix.trans (List.prefix_append _ _)

end Conformance.TagHeader
