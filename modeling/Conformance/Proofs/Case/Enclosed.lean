import Conformance.Case.Header
import Conformance.Proofs.Text.Blank

/-!
# The comment that a tagged header stands in

A source has a tagged header if the first thing in it that is neither blank nor a line comment is a
block comment that is no frontmatter. Where that comment starts does not depend on what is in it, so
the text between its marks can be replaced by any other that neither ends the comment nor makes it
frontmatter, and the header is read as the tags of the new text.
-/

namespace Conformance

open Text (Without)

namespace Header

/-! ### Where a header starts -/

theorem skipComments_of_comment {text rest : List Char}
    (h : Text.trimStart text = '/' :: '/' :: rest) :
    skipComments text = skipComments (afterLine rest) := by
  rw [skipComments]
  split
  · next heq =>
    rw [h] at heq
    cases heq
    rfl
  · next hne => exact absurd h (hne rest)

theorem skipComments_of_not_comment {text : List Char}
    (h : ∀ rest, Text.trimStart text ≠ '/' :: '/' :: rest) :
    skipComments text = Text.trimStart text := by
  rw [skipComments]
  split
  · next heq => exact absurd heq (h _)
  · rfl

theorem length_skipComments_le (text : List Char) : (skipComments text).length ≤ text.length := by
  have hle : (Text.trimStart text).length ≤ text.length :=
    (List.dropWhile_sublist Text.isBlank).length_le
  induction text using skipComments.induct with
  | case1 text rest heq ih =>
    have hrest := ih (List.dropWhile_sublist Text.isBlank).length_le
    have hafter := length_afterLine_le rest
    rw [heq, List.length_cons, List.length_cons] at hle
    rw [skipComments_of_comment heq]
    omega
  | case2 text hne => rwa [skipComments_of_not_comment hne]

theorem afterLine_append {lead : List Char} (h : '\n' ∈ lead) (text : List Char) :
    afterLine (lead ++ text) = afterLine lead ++ text := by
  have hne : lead.dropWhile (· ≠ '\n') ≠ [] := by
    rw [ne_eq, List.dropWhile_eq_nil_iff]
    intro hall
    simpa using hall '\n' h
  rw [afterLine, List.dropWhile_append, if_neg (by simpa using hne), afterLine,
    List.tail_append_of_ne_nil hne]

theorem afterLine_append_of_not_mem {lead : List Char} (h : '\n' ∉ lead) (text : List Char) :
    afterLine (lead ++ text) = afterLine text := by
  rw [afterLine, afterLine, List.dropWhile_append_of_pos]
  intro c hc
  simpa using fun heq : c = '\n' => h (heq ▸ hc)

theorem trimStart_append (lead text : List Char) :
    Text.trimStart (lead ++ text)
      = if (Text.trimStart lead).isEmpty then Text.trimStart text
        else Text.trimStart lead ++ text :=
  List.dropWhile_append

theorem trimStart_mark (text : List Char) :
    Text.trimStart ('/' :: '*' :: text) = '/' :: '*' :: text :=
  List.dropWhile_cons_of_neg (by decide)

theorem skipComments_mark (text : List Char) :
    skipComments ('/' :: '*' :: text) = '/' :: '*' :: text := by
  have hnot (rest : List Char) : Text.trimStart ('/' :: '*' :: text) ≠ '/' :: '/' :: rest := by
    rw [trimStart_mark]
    simp
  rw [skipComments_of_not_comment hnot, trimStart_mark]

/-- A line comment that swallows the mark leaves less than what the mark stands before. -/
theorem skipComments_afterLine_ne (text : List Char) :
    skipComments (afterLine ('*' :: text)) ≠ '/' :: '*' :: text := by
  intro h
  have hlength := congrArg List.length h
  have hskip := length_skipComments_le (afterLine ('*' :: text))
  have hafter := length_afterLine_le ('*' :: text)
  simp only [List.length_cons] at hlength hafter
  omega

/-- What stands in the comment has no part in where it starts. -/
theorem skipComments_replace {lead text : List Char}
    (h : skipComments (lead ++ '/' :: '*' :: text) = '/' :: '*' :: text) (text' : List Char) :
    skipComments (lead ++ '/' :: '*' :: text') = '/' :: '*' :: text' := by
  induction hn : lead.length using Nat.strong_induction_on generalizing lead with
  | _ n ih =>
    cases hlead : Text.trimStart lead with
    | nil =>
      have htrim : Text.trimStart (lead ++ '/' :: '*' :: text') = '/' :: '*' :: text' := by
        rw [trimStart_append, hlead, trimStart_mark]
        rfl
      rw [skipComments_of_not_comment (by simp [htrim]), htrim]
    | cons c front =>
      have htrim (text : List Char) : Text.trimStart (lead ++ '/' :: '*' :: text)
          = c :: (front ++ '/' :: '*' :: text) := by
        rw [trimStart_append, hlead]
        rfl
      -- the mark comes later than this character, so a line comment is skipped before it
      by_cases hcomment : ∃ rest, c :: (front ++ '/' :: '*' :: text) = '/' :: '/' :: rest
      · obtain ⟨rest, hrest⟩ := hcomment
        rw [skipComments_of_comment ((htrim text).trans hrest)] at h
        obtain ⟨rfl, hfront⟩ := List.cons.inj hrest
        cases front with
        | nil =>
          obtain ⟨-, rfl⟩ := List.cons.inj hfront
          exact absurd h (skipComments_afterLine_ne text)
        | cons d front =>
          obtain ⟨rfl, rfl⟩ := List.cons.inj hfront
          by_cases hlf : '\n' ∈ front
          · have hle : ('/' :: '/' :: front).length ≤ lead.length :=
              hlead ▸ (List.dropWhile_sublist Text.isBlank).length_le
            have hafter := length_afterLine_le front
            simp only [List.length_cons] at hle
            rw [List.append_eq, afterLine_append hlf] at h
            have htrim' : Text.trimStart (lead ++ '/' :: '*' :: text')
                = '/' :: '/' :: (front ++ '/' :: '*' :: text') := htrim text'
            rw [skipComments_of_comment htrim', afterLine_append hlf]
            exact ih _ (by omega) h rfl
          · rw [List.append_eq, afterLine_append_of_not_mem hlf] at h
            exact absurd h (skipComments_afterLine_ne text)
      · have hlength := congrArg List.length h
        rw [skipComments_of_not_comment fun rest hrest =>
          hcomment ⟨rest, (htrim text).symm.trans hrest⟩, htrim] at hlength
        simp only [List.length_cons, List.length_append] at hlength
        omega

theorem start_replace {lead text : List Char}
    (h : start (lead ++ '/' :: '*' :: text) = '/' :: '*' :: text) (text' : List Char) :
    start (lead ++ '/' :: '*' :: text') = '/' :: '*' :: text' := by
  have hlead (text : List Char) : start (lead ++ '/' :: '*' :: text)
      = skipComments (lead.dropWhile (· == '\ufeff') ++ '/' :: '*' :: text) := by
    rw [start, List.dropWhile_append]
    split
    · next hempty =>
      rw [List.isEmpty_iff.1 hempty]
      rfl
    · rfl
  rw [hlead] at h ⊢
  exact skipComments_replace h text'

/-- A source with a comment around `block`. -/
def enclosed (lead block body : List Char) : List Char :=
  lead ++ '/' :: '*' :: (block ++ '*' :: '/' :: body)

/-- The comment around `block` is the header of its source, and it is a tagged one. -/
structure IsTagged (lead block body : List Char) : Prop where
  start : start (enclosed lead block body) = enclosed [] block body
  inComment : Without '*' '/' block
  tagged : ¬ ['-', '-', '-'] <+: block

theorem IsTagged.replace {lead block body : List Char} (h : IsTagged lead block body)
    {block' : List Char} (inComment : Without '*' '/' block')
    (tagged : ¬ ['-', '-', '-'] <+: block') (body' : List Char) : IsTagged lead block' body' :=
  ⟨start_replace h.start _, inComment, tagged⟩

theorem isTagged_of_nil {block : List Char} (inComment : Without '*' '/' block)
    (tagged : ¬ ['-', '-', '-'] <+: block) (body : List Char) : IsTagged [] block body :=
  ⟨skipComments_mark _, inComment, tagged⟩

end Header

theorem TagHeader.parse_enclosed {block : List Char} (h : Without '*' '/' block)
    (body : List Char) : parse (block ++ '*' :: '/' :: body) = metadata (tags block) := by
  rw [parse, Text.breakOn_of_without (by decide) h]

theorem Header.IsTagged.parse_eq {lead block body : List Char} (h : IsTagged lead block body)
    (path : Path) :
    parse (enclosed lead block body) path = TagHeader.metadata (TagHeader.tags block) := by
  have htagged : ∀ rest, block ++ '*' :: '/' :: body ≠ '-' :: '-' :: '-' :: rest := by
    intro rest heq
    rcases block with _ | ⟨a, _ | ⟨b, _ | ⟨c, block⟩⟩⟩
    · simp at heq
    · simp at heq
    · simp at heq
    · obtain ⟨rfl, rfl, rfl, -⟩ : a = '-' ∧ b = '-' ∧ c = '-' ∧ _ := by simpa using heq
      exact h.tagged ⟨block, rfl⟩
  rw [parse, h.start, enclosed, List.nil_append]
  split
  · next rest heq => exact absurd (List.cons.inj (List.cons.inj heq).2).2 (htagged rest)
  · next rest hne heq =>
    obtain rfl := (List.cons.inj (List.cons.inj heq).2).2
    exact TagHeader.parse_enclosed h.inComment body
  · next hne => exact absurd rfl (hne _)

end Conformance
