import Conformance.Proofs.Case.Enclosed
import Conformance.Proofs.Text.Ends

/-!
# What may stand before a header

Blank lines and line comments before a header are skipped in rounds, one for each comment. A round
takes at least the two characters that the comment opens with, so there are at most half as many
rounds as characters. What is left is an end of the source that no further round would change, and
lines of either kind can be put before a source without any effect on what is read from it.
-/

namespace Conformance.Header

open Text (isBlank trimStart)

/-! ### Rounds -/

/-- One round of skipping: what is left behind the comment that comes first, if one does. -/
def nextRound? (text : List Char) : Option (List Char) :=
  (Text.after? ['/', '/'] (trimStart text)).map afterLine

/-- After this many rounds nothing is left to skip, and `rest` is what remains. -/
inductive Skips : List Char → Nat → List Char → Prop
  | stop {text : List Char} (h : nextRound? text = none) : Skips text 0 (trimStart text)
  | next {text text' rest : List Char} {rounds : Nat} (h : nextRound? text = some text')
    (hnext : Skips text' rounds rest) : Skips text (rounds + 1) rest

theorem nextRound?_of_comment {text rest : List Char} (h : trimStart text = '/' :: '/' :: rest) :
    nextRound? text = some (afterLine rest) := by
  rw [nextRound?, h]
  rfl

theorem nextRound?_of_not_comment {text : List Char}
    (h : ∀ rest, trimStart text ≠ '/' :: '/' :: rest) : nextRound? text = none := by
  have hprefix : ¬ ['/', '/'] <+: trimStart text := fun ⟨rest, hrest⟩ => h rest hrest.symm
  rw [nextRound?, Text.after?, if_neg (by rwa [List.isPrefixOf_iff_prefix])]
  rfl

theorem exists_skips (text : List Char) :
    ∃ rounds, 2 * rounds ≤ text.length ∧ Skips text rounds (skipComments text) := by
  induction text using skipComments.induct with
  | case1 text rest heq ih =>
    obtain ⟨rounds, hle, hskips⟩ := ih
    have hlength : (trimStart text).length ≤ text.length :=
      (List.dropWhile_sublist isBlank).length_le
    have hafter := length_afterLine_le rest
    -- the two slashes pay for the round
    rw [heq, List.length_cons, List.length_cons] at hlength
    rw [skipComments_of_comment heq]
    exact ⟨rounds + 1, by omega, .next (nextRound?_of_comment heq) hskips⟩
  | case2 text hne =>
    rw [skipComments_of_not_comment hne]
    exact ⟨0, by omega, .stop (nextRound?_of_not_comment hne)⟩

theorem Skips.unique {text rest rest' : List Char} {rounds rounds' : Nat}
    (h : Skips text rounds rest) (h' : Skips text rounds' rest') :
    rounds = rounds' ∧ rest = rest' := by
  induction h generalizing rounds' rest' with
  | stop hstop =>
    cases h' with
    | stop => exact ⟨rfl, rfl⟩
    | next hnext => rw [hstop] at hnext; cases hnext
  | next hnext _ ih =>
    cases h' with
    | stop hstop => rw [hstop] at hnext; cases hnext
    | next hnext' hskips =>
      rw [hnext'] at hnext
      cases hnext
      obtain ⟨rfl, rfl⟩ := ih hskips
      exact ⟨rfl, rfl⟩

/-! ### What is left -/

theorem skipComments_suffix (text : List Char) : skipComments text <:+ text := by
  induction text using skipComments.induct with
  | case1 text rest heq ih =>
    have hafter : afterLine rest <:+ rest :=
      (List.tail_suffix _).trans (List.dropWhile_suffix _)
    have hcomment : '/' :: '/' :: rest <:+ text := heq ▸ List.dropWhile_suffix isBlank
    have hrest : rest <:+ text := (List.suffix_append ['/', '/'] rest).trans hcomment
    rw [skipComments_of_comment heq]
    exact (ih.trans hafter).trans hrest
  | case2 text hne =>
    rw [skipComments_of_not_comment hne]
    exact List.dropWhile_suffix isBlank

theorem start_suffix (source : List Char) : start source <:+ source :=
  (skipComments_suffix _).trans (List.dropWhile_suffix _)

/-- Nothing that is left would be skipped. -/
theorem skipComments_stop (text : List Char) :
    (∀ c ∈ (skipComments text).head?, isBlank c = false) ∧ ¬ ['/', '/'] <+: skipComments text := by
  induction text using skipComments.induct with
  | case1 text rest heq ih => rwa [skipComments_of_comment heq]
  | case2 text hne =>
    rw [skipComments_of_not_comment hne]
    refine ⟨Text.isBlank_head_trimStart text, ?_⟩
    rintro ⟨rest, hrest⟩
    exact hne rest hrest.symm

/-! ### Lines before a source -/

/-- The line has blanks in it and nothing else, or a line comment behind them. -/
structure IsSkipped (line : List Char) : Prop where
  oneLine : '\n' ∉ line
  blankOrComment : ∃ blanks text, line = blanks ++ text ∧ (∀ c ∈ blanks, isBlank c = true) ∧
    (text = [] ∨ ['/', '/'] <+: text)

theorem skipComments_congr {text text' : List Char} (h : trimStart text = trimStart text') :
    skipComments text = skipComments text' := by
  by_cases hcomment : ∃ rest, trimStart text = '/' :: '/' :: rest
  · obtain ⟨rest, hrest⟩ := hcomment
    rw [skipComments_of_comment hrest, skipComments_of_comment (h.symm.trans hrest)]
  · have hnot := not_exists.1 hcomment
    rw [skipComments_of_not_comment hnot, skipComments_of_not_comment (h ▸ hnot), h]

theorem skipComments_line {line : List Char} (h : IsSkipped line) (text : List Char) :
    skipComments (line ++ '\n' :: text) = skipComments text := by
  obtain ⟨blanks, comment, rfl, hblanks, hcomment⟩ := h.blankOrComment
  have htrim (rest : List Char) : trimStart (blanks ++ rest) = trimStart rest :=
    List.dropWhile_append_of_pos hblanks
  rcases hcomment with rfl | ⟨comment, rfl⟩
  · refine skipComments_congr ?_
    rw [List.append_nil, htrim]
    exact List.dropWhile_cons_of_pos (by decide)
  · have hlf : '\n' ∉ comment := fun hmem => h.oneLine (by simp [hmem])
    have hstart : trimStart (blanks ++ (['/', '/'] ++ comment) ++ '\n' :: text)
        = '/' :: '/' :: (comment ++ '\n' :: text) := by
      rw [List.append_assoc, htrim]
      exact List.dropWhile_cons_of_neg (by decide)
    rw [skipComments_of_comment hstart, afterLine_append_of_not_mem hlf]
    rfl

theorem skipComments_lines {lines : List (List Char)} (h : ∀ line ∈ lines, IsSkipped line)
    (text : List Char) :
    skipComments (lines.flatMap (· ++ ['\n']) ++ text) = skipComments text := by
  induction lines with
  | nil => rfl
  | cons line lines ih =>
    obtain ⟨hline, hlines⟩ := List.forall_mem_cons.1 h
    rw [List.flatMap_cons, List.append_assoc, List.append_assoc, List.singleton_append,
      skipComments_line hline, ih hlines]

theorem IsSkipped.head?_ne {line : List Char} (h : IsSkipped line) (text : List Char) :
    (line ++ '\n' :: text).head? ≠ some '\ufeff' := by
  obtain ⟨blanks, comment, rfl, hblanks, hcomment⟩ := h.blankOrComment
  cases blanks with
  | nil => rcases hcomment with rfl | ⟨comment, rfl⟩ <;> simp
  | cons c blanks =>
    rintro hc
    cases hc
    exact absurd (hblanks '\ufeff' List.mem_cons_self) (by decide)

/-- Byte order marks and skipped lines before a source leave its header where it is. -/
theorem start_lines {marks : List Char} {lines : List (List Char)} {source : List Char}
    (hmarks : ∀ c ∈ marks, c = '\ufeff') (hlines : ∀ line ∈ lines, IsSkipped line)
    (hsource : source.head? ≠ some '\ufeff') :
    start (marks ++ (lines.flatMap (· ++ ['\n']) ++ source)) = start source := by
  have hself {text : List Char} (h : text.head? ≠ some '\ufeff') :
      text.dropWhile (· == '\ufeff') = text :=
    Text.dropWhile_eq_self fun c hc => beq_eq_false_iff_ne.2 fun heq => h (heq ▸ hc)
  have hhead : (lines.flatMap (· ++ ['\n']) ++ source).head? ≠ some '\ufeff' := by
    cases lines with
    | nil => exact hsource
    | cons line lines =>
      rw [List.flatMap_cons, List.append_assoc, List.append_assoc]
      exact (hlines line List.mem_cons_self).head?_ne _
  rw [start, List.dropWhile_append_of_pos (by simpa using hmarks), hself hhead,
    skipComments_lines hlines, start, hself hsource]

/-- Skipping comes to an end on every source, with an end of the source that starts neither with a
blank nor with a line comment. Byte order marks, followed by blank lines and line comments, can
stand before every source that does not start with such a mark itself: the same is read from it, be
that metadata or an error. -/
theorem leading_lines_skipped (source : List Char) :
    (∃ rounds, 2 * rounds ≤ source.length ∧
      Skips (source.dropWhile (· == '\ufeff')) rounds (start source) ∧
      ∀ rounds' rest, Skips (source.dropWhile (· == '\ufeff')) rounds' rest →
        rounds' = rounds ∧ rest = start source) ∧
    start source <:+ source ∧ (∀ c ∈ (start source).head?, isBlank c = false) ∧
    ¬ ['/', '/'] <+: start source ∧
    ∀ (marks : List Char) (lines : List (List Char)), (∀ c ∈ marks, c = '\ufeff') →
      (∀ line ∈ lines, IsSkipped line) → source.head? ≠ some '\ufeff' → ∀ path : Path,
        parse (marks ++ (lines.flatMap (· ++ ['\n']) ++ source)) path = parse source path := by
  obtain ⟨rounds, hle, hskips⟩ := exists_skips (source.dropWhile (· == '\ufeff'))
  have hlength : (source.dropWhile (· == '\ufeff')).length ≤ source.length :=
    (List.dropWhile_sublist _).length_le
  obtain ⟨hblank, hcomment⟩ := skipComments_stop (source.dropWhile (· == '\ufeff'))
  refine ⟨⟨rounds, by omega, hskips, fun rounds' rest h => h.unique hskips⟩, start_suffix source,
    hblank, hcomment, fun marks lines hmarks hlines hsource path => ?_⟩
  rw [parse, start_lines hmarks hlines hsource, parse]

/-- The source starts with a blank line of its own, and the line before it has a carriage return. -/
theorem leading_lines_skipped_threeLines :
    Header.parse
        ("\ufeff\ufeff// first\n\u3000//\n \r\n".toList ++ "\n/** @name: S1; */".toList)
        (.ofText "a.js")
      = Header.parse "\n/** @name: S1; */".toList (.ofText "a.js") :=
  (leading_lines_skipped "\n/** @name: S1; */".toList).2.2.2.2 ['\ufeff', '\ufeff']
    ["// first".toList, "\u3000//".toList, " \r".toList] (by simp)
    (by
      rintro line hline
      simp only [List.mem_cons, List.not_mem_nil, or_false] at hline
      rcases hline with rfl | rfl | rfl
      · exact ⟨by simp, [], _, rfl, by simp, .inr (by decide)⟩
      · exact ⟨by simp, ['\u3000'], ['/', '/'], rfl, by simp [Text.isBlank], .inr (by decide)⟩
      · exact ⟨by simp, _, [], (List.append_nil _).symm, by simp [Text.isBlank], .inl rfl⟩)
    (by simp) (.ofText "a.js")

end Conformance.Header
