import Conformance.Text.Blank
import Mathlib.Data.List.Basic
import Mathlib.Data.List.DropRight
import Mathlib.Data.List.Infix
import Mathlib.Data.List.Chain

/-!
# Lines, trimmed texts and marks

A text is cut into lines at each line feed, whatever stands on its two sides, so a line that is
written into a text is one of its lines. A text is trimmed if it neither starts nor ends with a
blank, and what stands around it can then be taken off again. A mark is found where it stands first.
-/

namespace Conformance.Text

/-! ### Lines -/

theorem linesFrom_cons (held : List Char) {c : Char} {rest : List Char} (hlf : c ≠ '\n')
    (hcr : c = '\r' → rest.head? ≠ some '\n') :
    linesFrom held (c :: rest) = linesFrom (c :: held) rest := by
  rw [linesFrom.eq_def]
  split
  case h_1 heq => cases heq
  case h_2 heq =>
    cases heq
    exact absurd rfl (hcr rfl)
  case h_3 heq =>
    cases heq
    exact absurd rfl hlf
  case h_4 heq =>
    cases heq
    rfl

theorem linesFrom_append (held : List Char) {line rest : List Char} (hline : '\n' ∉ line)
    (hend : line.getLast? = some '\r' → rest.head? ≠ some '\n') :
    linesFrom held (line ++ rest) = linesFrom (line.reverse ++ held) rest := by
  induction line generalizing held with
  | nil => rfl
  | cons c line ih =>
    obtain ⟨hlf, hrest⟩ := not_or.1 (mt List.mem_cons.2 hline)
    have hnext : linesFrom held (c :: (line ++ rest)) = linesFrom (c :: held) (line ++ rest) := by
      refine linesFrom_cons held (Ne.symm hlf) fun hcr => ?_
      cases line with
      | nil => exact hend (congrArg some hcr)
      | cons d line =>
        rintro hd
        exact hrest (List.mem_cons.2 (.inl (Option.some.inj hd).symm))
    have hend' : line.getLast? = some '\r' → rest.head? ≠ some '\n' := fun hlast =>
      hend (by rw [List.getLast?_cons, hlast, Option.getD_some])
    rw [List.cons_append, hnext, ih (c :: held) hrest hend', List.reverse_cons, List.append_assoc]
    rfl

/-- What stands before a line feed makes lines of its own. -/
theorem lines_append_lf (u v : List Char) :
    lines (u ++ '\n' :: v) = lines (u ++ ['\n']) ++ lines v := by
  have hfrom (held : List Char) :
      linesFrom held (u ++ '\n' :: v) = linesFrom held (u ++ ['\n']) ++ linesFrom [] v := by
    induction held, u using linesFrom.induct with
    | case1 held => rfl
    | case2 held => rfl
    | case3 held u ih => exact congrArg (held.reverse :: ·) ih
    | case4 held u ih => exact congrArg (held.reverse :: ·) ih
    | case5 held c u hcrlf hlf ih =>
      by_cases hcr : c = '\r' ∧ u = []
      · obtain ⟨rfl, rfl⟩ := hcr
        rfl
      · have hcons (v : List Char) :
            linesFrom held (c :: (u ++ '\n' :: v)) = linesFrom (c :: held) (u ++ '\n' :: v) := by
          refine linesFrom_cons held hlf fun hc => ?_
          cases u with
          | nil => exact absurd ⟨hc, rfl⟩ hcr
          | cons d u =>
            rintro hd
            cases hc
            exact hcrlf u rfl (congrArg (· :: u) (Option.some.inj hd))
        rw [List.cons_append, List.cons_append, hcons, hcons, ih]
  exact hfrom []

theorem lines_line {line : List Char} (hline : '\n' ∉ line) (hend : line.getLast? ≠ some '\r')
    (rest : List Char) : lines (line ++ '\n' :: rest) = line :: lines rest := by
  rw [lines, linesFrom_append [] hline fun h => absurd h hend, linesFrom, List.append_nil,
    List.reverse_reverse, lines]

theorem lines_line_crlf {line : List Char} (hline : '\n' ∉ line) (rest : List Char) :
    lines (line ++ '\r' :: '\n' :: rest) = line :: lines rest := by
  rw [lines, linesFrom_append [] hline fun _ => by simp, linesFrom, List.append_nil,
    List.reverse_reverse, lines]

theorem not_mem_of_mem_lines (text : List Char) : ∀ line ∈ lines text, '\n' ∉ line := by
  have hfrom (held : List Char) (hheld : '\n' ∉ held) :
      ∀ line ∈ linesFrom held text, '\n' ∉ line := by
    have hfirst : '\n' ∉ held.reverse := by simpa using hheld
    induction held, text using linesFrom.induct with
    | case1 held hempty => simp [linesFrom, hempty]
    | case2 held hne => simpa [linesFrom, hne] using hheld
    | case3 held text ih =>
      exact List.forall_mem_cons.2 ⟨hfirst, ih List.not_mem_nil List.not_mem_nil⟩
    | case4 held text ih =>
      exact List.forall_mem_cons.2 ⟨hfirst, ih List.not_mem_nil List.not_mem_nil⟩
    | case5 held c text hcrlf hlf ih =>
      have hcons : '\n' ∉ c :: held := List.not_mem_cons_of_ne_of_not_mem (Ne.symm hlf) hheld
      rw [linesFrom_cons held hlf fun hcr hhead => ?_]
      · exact ih hcons (by rwa [List.mem_reverse])
      · obtain ⟨rest, hrest⟩ := List.head?_eq_some_iff.1 hhead
        exact hcrlf rest hcr hrest
  exact hfrom [] List.not_mem_nil

/-! ### Blanks -/

theorem dropWhile_eq_self {p : Char → Bool} {text : List Char}
    (h : ∀ c ∈ text.head?, p c = false) : text.dropWhile p = text := by
  cases text with
  | nil => rfl
  | cons c text => exact List.dropWhile_cons_of_neg (by simp [h c rfl])

theorem dropEndWhile_eq_self {p : Char → Bool} {text : List Char}
    (h : ∀ c ∈ text.getLast?, p c = false) : dropEndWhile p text = text := by
  have hreverse : text.reverse.dropWhile p = text.reverse :=
    dropWhile_eq_self (by rwa [List.head?_reverse])
  rw [dropEndWhile, hreverse, List.reverse_reverse]

theorem dropEndWhile_concat {p : Char → Bool} {c : Char} (h : p c = true) (text : List Char) :
    dropEndWhile p (text ++ [c]) = dropEndWhile p text :=
  List.rdropWhile_concat_pos p text c h

theorem dropEndWhile_append {p : Char → Bool} {u : List Char}
    (h : ∀ c ∈ u.getLast?, p c = false) (v : List Char) :
    dropEndWhile p (u ++ v) = u ++ dropEndWhile p v := by
  induction v using List.reverseRecOn with
  | nil => rw [List.append_nil, dropEndWhile_eq_self h]; exact (List.append_nil u).symm
  | append_singleton v c ih =>
    rw [← List.append_assoc]
    cases hc : p c with
    | true => rw [dropEndWhile_concat hc, dropEndWhile_concat hc, ih]
    | false =>
      rw [dropEndWhile_eq_self (by simpa using hc), dropEndWhile_eq_self (by simpa using hc),
        List.append_assoc]

/-- The text neither starts nor ends with a blank. -/
def Trimmed (text : List Char) : Prop :=
  (∀ c ∈ text.head?, isBlank c = false) ∧ ∀ c ∈ text.getLast?, isBlank c = false

theorem Trimmed.trim_eq {text : List Char} (h : Trimmed text) : trim text = text := by
  rw [trim, trimStart, dropWhile_eq_self h.1, trimEnd, dropEndWhile_eq_self h.2]

theorem trimmed_of_trim_eq {text : List Char} (h : trim text = text) : Trimmed text := by
  have hstart : trimStart text <:+ text := List.dropWhile_suffix isBlank
  have hend : trim text <+: trimStart text := List.rdropWhile_prefix isBlank _
  rw [h] at hend
  have heq : text.dropWhile isBlank = text := hstart.eq_of_length_le hend.length_le
  have heq' : text.rdropWhile isBlank = text := by
    rw [trim, trimStart, heq] at h
    exact h
  constructor
  · intro c hc
    obtain ⟨rest, rfl⟩ := List.head?_eq_some_iff.1 hc
    exact Bool.eq_false_iff.2 (List.dropWhile_eq_self_iff.1 heq (Nat.succ_pos _))
  · intro c hc
    obtain ⟨front, rfl⟩ := List.getLast?_eq_some_iff.1 hc
    have hlast := List.rdropWhile_eq_self_iff.1 heq' (by simp)
    rw [List.getLast_concat] at hlast
    exact Bool.eq_false_iff.2 hlast

theorem trim_cons_of_isBlank {c : Char} (h : isBlank c = true) (text : List Char) :
    trim (c :: text) = trim text := by
  rw [trim, trimStart, List.dropWhile_cons_of_pos h, trim, trimStart]

/-! ### Marks -/

/-- The two characters do not stand side by side in the text. -/
abbrev Without (a b : Char) (text : List Char) : Prop := text.IsChain fun x y => ¬ (x = a ∧ y = b)

theorem without_of_not_part {a b : Char} {text : List Char} (h : ¬ [a, b] <:+: text) :
    Without a b text := by
  rw [Without, List.isChain_iff_forall_rel_of_append_cons_cons]
  rintro x y front rest rfl ⟨rfl, rfl⟩
  exact h ⟨front, rest, by simp⟩

theorem without_of_not_mem {a : Char} (b : Char) {text : List Char} (h : a ∉ text) :
    Without a b text :=
  without_of_not_part fun hpart => h (hpart.subset List.mem_cons_self)

theorem Without.append {a b : Char} {u v : List Char} (hu : Without a b u) (hv : Without a b v)
    (h : u.getLast? ≠ some a ∨ v.head? ≠ some b) : Without a b (u ++ v) := by
  refine List.isChain_append.2 ⟨hu, hv, ?_⟩
  rintro x hx y hy ⟨rfl, rfl⟩
  exact h.elim (absurd hx) (absurd hy)

theorem Without.part {a b : Char} {u v : List Char} (h : Without a b v) (hpart : u <:+: v) :
    Without a b u := by
  obtain ⟨front, rest, rfl⟩ := hpart
  exact h.left_of_append.right_of_append

theorem breakOn_of_without {a b : Char} (hne : a ≠ b) {text : List Char} (h : Without a b text)
    (rest : List Char) : breakOn [a, b] (text ++ a :: b :: rest) = some (text, rest) := by
  have hfrom (held : List Char) : breakFrom [a, b] held (text ++ a :: b :: rest)
      = some (held.reverse ++ text, rest) := by
    induction text generalizing held with
    | nil => simp [breakFrom]
    | cons c text ih =>
      have hnot : ¬ [a, b].isPrefixOf (c :: (text ++ a :: b :: rest)) := by
        intro hstart
        obtain ⟨rfl, hb⟩ := List.cons_prefix_cons.1 (List.isPrefixOf_iff_prefix.1 hstart)
        cases text with
        | nil => exact hne (List.cons_prefix_cons.1 hb).1.symm
        | cons d text =>
          exact (List.isChain_cons_cons.1 h).1 ⟨rfl, (List.cons_prefix_cons.1 hb).1.symm⟩
      rw [List.cons_append, breakFrom, if_neg hnot, ih h.tail, List.reverse_cons,
        List.append_assoc]
      rfl
  exact hfrom []

end Conformance.Text
