import Conformance.Json.Writer
import Conformance.Proofs.Text.Digits
import Mathlib.Data.Char
import Mathlib.Tactic.SplitIfs

/-!
# String literals are read as what they were written for

A character is written as one piece of a literal: as itself or a short escape, which are read as the
character, or as the escape of a UTF-16 unit. Such a unit is a control character and no surrogate,
so the pieces of a text join to the text again, and no two of them to one character. The literal for
a string without a text holds one surrogate, and is read as a string without a text.
-/

namespace Conformance.Json

namespace Literal

theorem number?_hex4 {n : Nat} (h : n < 0x10000) : Text.number? 16 (hex4 n) = some n := by
  have hdigit (k : Nat) : Text.digitBelow? 16 (Text.hexDigit (k % 16)) = some (k % 16) :=
    Text.digitBelow?_hexDigit (Nat.mod_lt k (by decide))
  simp only [hex4, List.map_cons, List.map_nil, Text.number?, Text.numberFrom?, hdigit]
  congr 1
  omega

theorem exists_of_mem_hex4 {n : Nat} {d : Char} (h : d ∈ hex4 n) :
    ∃ k < 16, d = Text.hexDigit k := by
  obtain ⟨k, hk, rfl⟩ := List.mem_map.1 h
  refine ⟨k, ?_, rfl⟩
  simp only [List.mem_cons, List.not_mem_nil, or_false] at hk
  omega

/-- A character is written as itself, as a backslash and one ASCII character, or as a unit. -/
theorem escape_eq_or (c : Char) :
    (escape c = [c] ∧ c ≠ '"' ∧ c ≠ '\\' ∧ 0x20 ≤ c.val) ∨
      (∃ d, escape c = ['\\', d] ∧ 0x20 ≤ d.val ∧ d.val < 0x80) ∨
      escape c = '\\' :: 'u' :: hex4 c.toNat := by
  unfold escape
  split_ifs with hquote hbackslash hn hr ht h8 hf hc
  · exact .inr (.inl ⟨_, rfl, by decide⟩)
  · exact .inr (.inl ⟨_, rfl, by decide⟩)
  · exact .inr (.inl ⟨_, rfl, by decide⟩)
  · exact .inr (.inl ⟨_, rfl, by decide⟩)
  · exact .inr (.inl ⟨_, rfl, by decide⟩)
  · exact .inr (.inl ⟨_, rfl, by decide⟩)
  · exact .inr (.inl ⟨_, rfl, by decide⟩)
  · exact .inr (.inr rfl)
  · exact .inl ⟨rfl, hquote, hbackslash, UInt32.not_lt.1 hc⟩

/-- The piece that a written character is read as. -/
def Piece.ofWritten (c : Char) : Piece :=
  if c ∉ ['\n', '\r', '\t', '\x08', '\x0c'] ∧ c.val < 0x20 then .unit c.toNat else .char c

theorem piecesFrom_char (held : List Piece) {c : Char} (rest : List Char) (hquote : c ≠ '"')
    (hbackslash : c ≠ '\\') (hc : ¬ c.val < 0x20) :
    piecesFrom held (c :: rest) = piecesFrom (.char c :: held) rest := by
  rw [piecesFrom.eq_def]
  split
  case h_4 heq =>
    cases heq
    rw [if_neg]
    simp [hbackslash, UInt32.not_lt.1 hc]
  all_goals simp_all

theorem piecesFrom_unit (held : List Piece) {n : Nat} (h : n < 0x10000) (rest : List Char) :
    piecesFrom held ('\\' :: 'u' :: hex4 n ++ rest) = piecesFrom (.unit n :: held) rest := by
  have hnumber := number?_hex4 h
  simp only [hex4, List.map_cons, List.map_nil] at hnumber
  simp only [hex4, List.map_cons, List.map_nil, List.cons_append, List.nil_append, piecesFrom,
    hnumber]

theorem piecesFrom_escape (held : List Piece) (c : Char) (rest : List Char) :
    piecesFrom held (escape c ++ rest) = piecesFrom (.ofWritten c :: held) rest := by
  unfold escape
  split_ifs with hquote hbackslash hn hr ht h8 hf hc
  · subst hquote; rfl
  · subst hbackslash; rfl
  · subst hn; rfl
  · subst hr; rfl
  · subst ht; rfl
  · subst h8; rfl
  · subst hf; rfl
  · have hlt : c.toNat < 0x20 := hc
    have hpiece : Piece.ofWritten c = .unit c.toNat :=
      if_pos ⟨by simp [hn, hr, ht, h8, hf], hc⟩
    rw [hpiece]
    exact piecesFrom_unit held (Nat.lt_trans hlt (by decide)) rest
  · have hpiece : Piece.ofWritten c = .char c := if_neg fun h => hc h.2
    rw [hpiece]
    exact piecesFrom_char held rest hquote hbackslash hc

theorem join_unit_cons {n : Nat} (h : n < 0xd800) (rest : List Piece) :
    join (.unit n :: rest) = (join rest).map (Char.ofNat n :: ·) := by
  have hleading : leading n = false := by
    rw [leading, decide_eq_false (by omega), Bool.false_and]
  have htrailing : trailing n = false := by
    rw [trailing, decide_eq_false (by omega), Bool.false_and]
  cases rest with
  | nil => simp [join, hleading, htrailing]
  | cons piece rest => cases piece <;> simp [join, hleading, htrailing]

theorem join_ofWritten_cons (c : Char) (rest : List Piece) :
    join (.ofWritten c :: rest) = (join rest).map (c :: ·) := by
  rw [Piece.ofWritten]
  split
  · next h =>
    have hlt : c.toNat < 0x20 := h.2
    rw [join_unit_cons (by omega), Char.ofNat_toNat]
  · rw [join]

/-- Items that are read as one piece each are read in a row, up to the closing quote. -/
theorem piecesFrom_flatMap {α : Type} {write : α → List Char} {piece : α → Piece} {items : List α}
    (h : ∀ a ∈ items, ∀ held rest,
      piecesFrom held (write a ++ rest) = piecesFrom (piece a :: held) rest)
    (held : List Piece) (rest : List Char) :
    piecesFrom held (items.flatMap write ++ '"' :: rest)
      = some (held.reverse ++ items.map piece, rest) := by
  induction items generalizing held with
  | nil => simp [piecesFrom]
  | cons a items ih =>
    obtain ⟨ha, hitems⟩ := List.forall_mem_cons.1 h
    rw [List.flatMap_cons, List.append_assoc, ha, ih hitems]
    simp

/-- A text is read back if each character is written as one piece, which joins as the character. -/
theorem read_flatMap {write : Char → List Char} {piece : Char → Piece}
    (hpiece : ∀ held c rest, piecesFrom held (write c ++ rest) = piecesFrom (piece c :: held) rest)
    (hjoin : ∀ c rest, join (piece c :: rest) = (join rest).map (c :: ·))
    (text rest : List Char) :
    read (text.flatMap write ++ '"' :: rest) = some (some (String.ofList text), rest) := by
  have hmap : join (text.map piece) = some text := by
    induction text with
    | nil => rfl
    | cons c text ih => rw [List.map_cons, hjoin, ih, Option.map_some]
  rw [read, piecesFrom_flatMap fun c _ held rest => hpiece held c rest, List.reverse_nil,
    List.nil_append, Option.map_some]
  simp only [hmap, Option.map_some]

theorem read_flatMap_escape (text rest : List Char) :
    read (text.flatMap escape ++ '"' :: rest) = some (some (String.ofList text), rest) :=
  read_flatMap piecesFrom_escape join_ofWritten_cons text rest

end Literal

/-- A written string is a quote and what is read as the string, whatever comes after it. -/
theorem writeText_eq_cons (t : Option String) :
    ∃ inside, writeText t = '"' :: inside ∧
      ∀ rest, Literal.read (inside ++ rest) = some (t, rest) := by
  cases t with
  | none => exact ⟨_, rfl, fun _ => rfl⟩
  | some s =>
    refine ⟨s.toList.flatMap Literal.escape ++ ['"'], rfl, fun rest => ?_⟩
    rw [List.append_assoc, List.singleton_append, Literal.read_flatMap_escape,
      String.ofList_toList]

end Conformance.Json
