import Conformance.Json.Reader
import Conformance.Json.Writer
import Conformance.Proofs.Text.Digits
import Mathlib.Data.List.Basic
import Mathlib.Tactic.SplitIfs

/-!
# Numbers are read as what they were written for

A number is written as a sign, digits and perhaps an exponent, and reading stops at the first
character that cannot go on with one of these. So a number is read as itself if what follows it is
no digit, no point and no exponent. The digits of a number start with zero only if they are a lone
zero, so no digits are left behind, and only what is written with an exponent is read as no integer.
-/

namespace Conformance.Json

/-- What may follow digits. -/
def EndsDigits (rest : List Char) : Prop := ∀ c ∈ rest.head?, c.isDigit = false

/-- What may follow a number. -/
def EndsNumber (rest : List Char) : Prop :=
  ∀ c ∈ rest.head?, c.isDigit = false ∧ c ≠ '.' ∧ c ≠ 'e' ∧ c ≠ 'E'

theorem EndsNumber.endsDigits {rest : List Char} (h : EndsNumber rest) : EndsDigits rest :=
  fun c hc => (h c hc).1

theorem endsNumber_nil : EndsNumber [] := by
  rintro _ ⟨⟩

theorem endsNumber_cons {c : Char} (h : c.isDigit = false ∧ c ≠ '.' ∧ c ≠ 'e' ∧ c ≠ 'E')
    (rest : List Char) : EndsNumber (c :: rest) := by
  rintro _ ⟨⟩
  exact h

theorem isDigit_of_mem_digits {n : Nat} {c : Char} (h : c ∈ digits n) : c.isDigit = true :=
  Text.isDigit_of_mem_toDigits h

theorem decimal_digits (n : Nat) : Text.decimal (digits n) = n := Text.decimal_toDigits n

theorem digits_ne_nil (n : Nat) : digits n ≠ [] := Nat.toDigits_ne_nil

/-- Only zero is written with a zero in front. -/
theorem exists_digits_eq_cons (n : Nat) :
    ∃ c rest, digits n = c :: rest ∧ (c = '0' → digits n = ['0']) := by
  induction n using Nat.strongRecOn with
  | _ n ih =>
    rcases Nat.lt_or_ge n 10 with hlt | hge
    · rw [digits, Nat.toDigits_of_lt_base hlt]
      exact ⟨_, [], rfl, fun h => by rw [h]⟩
    · obtain ⟨c, rest, heq, hzero⟩ := ih (n / 10) (by omega)
      have happend : digits n = digits (n / 10) ++ [(n % 10).digitChar] :=
        Nat.toDigits_of_base_le (by decide) hge
      refine ⟨c, rest ++ [(n % 10).digitChar], by rw [happend, heq, List.cons_append],
        fun hc => ?_⟩
      -- what is written as a lone zero is zero, and here it is at least one
      have hdecimal := decimal_digits (n / 10)
      rw [hzero hc] at hdecimal
      have : Text.decimal ['0'] = 0 := rfl
      omega

theorem exists_digits_eq_cons_isDigit (n : Nat) :
    ∃ c rest, digits n = c :: rest ∧ c.isDigit = true := by
  obtain ⟨c, rest, heq, -⟩ := exists_digits_eq_cons n
  exact ⟨c, rest, heq, isDigit_of_mem_digits (heq ▸ List.mem_cons_self)⟩

theorem takeWhile_digits_append (n : Nat) {rest : List Char} (h : EndsDigits rest) :
    (digits n ++ rest).takeWhile Char.isDigit = digits n := by
  rw [List.takeWhile_append_of_pos fun _ => isDigit_of_mem_digits]
  cases rest with
  | nil => simp
  | cons c rest => simp [h c rfl]

theorem dropWhile_digits_append (n : Nat) {rest : List Char} (h : EndsDigits rest) :
    (digits n ++ rest).dropWhile Char.isDigit = rest := by
  rw [List.dropWhile_append_of_pos fun _ => isDigit_of_mem_digits]
  cases rest with
  | nil => simp
  | cons c rest => simp [h c rfl]

theorem whole?_digits_append (n : Nat) {rest : List Char} (h : EndsDigits rest) :
    whole? (digits n ++ rest) = some (digits n, rest) := by
  obtain ⟨c, ds, heq, hzero⟩ := exists_digits_eq_cons n
  have htake := takeWhile_digits_append n h
  have hdrop := dropWhile_digits_append n h
  by_cases hc : c = '0'
  · rw [hzero hc]
    rfl
  · rw [heq, List.cons_append] at htake hdrop ⊢
    rw [whole?.eq_2 _ (by rintro _ ⟨⟩; exact hc rfl)]
    simp only [htake, hdrop, List.isEmpty_cons, Bool.false_eq_true, if_false]

theorem fraction?_of_endsNumber {rest : List Char} (h : EndsNumber rest) :
    fraction? rest = some (none, rest) := by
  rw [fraction?.eq_2]
  rintro tail rfl
  exact (h '.' rfl).2.1 rfl

theorem exponent?_of_endsNumber {rest : List Char} (h : EndsNumber rest) :
    exponent? rest = some (none, rest) := by
  rw [exponent?.eq_3]
  · rintro tail rfl
    exact (h 'e' rfl).2.2.1 rfl
  · rintro tail rfl
    exact (h 'E' rfl).2.2.2 rfl

theorem exponent?_write (exponent : Int) {rest : List Char} (h : EndsDigits rest) :
    exponent? ('e' :: (if exponent < 0 then ['-'] else []) ++ digits exponent.natAbs ++ rest)
      = some (some exponent, rest) := by
  have htake := takeWhile_digits_append exponent.natAbs h
  have hdrop := dropWhile_digits_append exponent.natAbs h
  have hne := digits_ne_nil exponent.natAbs
  split_ifs with hnegative
  · simp only [exponent?, List.cons_append, List.nil_append, htake, hdrop, List.isEmpty_iff, hne,
      if_false, decimal_digits, if_true]
    congr 3
    omega
  · obtain ⟨c, ds, heq, hc⟩ := exists_digits_eq_cons_isDigit exponent.natAbs
    have hvalue := decimal_digits exponent.natAbs
    rw [heq, List.cons_append] at htake hdrop
    rw [heq] at hvalue
    simp only [exponent?, List.cons_append, List.nil_append, heq]
    split
    · next h => cases h; cases hc
    · next h => cases h; cases hc
    · simp only [htake, hdrop, hvalue, List.isEmpty_cons, Bool.false_eq_true, if_false]
      congr 3
      omega

theorem number?_digits (negative : Bool) (n : Nat) {rest rest' : List Char}
    {exponent : Option Int} (hdigits : EndsDigits rest)
    (hfraction : fraction? rest = some (none, rest))
    (hexponent : exponent? rest = some (exponent, rest')) :
    number? ((if negative then ['-'] else []) ++ digits n ++ rest)
      = some (if exponent.isSome || (negative && n == 0) then
          .scientific negative n (exponent.getD 0)
        else .integer (if negative then -(n : Int) else n), rest') := by
  have hwhole := whole?_digits_append n hdigits
  cases negative with
  | true =>
    simp only [number?, if_true, List.cons_append, List.nil_append, hwhole, hfraction, hexponent,
      bind, Option.bind, Option.getD_none, List.append_nil, decimal_digits, Option.isSome_none,
      List.length_nil, Bool.false_or]
    simp
  | false =>
    obtain ⟨c, ds, heq, hc⟩ := exists_digits_eq_cons_isDigit n
    have hvalue := decimal_digits n
    rw [heq] at hwhole hvalue
    rw [List.cons_append] at hwhole
    simp only [Bool.false_eq_true, if_false, List.nil_append, heq, List.cons_append, number?]
    split
    · next h => cases h; cases hc
    · simp only [hwhole, hfraction, hexponent, bind, Option.bind, Option.getD_none,
        List.append_nil, hvalue, Option.isSome_none, List.length_nil, Bool.false_or,
        Bool.false_and]
      simp

theorem number?_write (n : Number) {rest : List Char} (h : EndsNumber rest) :
    number? (n.write ++ rest) = some (n, rest) := by
  cases n with
  | integer n =>
    have hread := number?_digits (decide (n < 0)) n.natAbs h.endsDigits
      (fraction?_of_endsNumber h) (exponent?_of_endsNumber h)
    have hsign : (decide (n < 0) && n.natAbs == 0) = false := by
      by_cases hn : n < 0
      · simp [show n ≠ 0 by omega]
      · simp [hn]
    simp only [decide_eq_true_eq] at hread
    rw [Number.write, hread]
    simp only [Option.isSome_none, Bool.false_or, hsign, Bool.false_eq_true, if_false]
    congr 3
    split_ifs <;> omega
  | scientific negative n exponent =>
    have hend : EndsDigits ('e' :: (if exponent < 0 then ['-'] else []) ++
        digits exponent.natAbs ++ rest) := by
      rintro c ⟨⟩
      rfl
    have hread := number?_digits negative n hend rfl (exponent?_write exponent h.endsDigits)
    rw [Number.write]
    simpa only [Option.isSome_some, Bool.true_or, if_true, Option.getD_some, List.append_assoc,
      List.cons_append] using hread

/-- What a number starts with. -/
def StartsNumber (c : Char) : Prop := c.isDigit = true ∨ c = '-'

instance (c : Char) : Decidable (StartsNumber c) := inferInstanceAs (Decidable (_ ∨ _))

theorem Number.exists_write_eq_cons (n : Number) :
    ∃ c text, n.write = c :: text ∧ StartsNumber c := by
  have hsigned (negative : Prop) [Decidable negative] (n : Nat) (rest : List Char) :
      ∃ c text, (if negative then ['-'] else []) ++ digits n ++ rest = c :: text ∧
        StartsNumber c := by
    split_ifs
    · exact ⟨'-', digits n ++ rest, rfl, .inr rfl⟩
    · obtain ⟨c, text, heq, hc⟩ := exists_digits_eq_cons_isDigit n
      rw [heq]
      exact ⟨c, text ++ rest, rfl, .inl hc⟩
  cases n with
  | integer n =>
    obtain ⟨c, text, heq, hc⟩ := hsigned (n < 0) n.natAbs []
    exact ⟨c, text, (List.append_nil _).symm.trans heq, hc⟩
  | scientific negative n exponent =>
    obtain ⟨c, text, heq, hc⟩ := hsigned (negative = true) n
      ('e' :: (if exponent < 0 then ['-'] else []) ++ digits exponent.natAbs)
    exact ⟨c, text, by rw [write, List.append_assoc, heq], hc⟩

end Conformance.Json
