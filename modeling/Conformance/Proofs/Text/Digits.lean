import Conformance.Text.Digits
import Mathlib.Data.Nat.Init

/-!
# The numbers that digits write

The decimal digits of a number, and the hexadecimal ones of a number of four digits, are read as
that number again.
-/

namespace Conformance.Text

theorem digitBelow?_of_isDigit {c : Char} (h : c.isDigit = true) :
    digitBelow? 10 c = some (c.toNat - 48) := by
  have hrange : '0' ≤ c ∧ c ≤ '9' := by simpa [Char.isDigit, Char.le_def] using h
  have hlt : c.val.toNat - 0x30 < 10 := by
    have hle := hrange.2
    have hnine : '9'.val.toNat = 57 := rfl
    simp only [Char.le_def, UInt32.le_iff_toNat_le] at hle
    omega
  rw [digitBelow?, digitValue?, if_pos hrange, Option.filter_some, if_pos (decide_eq_true hlt)]
  rfl

theorem numberFrom?_of_isDigit {digits : List Char} (h : ∀ c ∈ digits, c.isDigit = true) (n : Nat) :
    numberFrom? 10 n digits = some (Nat.ofDigitChars 10 digits n) := by
  induction digits generalizing n with
  | nil => rfl
  | cons c rest ih =>
    obtain ⟨hc, hrest⟩ := List.forall_mem_cons.1 h
    rw [numberFrom?, digitBelow?_of_isDigit hc]
    show numberFrom? 10 _ rest = _
    rw [ih hrest, Nat.ofDigitChars_cons, Nat.mul_comm]
    rfl

theorem isDigit_of_mem_toDigits {n : Nat} {c : Char} (h : c ∈ Nat.toDigits 10 n) :
    c.isDigit = true :=
  Nat.isDigit_of_mem_toDigits (by decide) (by decide) h

theorem number?_toDigits (n : Nat) : number? 10 (Nat.toDigits 10 n) = some n := by
  rw [number?, numberFrom?_of_isDigit fun _ => isDigit_of_mem_toDigits,
    Nat.ofDigitChars_toDigits (by decide) (by decide)]

theorem decimal_toDigits (n : Nat) : decimal (Nat.toDigits 10 n) = n := by
  rw [decimal, number?_toDigits, Option.getD_some]

theorem digitBelow?_hexDigit {n : Nat} (h : n < 16) : digitBelow? 16 (hexDigit n) = some n := by
  revert n
  decide

end Conformance.Text
