import Conformance.Text.Order
import Conformance.Text.Utf8
import Mathlib.Data.Char
import Mathlib.Data.List.Sort
import Mathlib.Data.String.Basic

/-!
# The order of texts is the order of their octets

Strings are compared character by character, and files and reports are sorted by octets. The two
orders are one: of two characters the smaller has the smaller octets at the first place where their
octets differ, and no character's octets are the start of another's.
-/

namespace Conformance.Text

namespace Utf8

private theorem cons_toUInt8_lt {m n : Nat} {u v : List UInt8} (hm : m < 256) (hn : n < 256) :
    m.toUInt8 :: u < n.toUInt8 :: v ↔ m < n ∨ m = n ∧ u < v := by
  rw [List.cons_lt_cons_iff, UInt8.lt_iff_toNat_lt, ← UInt8.toNat_inj]
  simp only [Nat.toUInt8, UInt8.toNat_ofNat', Nat.reducePow, Nat.mod_eq_of_lt hm,
    Nat.mod_eq_of_lt hn]

theorem encodeChar_append_lt {c d : Char} (h : c < d) (u v : List UInt8) :
    encodeChar c ++ u < encodeChar d ++ v := by
  have hlt : c.val.toNat < d.val.toNat := h
  have hd : d.val.toNat < 0x110000 := by
    rcases d.valid with h | h <;> simp only [UInt32.toNat] at h ⊢ <;> omega
  unfold encodeChar
  generalize c.val.toNat = m at hlt ⊢
  generalize d.val.toNat = n at hlt hd ⊢
  dsimp only
  -- the octets that follow are compared only where the character's own octets agree
  split_ifs <;> simp only [List.cons_append, List.nil_append] <;>
    (repeat rw [cons_toUInt8_lt (by omega) (by omega)]) <;> omega

theorem encodeChar_ne_nil (c : Char) : encodeChar c ≠ [] := by
  unfold encodeChar
  dsimp only
  split_ifs <;> exact List.cons_ne_nil _ _

theorem encode_lt_of_lt {s t : List Char} (h : s < t) : encode s < encode t := by
  induction h with
  | nil =>
    obtain ⟨b, u, hb⟩ := List.exists_cons_of_ne_nil (encodeChar_ne_nil _)
    rw [encode, encode, List.flatMap_nil, List.flatMap_cons, hb]
    exact List.nil_lt_cons _ _
  | rel h => exact encodeChar_append_lt h _ _
  | cons _ ih => exact List.append_left_lt ih

theorem octets_lt_octets {s t : String} : octets s < octets t ↔ s < t := by
  have mono {s t : String} (h : s < t) : octets s < octets t :=
    encode_lt_of_lt (String.lt_iff_toList_lt.1 h)
  refine ⟨fun h => ?_, mono⟩
  rcases lt_trichotomy s t with hlt | rfl | hgt
  · exact hlt
  · exact absurd h (List.lt_irrefl _)
  · exact absurd h (List.lt_asymm (mono hgt))

end Utf8

theorem pairwise_sort (texts : List String) :
    (sort texts).Pairwise fun s t => Utf8.octets s ≤ Utf8.octets t := by
  refine (List.pairwise_mergeSort' (· ≤ ·) texts).imp fun {s t} hle => ?_
  rw [← List.not_lt, Utf8.octets_lt_octets, not_lt]
  exact hle

theorem sort_eq_of_perm {texts texts' : List String} (h : texts.Perm texts') :
    sort texts = sort texts' := by
  have hsort (texts : List String) : (sort texts).Pairwise (· ≤ ·) :=
    List.pairwise_mergeSort' (· ≤ ·) texts
  have hperm : (sort texts).Perm (sort texts') :=
    (List.mergeSort_perm _ _).trans (h.trans (List.mergeSort_perm _ _).symm)
  exact hperm.eq_of_pairwise (fun _ _ _ _ => le_antisymm) (hsort texts) (hsort texts')

end Conformance.Text
