import Conformance.Proofs.Text.Utf8

/-!
# Only encoded texts are decoded

Inside a character the reader is at a proper start of one, and every run of octets that it would
take as the rest of it makes the whole the encoding of the character it then gives. So octets
without an ill-formed part are the encoding of the characters they are read as: none is written
with more octets than it needs, and no surrogate is taken for a character.
-/

namespace Conformance.Text.Utf8

/-- Inside a character after the octets `read`: with whatever the reader takes as the rest of it
they are the encoding of the character it gives. -/
private def Owes (read : List UInt8) : Nat → Nat → UInt8 → UInt8 → Prop
  | 0, value, low, high => 0x80 ≤ low.toNat ∧ high.toNat < 0xc0 ∧
    ∀ n, low.toNat ≤ 0x80 + n → 0x80 + n ≤ high.toNat →
      read ++ [(0x80 + n).toUInt8] = encodeChar (Char.ofNat (value * 0x40 + n))
  | owed + 1, value, low, high => 0x80 ≤ low.toNat ∧ high.toNat < 0xc0 ∧
    ∀ n, low.toNat ≤ 0x80 + n → 0x80 + n ≤ high.toNat →
      Owes (read ++ [(0x80 + n).toUInt8]) owed (value * 0x40 + n) 0x80 0xbf

/-- The octets `read` of a character led from between characters to the state. -/
private def Begun (read : List UInt8) : State → Prop
  | .between => read = []
  | .inside owed value low high => Owes read owed value low high

/-! ### Characters by their number -/

private theorem toNat_val_ofNat {v : Nat} (hv : v < 0xd800 ∨ 0xdfff < v ∧ v < 0x110000) :
    (Char.ofNat v).val.toNat = v := by
  rw [Char.ofNat, dif_pos hv]
  rfl

private theorem encodeChar_two {a n : Nat} (ha : 2 ≤ a) (ha' : a < 0x20) (hn : n < 0x40) :
    encodeChar (Char.ofNat (a * 0x40 + n)) = [(0xc0 + a).toUInt8, (0x80 + n).toUInt8] := by
  generalize hv : a * 0x40 + n = v
  have hfirst : v / 0x40 = a := by omega
  have hsecond : v % 0x40 = n := by omega
  rw [encodeChar, toNat_val_ofNat (by omega), if_neg (by omega), if_pos (by omega), hfirst, hsecond]

private theorem encodeChar_three {a n m : Nat} (ha : a < 0x10) (hn : n < 0x40) (hm : m < 0x40)
    (hshort : 0x20 ≤ a * 0x40 + n) (hsurrogate : a = 0xd → n < 0x20) :
    encodeChar (Char.ofNat ((a * 0x40 + n) * 0x40 + m))
      = [(0xe0 + a).toUInt8, (0x80 + n).toUInt8, (0x80 + m).toUInt8] := by
  generalize hv : (a * 0x40 + n) * 0x40 + m = v
  have hfirst : v / 0x1000 = a := by omega
  have hsecond : v / 0x40 % 0x40 = n := by omega
  have hthird : v % 0x40 = m := by omega
  rw [encodeChar, toNat_val_ofNat (by omega), if_neg (by omega), if_neg (by omega),
    if_pos (by omega), hfirst, hsecond, hthird]

private theorem encodeChar_four {a n m k : Nat} (hn : n < 0x40) (hm : m < 0x40) (hk : k < 0x40)
    (hshort : 0x10 ≤ a * 0x40 + n) (hlong : a * 0x40 + n < 0x110) :
    encodeChar (Char.ofNat (((a * 0x40 + n) * 0x40 + m) * 0x40 + k))
      = [(0xf0 + a).toUInt8, (0x80 + n).toUInt8, (0x80 + m).toUInt8, (0x80 + k).toUInt8] := by
  generalize hv : ((a * 0x40 + n) * 0x40 + m) * 0x40 + k = v
  have hfirst : v / 0x40000 = a := by omega
  have hsecond : v / 0x1000 % 0x40 = n := by omega
  have hthird : v / 0x40 % 0x40 = m := by omega
  have hfourth : v % 0x40 = k := by omega
  rw [encodeChar, toNat_val_ofNat (by omega), if_neg (by omega), if_neg (by omega),
    if_neg (by omega), hfirst, hsecond, hthird, hfourth]

/-! ### First octets -/

private theorem toUInt8_eq {b : UInt8} {v : Nat} (h : b.toNat = v) : v.toUInt8 = b := by
  rw [← h]
  exact UInt8.ofNat_toNat

private theorem begun_two {b : UInt8} {a : Nat} (hb : b.toNat = 0xc0 + a) (ha : 2 ≤ a)
    (ha' : a < 0x20) : Begun [b] (.inside 0 a 0x80 0xbf) := by
  refine ⟨Nat.le_refl _, by decide, fun n _ hn => ?_⟩
  have hn : n < 0x40 := by have : 0x80 + n ≤ 0xbf := hn; omega
  rw [encodeChar_two ha ha' hn, toUInt8_eq hb]
  rfl

private theorem begun_three {b low high : UInt8} {a : Nat} (hb : b.toNat = 0xe0 + a) (ha : a < 0x10)
    (hlow : 0x80 ≤ low.toNat) (hhigh : high.toNat < 0xc0) (hshort : a = 0 → 0xa0 ≤ low.toNat)
    (hsurrogate : a = 0xd → high.toNat < 0xa0) : Begun [b] (.inside 1 a low high) := by
  refine ⟨hlow, hhigh, fun n hn hn' => ⟨Nat.le_refl _, by decide, fun m _ hm => ?_⟩⟩
  have hm : m < 0x40 := by have : 0x80 + m ≤ 0xbf := hm; omega
  rw [encodeChar_three ha (by omega) hm (by omega) (by omega), toUInt8_eq hb]
  rfl

private theorem begun_four {b low high : UInt8} {a : Nat} (hb : b.toNat = 0xf0 + a) (ha : a < 0x5)
    (hlow : 0x80 ≤ low.toNat) (hhigh : high.toNat < 0xc0) (hshort : a = 0 → 0x90 ≤ low.toNat)
    (hlong : a = 4 → high.toNat < 0x90) : Begun [b] (.inside 2 a low high) := by
  refine ⟨hlow, hhigh, fun n hn hn' => ⟨Nat.le_refl _, by decide, fun m _ hm =>
    ⟨Nat.le_refl _, by decide, fun k _ hk => ?_⟩⟩⟩
  have hm : m < 0x40 := by have : 0x80 + m ≤ 0xbf := hm; omega
  have hk : k < 0x40 := by have : 0x80 + k ≤ 0xbf := hk; omega
  rw [encodeChar_four (by omega) hm hk (by omega) (by omega), toUInt8_eq hb]
  rfl

private theorem start_none :
    ∀ v < 0x100, 0x80 ≤ v ∧ v < 0xc2 ∨ 0xf5 ≤ v → start v.toUInt8 = ([none], .between) := by
  decide +kernel

/-- A first octet is a character, no part of one, or the start of one. -/
private theorem start_cases (b : UInt8) :
    (∃ c, start b = ([some c], .between) ∧ [b] = encodeChar c) ∨ start b = ([none], .between) ∨
      ∃ state, start b = ([], state) ∧ Begun [b] state := by
  have hb : b.toNat < 0x100 := b.toNat_lt
  by_cases hascii : b.toNat < 0x80
  · have hstart := start_one b.toNat hascii
    rw [toUInt8_eq rfl] at hstart
    refine .inl ⟨_, hstart, ?_⟩
    rw [encodeChar, toNat_val_ofNat (by omega), if_pos hascii, toUInt8_eq rfl]
  by_cases hnone : b.toNat < 0xc2 ∨ 0xf5 ≤ b.toNat
  · have hstart := start_none b.toNat hb (by omega)
    rw [toUInt8_eq rfl] at hstart
    exact .inr (.inl hstart)
  by_cases htwo : b.toNat < 0xe0
  · obtain ⟨a, ha⟩ := Nat.exists_eq_add_of_le (show 0xc0 ≤ b.toNat by omega)
    have hstart := start_two a (by omega) (by omega)
    rw [toUInt8_eq ha] at hstart
    exact .inr (.inr ⟨_, hstart, begun_two ha (by omega) (by omega)⟩)
  by_cases hthree : b.toNat < 0xf0
  · obtain ⟨a, ha⟩ := Nat.exists_eq_add_of_le (show 0xe0 ≤ b.toNat by omega)
    have hstart := start_three a (by omega)
    rw [toUInt8_eq ha] at hstart
    exact .inr (.inr ⟨_, hstart, begun_three ha (by omega) (by split_ifs <;> decide)
      (by split_ifs <;> decide) (by rintro rfl; decide) (by rintro rfl; decide)⟩)
  · obtain ⟨a, ha⟩ := Nat.exists_eq_add_of_le (show 0xf0 ≤ b.toNat by omega)
    have hstart := start_four a (by omega)
    rw [toUInt8_eq ha] at hstart
    exact .inr (.inr ⟨_, hstart, begun_four ha (by omega) (by split_ifs <;> decide)
      (by split_ifs <;> decide) (by rintro rfl; decide) (by rintro rfl; decide)⟩)

/-- An octet completes a character, leaves an ill-formed part behind, or goes on with a character.
-/
private theorem step_cases {read : List UInt8} {state : State} (h : Begun read state) (b : UInt8) :
    (∃ c, step state b = ([some c], .between) ∧ read ++ [b] = encodeChar c) ∨
      none ∈ (step state b).1 ∨
        ∃ state', step state b = ([], state') ∧ Begun (read ++ [b]) state' := by
  cases state with
  | between =>
    cases (show read = [] from h)
    rcases start_cases b with hchar | hnone | hbegun
    · exact .inl hchar
    · exact .inr (.inl (by rw [step, hnone]; exact List.mem_singleton_self none))
    · exact .inr (.inr hbegun)
  | inside owed value low high =>
    rw [step]
    split_ifs with hin
    · have hlow := UInt8.le_iff_toNat_le.1 hin.1
      have hhigh := UInt8.le_iff_toNat_le.1 hin.2
      cases owed with
      | zero =>
        obtain ⟨h80, hc0, hread⟩ := h
        have hread := hread (b.toNat - 0x80) (by omega) (by omega)
        rw [toUInt8_eq (b := b) (by omega)] at hread
        exact .inl ⟨_, rfl, hread⟩
      | succ owed =>
        obtain ⟨h80, hc0, hread⟩ := h
        have hread := hread (b.toNat - 0x80) (by omega) (by omega)
        rw [toUInt8_eq (b := b) (by omega)] at hread
        exact .inr (.inr ⟨_, rfl, hread⟩)
    · exact .inr (.inl List.mem_cons_self)

/-! ### Texts -/

private theorem encode_of_itemsFrom {state : State} {read octets : List UInt8} {text : List Char}
    (h : Begun read state) (hitems : itemsFrom [] state octets = text.map some) :
    read ++ octets = encode text := by
  -- what was read of a character goes into `read` until the character is complete
  induction octets generalizing state read text with
  | nil =>
    cases state with
    | between =>
      cases List.map_eq_nil_iff.1 hitems.symm
      rw [show read = [] from h]
      rfl
    | inside owed value low high =>
      have hnone : none ∈ text.map some := hitems ▸ List.mem_singleton_self none
      simp at hnone
  | cons b rest ih =>
    rw [itemsFrom_cons, itemsFrom_eq_append, List.append_nil, List.reverse_reverse] at hitems
    rcases step_cases h b with ⟨c, hstep, hc⟩ | hnone | ⟨state', hstep, hbegun⟩
    · rw [hstep, List.singleton_append] at hitems
      obtain ⟨_, text, rfl, heq, hmap⟩ := List.map_eq_cons_iff.1 hitems.symm
      cases heq
      have hrest : [] ++ rest = encode text := ih (show Begun [] .between from rfl) hmap.symm
      rw [List.append_cons, hc, ← List.nil_append rest, hrest]
      rfl
    · have hnone : none ∈ text.map some := hitems ▸ List.mem_append_left _ hnone
      simp at hnone
    · rw [hstep, List.nil_append] at hitems
      rw [List.append_cons, ih hbegun hitems]

theorem mapM_id_eq_some_iff {items : List Item} {text : List Char} :
    items.mapM id = some text ↔ items = text.map some := by
  induction items generalizing text with
  | nil => cases text <;> simp
  | cons item items ih =>
    cases item with
    | none => cases text <;> simp
    | some c => cases text <;> simp [Option.bind_eq_some_iff, ih, and_comm]

/-- The octets that are decoded are those of texts. -/
theorem decode_eq_some_iff {octets : List UInt8} {text : List Char} :
    decode octets = some text ↔ octets = encode text := by
  constructor
  · intro h
    exact encode_of_itemsFrom (show Begun [] .between from rfl) (mapM_id_eq_some_iff.1 h)
  · rintro rfl
    exact decode_encode text

theorem text?_eq_some_iff {octets' : List UInt8} {text : String} :
    text? octets' = some text ↔ octets' = octets text := by
  constructor
  · intro h
    obtain ⟨chars, hdecode, rfl⟩ := Option.map_eq_some_iff.1 h
    rw [decode_eq_some_iff.1 hdecode, octets, String.toList_ofList]
  · rintro rfl
    exact text?_octets text

end Conformance.Text.Utf8
