import Conformance.Text.Utf8
import Mathlib.Data.Char
import Mathlib.Data.List.Basic

/-!
# Reading what was encoded, and where texts can be cut

The octets of a character are read as that character from between characters on, whatever follows
them, so a text is decoded as itself. An octet of an ASCII character ends whatever stands before it,
well-formed or not, because every octet that continues a character is greater. So what stands on the
two sides of a line feed or of a slash is read apart.
-/

namespace Conformance.Text.Utf8

theorem itemsFrom_cons (found : List Item) (state : State) (b : UInt8) (rest : List UInt8) :
    itemsFrom found state (b :: rest)
      = itemsFrom ((step state b).1.reverse ++ found) (step state b).2 rest := rfl

theorem itemsFrom_eq_append (found : List Item) (state : State) (octets : List UInt8) :
    itemsFrom found state octets = found.reverse ++ itemsFrom [] state octets := by
  induction octets generalizing found state with
  | nil => rfl
  | cons b rest ih =>
    rw [itemsFrom_cons, ih, itemsFrom_cons, ih ((step state b).1.reverse ++ [])]
    simp

/-! ### The octets of one character -/

theorem start_one : ∀ v < 0x80, start v.toUInt8 = ([some (Char.ofNat v)], .between) := by
  decide

theorem start_two :
    ∀ v < 0x20, 2 ≤ v → start (0xc0 + v).toUInt8 = ([], .inside 0 v 0x80 0xbf) := by
  decide

theorem start_three : ∀ v < 0x10, start (0xe0 + v).toUInt8
    = ([], .inside 1 v (if v = 0 then 0xa0 else 0x80) (if v = 0xd then 0x9f else 0xbf)) := by
  decide

theorem start_four : ∀ v < 0x5, start (0xf0 + v).toUInt8
    = ([], .inside 2 v (if v = 0 then 0x90 else 0x80) (if v = 4 then 0x8f else 0xbf)) := by
  decide

/-- The state once an octet with `n` in it has continued a character. -/
private def continued (value n : Nat) : Nat → List Item × State
  | 0 => ([some (Char.ofNat (value * 0x40 + n))], .between)
  | owed + 1 => ([], .inside owed (value * 0x40 + n) 0x80 0xbf)

private theorem step_inside {owed value n : Nat} {low high : UInt8} (hn : n < 0x40)
    (hlow : low.toNat ≤ 0x80 + n) (hhigh : 0x80 + n ≤ high.toNat) :
    step (.inside owed value low high) (0x80 + n).toUInt8 = continued value n owed := by
  have hnat : (0x80 + n).toUInt8.toNat = 0x80 + n := by
    rw [Nat.toUInt8, UInt8.toNat_ofNat']
    omega
  have hin : low ≤ (0x80 + n).toUInt8 ∧ (0x80 + n).toUInt8 ≤ high := by
    rw [UInt8.le_iff_toNat_le, UInt8.le_iff_toNat_le, hnat]
    exact ⟨hlow, hhigh⟩
  rw [step, if_pos hin, hnat, Nat.add_sub_cancel_left]
  cases owed <;> rfl

private theorem step_inside_full {owed value n : Nat} (hn : n < 0x40) :
    step (.inside owed value 0x80 0xbf) (0x80 + n).toUInt8 = continued value n owed :=
  step_inside hn (Nat.le_add_right _ _) (show 0x80 + n ≤ 0xbf by omega)

theorem itemsFrom_encodeChar (c : Char) (found : List Item) (rest : List UInt8) :
    itemsFrom found .between (encodeChar c ++ rest)
      = itemsFrom (some c :: found) .between rest := by
  have hvalid : c.val.toNat < 0xd800 ∨ 0xdfff < c.val.toNat ∧ c.val.toNat < 0x110000 := c.valid
  have hc : Char.ofNat c.val.toNat = c := Char.ofNat_toNat c
  rw [encodeChar]
  generalize c.val.toNat = v at hvalid hc ⊢
  split_ifs with h1 h2 h3
  · rw [List.singleton_append, itemsFrom_cons, step, start_one v h1, hc]
    rfl
  · have hvalue : v / 0x40 * 0x40 + v % 0x40 = v := by omega
    rw [List.cons_append, List.singleton_append, itemsFrom_cons, step,
      start_two (v / 0x40) (by omega) (by omega), itemsFrom_cons, step_inside_full (by omega),
      continued, hvalue, hc]
    rfl
  · have hvalue : (v / 0x1000 * 0x40 + v / 0x40 % 0x40) * 0x40 + v % 0x40 = v := by omega
    rw [List.cons_append, List.cons_append, List.singleton_append, itemsFrom_cons, step,
      start_three (v / 0x1000) (by omega), itemsFrom_cons, step_inside (by omega), continued,
      itemsFrom_cons, step_inside_full (by omega), continued, hvalue, hc]
    · rfl
    -- no character is written with more octets than it needs, and none is a surrogate
    · split_ifs
      · show 0xa0 ≤ _
        omega
      · show 0x80 ≤ _
        omega
    · split_ifs
      · show _ ≤ 0x9f
        omega
      · show _ ≤ 0xbf
        omega
  · have hvalue : ((v / 0x40000 * 0x40 + v / 0x1000 % 0x40) * 0x40 + v / 0x40 % 0x40) * 0x40
        + v % 0x40 = v := by omega
    rw [List.cons_append, List.cons_append, List.cons_append, List.singleton_append,
      itemsFrom_cons, step, start_four (v / 0x40000) (by omega), itemsFrom_cons,
      step_inside (by omega), continued, itemsFrom_cons, step_inside_full (by omega), continued,
      itemsFrom_cons, step_inside_full (by omega), continued, hvalue, hc]
    · rfl
    · split_ifs
      · show 0x90 ≤ _
        omega
      · show 0x80 ≤ _
        omega
    · split_ifs
      · show _ ≤ 0x8f
        omega
      · show _ ≤ 0xbf
        omega

/-! ### Texts -/

theorem items_encode_append (text : List Char) (rest : List UInt8) :
    items (encode text ++ rest) = text.map some ++ items rest := by
  induction text with
  | nil => rfl
  | cons c text ih =>
    have hcons : encode (c :: text) ++ rest = encodeChar c ++ (encode text ++ rest) := by
      rw [encode, List.flatMap_cons, List.append_assoc, encode]
    rw [hcons, items, itemsFrom_encodeChar, itemsFrom_eq_append]
    exact congrArg (some c :: ·) ih

theorem items_encode (text : List Char) : items (encode text) = text.map some := by
  have h := items_encode_append text []
  rwa [List.append_nil, show items [] = [] from rfl, List.append_nil] at h

/-- A text is decoded from its octets. -/
theorem decode_encode (text : List Char) : decode (encode text) = some text := by
  rw [decode, items_encode, List.mapM_map]
  exact (List.mapM_pure).trans (congrArg some (List.map_id text))

theorem lossy_encode_append (text : List Char) (rest : List UInt8) :
    lossy (encode text ++ rest) = text ++ lossy rest := by
  rw [lossy, items_encode_append, List.map_append, List.map_map]
  exact congrArg (· ++ lossy rest) (List.map_id text)

theorem lossy_encode (text : List Char) : lossy (encode text) = text := by
  have h := lossy_encode_append text []
  rwa [List.append_nil, show lossy [] = [] from rfl, List.append_nil] at h

@[simp] theorem lossyText_octets (s : String) : lossyText (octets s) = s := by
  rw [lossyText, octets, lossy_encode, String.ofList_toList]

@[simp] theorem text?_octets (s : String) : text? (octets s) = some s := by
  rw [text?, octets, decode_encode, Option.map_some, String.ofList_toList]

theorem octets_injective : Function.Injective octets := fun s t h => by
  rw [← lossyText_octets s, h, lossyText_octets]

theorem octets_eq_nil_iff {s : String} : octets s = [] ↔ s = "" :=
  ⟨fun h => octets_injective h, fun h => h ▸ rfl⟩

/-! ### Cuts -/

/-- What continues a character is no ASCII character. -/
def State.Sound : State → Prop
  | .between => True
  | .inside _ _ low _ => 0x80 ≤ low

theorem sound_start (b : UInt8) : (start b).2.Sound := by
  rw [start]
  split_ifs <;> simp [State.Sound]

theorem sound_step {state : State} (h : state.Sound) (b : UInt8) : (step state b).2.Sound := by
  cases state with
  | between => exact sound_start b
  | inside owed value low high =>
    rw [step]
    split_ifs
    · cases owed with
      | zero => trivial
      | succ owed => exact (by decide : (0x80 : UInt8) ≤ 0x80)
    · exact sound_start b

/-- An ASCII character is read in every state, after what was broken off by it. -/
theorem step_of_lt {state : State} (h : state.Sound) {b : UInt8} (hb : b.toNat < 0x80) :
    step state b = (finish state ++ [some (Char.ofNat b.toNat)], .between) := by
  have hstart : start b = ([some (Char.ofNat b.toNat)], .between) := if_pos hb
  cases state with
  | between => exact hstart
  | inside owed value low high =>
    have hlow : ¬ (low ≤ b ∧ b ≤ high) := fun hin => by
      have hle := UInt8.le_iff_toNat_le.1 (show 0x80 ≤ low from h)
      have hle' := UInt8.le_iff_toNat_le.1 hin.1
      have h80 : (0x80 : UInt8).toNat = 0x80 := rfl
      omega
    rw [step, if_neg hlow, hstart]
    rfl

theorem items_append_cons (u rest : List UInt8) {b : UInt8} (hb : b.toNat < 0x80) :
    items (u ++ b :: rest) = items u ++ some (Char.ofNat b.toNat) :: items rest := by
  have hfrom (state : State) (h : state.Sound) : itemsFrom [] state (u ++ b :: rest)
      = itemsFrom [] state u ++ some (Char.ofNat b.toNat) :: items rest := by
    induction u generalizing state with
    | nil =>
      rw [List.nil_append, itemsFrom_cons, step_of_lt h hb, itemsFrom_eq_append, itemsFrom, items]
      simp
    | cons b' u ih =>
      have hfound := itemsFrom_eq_append ((step state b').1.reverse ++ []) (step state b').2
      rw [List.cons_append, itemsFrom_cons, itemsFrom_cons, hfound, hfound,
        ih _ (sound_step h b'), List.append_assoc]
  exact hfrom .between trivial

/-- Octets are read apart on the two sides of an ASCII character. -/
theorem lossy_append_cons (u rest : List UInt8) {b : UInt8} (hb : b.toNat < 0x80) :
    lossy (u ++ b :: rest) = lossy u ++ Char.ofNat b.toNat :: lossy rest := by
  rw [lossy, items_append_cons u rest hb, List.map_append, List.map_cons]
  rfl

theorem lossy_append_lf (u rest : List UInt8) :
    lossy (u ++ 0x0a :: rest) = lossy u ++ '\n' :: lossy rest :=
  lossy_append_cons u rest (by decide)

/-- The octets are none, or end with a line feed. -/
def Ended (octets : List UInt8) : Prop := octets = [] ∨ ∃ u, octets = u ++ [0x0a]

end Conformance.Text.Utf8
