import Conformance.Proofs.Json.Literal
import Conformance.Proofs.Json.Number

/-!
# Reading inverts writing

Every value is read as itself from the text it is written as, in either layout and at any depth,
with a string without a text and a number of any form included. What stands after the value is left
unread, so the statement is proved for a value with something after it that cannot belong to a
number.

Each part of a value is read by its own call, and a call needs a unit of fuel. A part has at least
one character, and an item or a member also a comma or a bracket before it, so twice the length of a
text is fuel enough.
-/

namespace Conformance.Json

/-! ### Gaps -/

theorem isGap_of_startsNumber {c : Char} (h : StartsNumber c) : isGap c = false := by
  rw [Bool.eq_false_iff]
  intro hgap
  simp only [isGap, Bool.or_eq_true, beq_iff_eq] at hgap
  rcases hgap with ((rfl | rfl) | rfl) | rfl <;> exact absurd h (by decide)

theorem skip_cons {c : Char} (h : isGap c = false) (text : List Char) :
    skip (c :: text) = c :: text := by
  rw [skip, List.dropWhile_cons_of_neg (by simp [h])]

theorem skip_gap_append (layout : Layout) (depth : Nat) (text : List Char) :
    skip (layout.gap depth ++ text) = skip text := by
  cases layout with
  | compact => rfl
  | indented =>
    have hspaces : ∀ c ∈ List.replicate (2 * depth) ' ', isGap c = true := by
      intro c hc
      rw [List.eq_of_mem_replicate hc]
      rfl
    show skip ('\n' :: (List.replicate (2 * depth) ' ' ++ text)) = skip text
    rw [skip, List.dropWhile_cons_of_pos rfl, List.dropWhile_append_of_pos hspaces]
    rfl

theorem endsNumber_gap_append (layout : Layout) (depth : Nat) {rest : List Char}
    (h : EndsNumber rest) : EndsNumber (layout.gap depth ++ rest) := by
  cases layout with
  | compact => exact h
  | indented => exact endsNumber_cons (by decide) _

theorem value?_of_skip_eq {text text' : List Char} (h : skip text = skip text') (fuel : Nat) :
    value? fuel text = value? fuel text' := by
  cases fuel with
  | zero => rfl
  | succ fuel => rw [value?, h, ← value?]

theorem value?_gap_append (layout : Layout) (depth fuel : Nat) (text : List Char) :
    value? fuel (layout.gap depth ++ text) = value? fuel text :=
  value?_of_skip_eq (skip_gap_append layout depth text) fuel

/-! ### One step of the reader -/

theorem value?_of_startsNumber (fuel : Nat) {c : Char} (text : List Char) (h : StartsNumber c) :
    value? (fuel + 1) (c :: text)
      = (number? (c :: text)).map fun (n, rest) => (Json.number n, rest) := by
  have hne : c ≠ 'n' ∧ c ≠ 't' ∧ c ≠ 'f' ∧ c ≠ '"' ∧ c ≠ '[' ∧ c ≠ '\x7b' := by
    refine ⟨?_, ?_, ?_, ?_, ?_, ?_⟩ <;> rintro rfl <;> exact absurd h (by decide)
  obtain ⟨hn, ht, hf, hquote, hbracket, hbrace⟩ := hne
  rw [value?, skip_cons (isGap_of_startsNumber h)]
  split
  · next heq => exact absurd (List.cons.inj heq).1 hn
  · next heq => exact absurd (List.cons.inj heq).1 ht
  · next heq => exact absurd (List.cons.inj heq).1 hf
  · next heq => exact absurd (List.cons.inj heq).1 hquote
  · next heq => exact absurd (List.cons.inj heq).1 hbracket
  · next heq => exact absurd (List.cons.inj heq).1 hbrace
  · rfl

theorem value?_array (layout : Layout) (depth fuel : Nat) {c : Char} (text : List Char)
    (hgap : isGap c = false) (hc : c ≠ ']') :
    value? (fuel + 1) ('[' :: (layout.gap depth ++ c :: text))
      = (items? fuel (c :: text)).map fun (items, rest) => (Json.array items, rest) := by
  rw [value?, skip_cons rfl]
  simp only [skip_gap_append, skip_cons hgap]
  split
  · next heq => exact absurd (List.cons.inj heq).1 hc
  · rfl

theorem value?_object (layout : Layout) (depth fuel : Nat) (text : List Char) :
    value? (fuel + 1) ('\x7b' :: (layout.gap depth ++ '"' :: text))
      = (members? fuel ('"' :: text)).map fun (members, rest) => (Json.object members, rest) := by
  have hquote : skip ('"' :: text) = '"' :: text := skip_cons rfl text
  rw [value?, skip_cons rfl]
  simp only [skip_gap_append, hquote]
  rfl

/-- What is read after an item: no item more, or a comma and one item or more. -/
def moreItems? (fuel : Nat) (text : List Char) : Option (List Json × List Char) :=
  match skip text with
  | ']' :: rest => some ([], rest)
  | ',' :: rest => items? fuel rest
  | _ => none

theorem items?_succ (fuel : Nat) (text : List Char) :
    items? (fuel + 1) text = (value? fuel text).bind fun (item, rest) =>
      (moreItems? fuel rest).map fun (items, rest) => (item :: items, rest) := by
  rw [items?]
  rcases value? fuel text with _ | ⟨item, rest⟩
  · rfl
  · simp only [moreItems?, Option.bind_some]
    split <;> simp [*]

theorem moreItems?_close (layout : Layout) (depth fuel : Nat) (rest : List Char) :
    moreItems? fuel (layout.gap depth ++ ']' :: rest) = some ([], rest) := by
  rw [moreItems?, skip_gap_append, skip_cons rfl]
  rfl

theorem moreItems?_comma (layout : Layout) (depth fuel : Nat) (text : List Char) :
    moreItems? (fuel + 1) (',' :: (layout.gap depth ++ text)) = items? (fuel + 1) text := by
  rw [moreItems?, skip_cons rfl]
  show items? (fuel + 1) _ = _
  rw [items?_succ, items?_succ, value?_gap_append]

/-- What is read after a member: no member more, or a comma and one member or more. -/
def moreMembers? (fuel : Nat) (text : List Char) :
    Option (List (Option String × Json) × List Char) :=
  match skip text with
  | '\x7d' :: rest => some ([], rest)
  | ',' :: rest => members? fuel rest
  | _ => none

theorem members?_succ (fuel : Nat) {text inside after : List Char} {name : Option String}
    (htext : skip text = '"' :: inside) (hname : Literal.read inside = some (name, ':' :: after)) :
    members? (fuel + 1) text = (value? fuel after).bind fun (value, rest) =>
      (moreMembers? fuel rest).map fun (members, rest) => ((name, value) :: members, rest) := by
  have hcolon : skip (':' :: after) = ':' :: after := skip_cons rfl after
  rw [members?, htext]
  simp only [hname, hcolon]
  rcases value? fuel after with _ | ⟨value, rest⟩
  · rfl
  · simp only [moreMembers?, Option.bind_some]
    split <;> simp [*]

theorem members?_render (layout : Layout) (fuel : Nat) {inside : List Char} {name : Option String}
    (hname : ∀ rest, Literal.read (inside ++ rest) = some (name, rest)) (text : List Char) :
    members? (fuel + 1) ('"' :: (inside ++ (layout.colon ++ text)))
      = (value? fuel text).bind fun (value, rest) =>
        (moreMembers? fuel rest).map fun (members, rest) => ((name, value) :: members, rest) := by
  cases layout with
  | compact => exact members?_succ fuel (skip_cons rfl _) (hname _)
  | indented =>
    have hskip : skip (' ' :: text) = skip text := rfl
    rw [← value?_of_skip_eq hskip]
    exact members?_succ fuel (skip_cons rfl _) (hname _)

theorem moreMembers?_close (layout : Layout) (depth fuel : Nat) (rest : List Char) :
    moreMembers? fuel (layout.gap depth ++ '\x7d' :: rest) = some ([], rest) := by
  rw [moreMembers?, skip_gap_append, skip_cons rfl]
  rfl

theorem moreMembers?_comma (layout : Layout) (depth fuel : Nat) (text : List Char) :
    moreMembers? fuel (',' :: (layout.gap depth ++ text)) = members? fuel text := by
  rw [moreMembers?, skip_cons rfl]
  cases fuel with
  | zero => rfl
  | succ fuel =>
    show members? (fuel + 1) _ = _
    simp only [members?, skip_gap_append]

/-! ### Values -/

theorem exists_render_eq_cons (layout : Layout) (depth : Nat) (value : Json) :
    ∃ c text, value.render layout depth = c :: text ∧ isGap c = false ∧ c ≠ ']' := by
  cases value with
  | null => exact ⟨_, _, rfl, rfl, by decide⟩
  | bool b => cases b <;> exact ⟨_, _, rfl, rfl, by decide⟩
  | number n =>
    obtain ⟨c, text, heq, hc⟩ := n.exists_write_eq_cons
    exact ⟨c, text, heq, isGap_of_startsNumber hc, by rintro rfl; exact absurd hc (by decide)⟩
  | string t =>
    obtain ⟨inside, heq, -⟩ := writeText_eq_cons t
    exact ⟨_, _, heq, rfl, by decide⟩
  | array items => cases items <;> exact ⟨_, _, rfl, rfl, by decide⟩
  | object members =>
    rcases members with _ | ⟨⟨name, value⟩, rest⟩ <;> exact ⟨_, _, rfl, rfl, by decide⟩

theorem length_render_pos (layout : Layout) (depth : Nat) (value : Json) :
    0 < (value.render layout depth).length := by
  obtain ⟨c, text, heq, -⟩ := exists_render_eq_cons layout depth value
  rw [heq]
  exact Nat.succ_pos _

section Rest

variable (layout : Layout) (depth outer : Nat) (rest : List Char)

theorem endsNumber_renderItems (items : List Json) :
    EndsNumber (renderItems layout depth items ++ (layout.gap outer ++ ']' :: rest)) := by
  cases items with
  | nil => exact endsNumber_gap_append layout outer (endsNumber_cons (by decide) rest)
  | cons item items => exact endsNumber_cons (by decide) _

theorem endsNumber_renderMembers (members : List (Option String × Json)) :
    EndsNumber (renderMembers layout depth members ++ (layout.gap outer ++ '\x7d' :: rest)) := by
  cases members with
  | nil => exact endsNumber_gap_append layout outer (endsNumber_cons (by decide) rest)
  | cons member members => exact endsNumber_cons (by decide) _

end Rest

variable (layout : Layout)

mutual

theorem value?_render (depth : Nat) : ∀ (value : Json) (fuel : Nat) (rest : List Char),
    2 * (value.render layout depth).length ≤ fuel → EndsNumber rest →
      value? fuel (value.render layout depth ++ rest) = some (value, rest)
  | .null, fuel + 1, rest, _, _ => by
    rw [render, value?]
    rfl
  | .bool true, fuel + 1, rest, _, _ => by
    rw [render, value?]
    rfl
  | .bool false, fuel + 1, rest, _, _ => by
    rw [render, value?]
    rfl
  | .number n, fuel + 1, rest, _, h => by
    obtain ⟨c, text, heq, hc⟩ := n.exists_write_eq_cons
    have hread := number?_write n h
    rw [heq, List.cons_append] at hread
    rw [render, heq, List.cons_append, value?_of_startsNumber fuel _ hc, hread, Option.map_some]
  | .string t, fuel + 1, rest, _, _ => by
    obtain ⟨inside, heq, hread⟩ := writeText_eq_cons t
    rw [render, heq, List.cons_append, value?, skip_cons rfl]
    simp only [hread, Option.map_some]
  | .array [], fuel + 1, rest, _, _ => by
    rw [render, value?]
    rfl
  | .array (item :: items), fuel + 2, rest, hfuel, _ => by
    obtain ⟨c, text, heq, hgap, hclose⟩ := exists_render_eq_cons layout (depth + 1) item
    simp only [render, List.length_append, List.length_cons] at hfuel
    have hafter := endsNumber_renderItems layout (depth + 1) depth rest items
    have hitem := value?_render (depth + 1) item fuel _ (by omega) hafter
    have hitems := moreItems?_renderItems (depth + 1) items depth fuel rest (by omega)
    simp only [heq, List.cons_append] at hitem
    simp only [render, heq, List.cons_append, List.append_assoc, List.nil_append]
    rw [value?_array layout _ _ _ hgap hclose, items?_succ, hitem]
    simp only [Option.bind_some, hitems, Option.map_some]
  | .object [], fuel + 1, rest, _, _ => by
    rw [render, value?]
    rfl
  | .object ((name, value) :: members), fuel + 2, rest, hfuel, _ => by
    obtain ⟨inside, heq, hname⟩ := writeText_eq_cons name
    simp only [render, List.length_append, List.length_cons] at hfuel
    have hafter := endsNumber_renderMembers layout (depth + 1) depth rest members
    have hvalue := value?_render (depth + 1) value fuel _ (by omega) hafter
    have hmembers := moreMembers?_renderMembers (depth + 1) members depth fuel rest (by omega)
    simp only [render, heq, List.cons_append, List.append_assoc, List.nil_append]
    rw [value?_object, members?_render layout fuel hname, hvalue]
    simp only [Option.bind_some, hmembers, Option.map_some]
  | value, 0, _, hfuel, _ => by
    have := length_render_pos layout depth value
    omega
  | .array (_ :: _), 1, _, hfuel, _ => by
    simp only [render, List.length_append, List.length_cons] at hfuel
    omega
  | .object (_ :: _), 1, _, hfuel, _ => by
    simp only [render, List.length_append, List.length_cons] at hfuel
    omega

theorem moreItems?_renderItems (depth : Nat) : ∀ (items : List Json) (outer fuel : Nat)
    (rest : List Char), 2 * (renderItems layout depth items).length ≤ fuel →
      moreItems? fuel (renderItems layout depth items ++ (layout.gap outer ++ ']' :: rest))
        = some (items, rest)
  | [], outer, fuel, rest, _ => moreItems?_close layout outer fuel rest
  | item :: items, outer, fuel + 1, rest, hfuel => by
    simp only [renderItems, List.length_append, List.length_cons] at hfuel
    have hafter := endsNumber_renderItems layout depth outer rest items
    have hitem := value?_render depth item fuel _ (by omega) hafter
    have hitems := moreItems?_renderItems depth items outer fuel rest (by omega)
    simp only [renderItems, List.cons_append, List.append_assoc]
    rw [moreItems?_comma, items?_succ, hitem]
    simp only [Option.bind_some, hitems, Option.map_some]
  | _ :: _, _, 0, _, hfuel => by
    simp only [renderItems, List.length_append, List.length_cons] at hfuel
    omega

theorem moreMembers?_renderMembers (depth : Nat) : ∀ (members : List (Option String × Json))
    (outer fuel : Nat) (rest : List Char),
    2 * (renderMembers layout depth members).length ≤ fuel →
      moreMembers? fuel (renderMembers layout depth members ++ (layout.gap outer ++ '\x7d' :: rest))
        = some (members, rest)
  | [], outer, fuel, rest, _ => moreMembers?_close layout outer fuel rest
  | (name, value) :: members, outer, fuel + 1, rest, hfuel => by
    obtain ⟨inside, heq, hname⟩ := writeText_eq_cons name
    simp only [renderMembers, List.length_append, List.length_cons] at hfuel
    have hafter := endsNumber_renderMembers layout depth outer rest members
    have hvalue := value?_render depth value fuel _ (by omega) hafter
    have hmembers := moreMembers?_renderMembers depth members outer fuel rest (by omega)
    simp only [renderMembers, heq, List.cons_append, List.append_assoc]
    rw [moreMembers?_comma, members?_render layout fuel hname, hvalue]
    simp only [Option.bind_some, hmembers, Option.map_some]
  | _ :: _, _, 0, _, hfuel => by
    simp only [renderMembers, List.length_append, List.length_cons] at hfuel
    omega

end

theorem read_render (depth : Nat) (value : Json) :
    read (value.render layout depth) = some value := by
  have h := value?_render layout depth value (2 * (value.render layout depth).length + 2) []
    (by omega) endsNumber_nil
  rw [List.append_nil] at h
  rw [read, h]
  rfl

end Conformance.Json
