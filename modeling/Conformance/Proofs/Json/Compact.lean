import Conformance.Proofs.Json.Literal
import Conformance.Proofs.Json.Number

/-!
# A compact value stands on one line

Control characters are escaped in literals, and the compact layout puts none between the parts of a
value. So the text of a compact value has none, and in particular no line feed.
-/

namespace Conformance.Json

/-- The text has no control characters below U+0020. -/
def Plain (text : List Char) : Prop := ∀ c ∈ text, 0x20 ≤ c.val

instance (text : List Char) : Decidable (Plain text) :=
  List.decidableBAll (fun c : Char => 0x20 ≤ c.val) text

theorem Plain.append {u v : List Char} (hu : Plain u) (hv : Plain v) : Plain (u ++ v) :=
  List.forall_mem_append.2 ⟨hu, hv⟩

theorem Plain.cons {c : Char} {text : List Char} (hc : 0x20 ≤ c.val) (h : Plain text) :
    Plain (c :: text) := List.forall_mem_cons.2 ⟨hc, h⟩

theorem plain_digits (n : Nat) : Plain (digits n) := by
  intro c hc
  have hdigit := isDigit_of_mem_digits hc
  rw [Char.isDigit, Bool.and_eq_true, decide_eq_true_eq] at hdigit
  exact UInt32.le_trans (by decide) hdigit.1

theorem plain_sign (negative : Prop) [Decidable negative] :
    Plain (if negative then ['-'] else []) := by
  split <;> decide

theorem plain_write (n : Number) : Plain n.write := by
  cases n with
  | integer n => exact (plain_sign _).append (plain_digits _)
  | scientific negative n exponent =>
    have hexponent : Plain ('e' :: if exponent < 0 then ['-'] else []) :=
      (plain_sign _).cons (by decide)
    exact (((plain_sign _).append (plain_digits n)).append hexponent).append (plain_digits _)

theorem plain_unit (n : Nat) : Plain ('\\' :: 'u' :: Literal.hex4 n) := by
  have hdigit : ∀ k < 16, 0x20 ≤ (Text.hexDigit k).val := by decide
  have hhex : Plain (Literal.hex4 n) := by
    intro d hd
    obtain ⟨k, hk, rfl⟩ := Literal.exists_of_mem_hex4 hd
    exact hdigit k hk
  exact (hhex.cons (by decide)).cons (by decide)

theorem plain_escape (c : Char) : Plain (Literal.escape c) := by
  rcases Literal.escape_eq_or c with ⟨h, -, -, hc⟩ | ⟨d, h, hd, -⟩ | h
  · rw [h]
    exact .cons hc (by decide)
  · rw [h]
    exact .cons (by decide) (.cons hd (by decide))
  · rw [h]
    exact plain_unit _

theorem plain_writeText (t : Option String) : Plain (writeText t) := by
  cases t with
  | none => decide
  | some s =>
    have hescaped : Plain (s.toList.flatMap Literal.escape) := by
      intro c hc
      obtain ⟨d, -, hc⟩ := List.mem_flatMap.1 hc
      exact plain_escape d c hc
    exact (hescaped.append (by decide)).cons (by decide)

mutual

theorem plain_render (depth : Nat) : ∀ value : Json, Plain (value.render .compact depth)
  | .null => by rw [render]; decide
  | .bool true => by rw [render]; decide
  | .bool false => by rw [render]; decide
  | .number n => by rw [render]; exact plain_write n
  | .string t => by rw [render]; exact plain_writeText t
  | .array [] => by rw [render]; decide
  | .array (item :: items) => by
    have hitem := plain_render (depth + 1) item
    have hitems := plain_renderItems (depth + 1) items
    simp only [render, Layout.gap, List.cons_append, List.nil_append, List.append_nil]
    exact (((hitem.cons (by decide)).append hitems).append (by decide))
  | .object [] => by rw [render]; decide
  | .object ((name, value) :: members) => by
    have hname := plain_writeText name
    have hvalue := plain_render (depth + 1) value
    have hmembers := plain_renderMembers (depth + 1) members
    simp only [render, Layout.gap, Layout.colon, List.cons_append, List.nil_append, List.append_nil]
    exact ((((hname.cons (by decide)).append (by decide)).append hvalue).append hmembers).append
      (by decide)

theorem plain_renderItems (depth : Nat) : ∀ items : List Json,
    Plain (renderItems .compact depth items)
  | [] => by rw [renderItems]; decide
  | item :: items => by
    have hitem := plain_render depth item
    have hitems := plain_renderItems depth items
    simp only [renderItems, Layout.gap, List.cons_append, List.nil_append]
    exact (hitem.append hitems).cons (by decide)

theorem plain_renderMembers (depth : Nat) : ∀ members : List (Option String × Json),
    Plain (renderMembers .compact depth members)
  | [] => by rw [renderMembers]; decide
  | (name, value) :: members => by
    have hname := plain_writeText name
    have hvalue := plain_render depth value
    have hmembers := plain_renderMembers depth members
    simp only [renderMembers, Layout.gap, Layout.colon, List.cons_append, List.nil_append,
      List.append_assoc]
    exact ((hname.append ((hvalue.append hmembers).cons (by decide))).cons (by decide))

end

end Conformance.Json
