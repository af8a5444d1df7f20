import Conformance.Case.TagHeader
import Conformance.Proofs.Text.Blank
import Mathlib.Data.Char

/-!
# How the lines of a tagged header are read

A line is decorated with a star between two blanks, and what it says neither starts nor ends with a
blank. It opens a tag, or goes on with the tag before it. What follows the name of a tag after a
colon or a blank is its value, and the semicolon at its end is taken off when all lines are read.
-/

namespace Conformance.TagHeader

open Text (Trimmed isBlank trim)

/-! ### Decoration -/

/-- A line of a header that says `text`. -/
def decorated (text : List Char) : List Char := ' ' :: '*' :: ' ' :: text

theorem bare_decorated {text : List Char} (hne : text ≠ [])
    (hlast : ∀ c ∈ text.getLast?, isBlank c = false) : bare (decorated text) = trim text := by
  have hstar : Trimmed ('*' :: ' ' :: text) := by
    refine ⟨by simp [isBlank], ?_⟩
    have heq : ('*' :: ' ' :: text).getLast? = text.getLast? :=
      List.getLast?_append_of_ne_nil ['*', ' '] hne
    rwa [heq]
  rw [bare, decorated, Text.trim_cons_of_isBlank (by decide), hstar.trim_eq,
    List.dropWhile_cons_of_pos (by decide), List.dropWhile_cons_of_neg (by decide),
    Text.trim_cons_of_isBlank (by decide)]

/-- The text of a line that goes on with a value is set in by two blanks more. -/
theorem bare_decorated_indented {text : List Char} (hne : text ≠ []) (h : Trimmed text) :
    bare (decorated (' ' :: ' ' :: text)) = text := by
  have hlast : (' ' :: ' ' :: text).getLast? = text.getLast? :=
    List.getLast?_append_of_ne_nil [' ', ' '] hne
  rw [bare_decorated (List.cons_ne_nil _ _) (by rw [hlast]; exact h.2),
    Text.trim_cons_of_isBlank (by decide), Text.trim_cons_of_isBlank (by decide), h.trim_eq]

theorem bare_decorated_at {rest : List Char} (h : ∀ c ∈ rest.getLast?, isBlank c = false) :
    bare (decorated ('@' :: rest)) = '@' :: rest := by
  have hlast : ∀ c ∈ ('@' :: rest).getLast?, isBlank c = false := by
    rw [List.getLast?_cons]
    cases hrest : rest.getLast? with
    | none => simp [isBlank]
    | some c => simpa using h c hrest
  have htrimmed : Trimmed ('@' :: rest) := ⟨by simp [isBlank], hlast⟩
  rw [bare_decorated (List.cons_ne_nil _ _) hlast, htrimmed.trim_eq]

/-! ### Tags -/

theorem Tag.ofLine_append {name : String} {rest : List Char}
    (hname : name.toList.all (!endsName ·) = true) (hrest : ∀ c ∈ rest.head?, endsName c = true) :
    Tag.ofLine (name.toList ++ rest) = ⟨name, trim (rest.dropWhile (· == ':'))⟩ := by
  rw [List.all_eq_true] at hname
  have htake : rest.takeWhile (!endsName ·) = [] := by
    cases rest with
    | nil => rfl
    | cons c rest => exact List.takeWhile_cons_of_neg (by simp [hrest c rfl])
  have hdrop : rest.dropWhile (!endsName ·) = rest :=
    Text.dropWhile_eq_self fun c hc => by rw [hrest c hc]; rfl
  rw [Tag.ofLine, List.takeWhile_append_of_pos hname, List.dropWhile_append_of_pos hname, htake,
    hdrop, List.append_nil, String.ofList_toList]

theorem Tag.ofLine_colon {name : String} (hname : name.toList.all (!endsName ·) = true)
    {value : List Char} (h : Trimmed value) :
    Tag.ofLine (name.toList ++ ':' :: ' ' :: value) = ⟨name, value⟩ := by
  rw [ofLine_append hname (by simp [endsName]), List.dropWhile_cons_of_pos (by decide),
    List.dropWhile_cons_of_neg (by decide), Text.trim_cons_of_isBlank (by decide), h.trim_eq]

theorem Tag.ofLine_blank {name : String} (hname : name.toList.all (!endsName ·) = true)
    {value : List Char} (h : Trimmed value) :
    Tag.ofLine (name.toList ++ ' ' :: value) = ⟨name, value⟩ := by
  rw [ofLine_append hname (by simp [endsName, isBlank]), List.dropWhile_cons_of_neg (by decide),
    Text.trim_cons_of_isBlank (by decide), h.trim_eq]

theorem addLine_of_at {line rest : List Char} (h : bare line = '@' :: rest) (tags : List Tag) :
    addLine tags line = Tag.ofLine rest :: tags := by
  rw [addLine, h]
  rfl

theorem addLine_of_text {line : List Char} (hne : bare line ≠ [])
    (hat : (bare line).head? ≠ some '@') (t : Tag) (before : List Tag) :
    addLine (t :: before) line = t.extend (bare line) :: before := by
  rw [addLine]
  split
  · next heq => exact absurd heq hne
  · next heq => rw [heq] at hat; exact absurd rfl hat
  · rfl

/-- Each further line of a value is put after it and a blank. -/
theorem foldl_addLine_indented {pieces : List (List Char)} (hne : ∀ piece ∈ pieces, piece ≠ [])
    (htrimmed : ∀ piece ∈ pieces, Trimmed piece) (hat : ∀ piece ∈ pieces, piece.head? ≠ some '@')
    {name : String} {value : List Char} (hvalue : value ≠ []) (before : List Tag) :
    (pieces.map fun piece => decorated (' ' :: ' ' :: piece)).foldl addLine
        (⟨name, value⟩ :: before)
      = ⟨name, value ++ pieces.flatMap (' ' :: ·)⟩ :: before := by
  induction pieces generalizing value with
  | nil => rw [List.flatMap_nil, List.append_nil]; rfl
  | cons piece pieces ih =>
    obtain ⟨hne, hnes⟩ := List.forall_mem_cons.1 hne
    obtain ⟨htrimmed, htrimmeds⟩ := List.forall_mem_cons.1 htrimmed
    obtain ⟨hat, hats⟩ := List.forall_mem_cons.1 hat
    have hbare := bare_decorated_indented hne htrimmed
    have hextend : Tag.extend ⟨name, value⟩ piece = ⟨name, value ++ ' ' :: piece⟩ := by
      rw [Tag.extend, if_neg (by simpa using hvalue)]
    rw [List.map_cons, List.foldl_cons, addLine_of_text (by rwa [hbare]) (by rwa [hbare]), hbare,
      hextend, ih hnes htrimmeds hats (by simp), List.flatMap_cons, List.append_assoc]

/-- A value that does not end with a semicolon loses one after it. -/
theorem Tag.text_eq {name : String} {value ending : List Char} (h : Trimmed value)
    (hlast : value.getLast? ≠ some ';') (hending : ending = [] ∨ ending = [';']) :
    Tag.text ⟨name, value ++ ending⟩ = value := by
  have hvalue : Text.dropEndWhile (· == ';') value = value :=
    Text.dropEndWhile_eq_self fun c hc => beq_eq_false_iff_ne.2 fun heq => hlast (heq ▸ hc)
  rcases hending with rfl | rfl
  · rw [Tag.text, List.append_nil, Text.trimEnd, Text.dropEndWhile_eq_self h.2, hvalue, h.trim_eq]
  · have hend : Text.trimEnd (value ++ [';']) = value ++ [';'] :=
      Text.dropEndWhile_eq_self (by simp [isBlank])
    rw [Tag.text, hend, Text.dropEndWhile_concat rfl, hvalue, h.trim_eq]

end Conformance.TagHeader
