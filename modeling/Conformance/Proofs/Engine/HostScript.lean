import Conformance.Engine.HostScript
import Conformance.Proofs.Json.Compact
import Conformance.Proofs.Json.RoundTrip
import Conformance.Proofs.Text.Blank
import Mathlib.Algebra.Ring.Parity

/-!
# A case stays inside its call

A line separator is part of no other character's escape, so replacing the separators in a literal
is the same as escaping each character of the text once. Hence a literal is read back as its text,
and a quote inside it stands after an odd number of backslashes, whatever quotes, backslashes and
separators the text puts next to each other. The last line of a script is one call, which can be
read for its two arguments, so the script tells what it evaluates.
-/

namespace Conformance.HostScript

open Json.Literal (Piece hex4 piecesFrom join)

/-! ### Both replacements at once -/

/-- How a character of the text is written inside its literal. -/
def escape (c : Char) : List Char :=
  if c = '\u2028' ∨ c = '\u2029' then '\\' :: 'u' :: hex4 c.toNat else Json.Literal.escape c

/-- The text between the quotes of a literal. -/
def inside (text : List Char) : List Char := text.flatMap escape

/-- The text after both replacements. -/
def replaced (text : List Char) : List Char :=
  replace '\u2029' ['\\', 'u', '2', '0', '2', '9']
    (replace '\u2028' ['\\', 'u', '2', '0', '2', '8'] text)

theorem replace_append (c : Char) (mark u v : List Char) :
    replace c mark (u ++ v) = replace c mark u ++ replace c mark v := List.flatMap_append

theorem replace_eq_self {c : Char} {text : List Char} (h : c ∉ text) (mark : List Char) :
    replace c mark text = text := by
  induction text with
  | nil => rfl
  | cons d text ih =>
    obtain ⟨hd, htext⟩ := not_or.1 (mt List.mem_cons.2 h)
    rw [replace, List.flatMap_cons, if_neg (Ne.symm hd), ← replace, ih htext, List.singleton_append]

theorem replaced_append (u v : List Char) : replaced (u ++ v) = replaced u ++ replaced v := by
  rw [replaced, replace_append, replace_append, ← replaced, ← replaced]

theorem lt_of_mem_unit {n : Nat} {d : Char} (h : d ∈ '\\' :: 'u' :: hex4 n) : d.val < 0x80 := by
  have hdigit : ∀ k < 16, (Text.hexDigit k).val < 0x80 := by decide
  rcases List.mem_cons.1 h with rfl | h
  · decide
  rcases List.mem_cons.1 h with rfl | h
  · decide
  · obtain ⟨k, hk, rfl⟩ := Json.Literal.exists_of_mem_hex4 h
    exact hdigit k hk

/-- A character is written as itself or in ASCII. -/
theorem eq_or_lt_of_mem_escape {c d : Char} (h : d ∈ Json.Literal.escape c) :
    d = c ∨ d.val < 0x80 := by
  rcases Json.Literal.escape_eq_or c with ⟨hc, -⟩ | ⟨e, hc, -, he⟩ | hc
  · rw [hc] at h
    exact .inl (List.mem_singleton.1 h)
  · rw [hc] at h
    rcases List.mem_cons.1 h with rfl | h
    · exact .inr (by decide)
    · exact .inr (List.mem_singleton.1 h ▸ he)
  · rw [hc] at h
    exact .inr (lt_of_mem_unit h)

theorem not_mem_escape_of_ne {c d : Char} (hd : ¬ d.val < 0x80) (hne : c ≠ d) :
    d ∉ Json.Literal.escape c := fun h =>
  (eq_or_lt_of_mem_escape h).elim (fun heq => hne heq.symm) hd

theorem replaced_escape (c : Char) : replaced (Json.Literal.escape c) = escape c := by
  by_cases h : c = '\u2028' ∨ c = '\u2029'
  · rcases h with rfl | rfl <;> decide
  · obtain ⟨hline, hparagraph⟩ := not_or.1 h
    rw [replaced, replace_eq_self (not_mem_escape_of_ne (by decide) hline),
      replace_eq_self (not_mem_escape_of_ne (by decide) hparagraph), escape, if_neg h]

theorem literal_eq (text : List Char) : literal text = '"' :: (inside text ++ ['"']) := by
  have hinside : replaced (text.flatMap Json.Literal.escape) = inside text := by
    rw [inside]
    induction text with
    | nil => rfl
    | cons c text ih =>
      rw [List.flatMap_cons, replaced_append, replaced_escape, ih, List.flatMap_cons]
  show replaced (['"'] ++ (text.flatMap Json.Literal.escape ++ ['"'])) = _
  rw [replaced_append, replaced_append, hinside]
  rfl

theorem toList_literalOf (text : String) :
    (literalOf text).toList = '"' :: (inside text.toList ++ ['"']) := by
  rw [literalOf, String.toList_ofList, literal_eq]

example : literalOf "a \"b\"\n\u2028" = "\"a \\\"b\\\"\\n\\u2028\"" := by decide +kernel

/-! ### Quotes inside a literal -/

/-- The backslashes at the end of a text, that is, directly before what follows it. -/
def backslashes (front : List Char) : Nat := (front.reverse.takeWhile (· = '\\')).length

/-- After the text, a backslash waits for the character that it escapes. -/
def waits (text : List Char) : Bool := text.foldl (fun waits c => !waits && c = '\\') false

theorem odd_backslashes_iff (front : List Char) :
    Odd (backslashes front) ↔ waits front = true := by
  induction front using List.reverseRecOn with
  | nil => decide
  | append_singleton front c ih =>
    have hwaits : waits (front ++ [c]) = (!waits front && c = '\\') := by
      rw [waits, List.foldl_concat, ← waits]
    by_cases hc : c = '\\'
    · have hsucc : backslashes (front ++ [c]) = backslashes front + 1 := by
        simp [backslashes, hc]
      rw [hsucc, Nat.odd_add_one, ih, hwaits]
      simp [hc]
    · have hzero : backslashes (front ++ [c]) = 0 := by
        simp [backslashes, hc]
      rw [hzero, hwaits]
      simp [hc]

/-- Escape by escape: a backslash takes the next character with it, and no quote stands alone. -/
inductive Body : List Char → Prop
  | nil : Body []
  | char {c : Char} {rest : List Char} (hquote : c ≠ '"') (hbackslash : c ≠ '\\')
      (hrest : Body rest) : Body (c :: rest)
  | escape {c : Char} {rest : List Char} (hrest : Body rest) : Body ('\\' :: c :: rest)

theorem Body.append {u v : List Char} (hu : Body u) (hv : Body v) : Body (u ++ v) := by
  induction hu with
  | nil => exact hv
  | char hquote hbackslash _ ih => exact .char hquote hbackslash ih
  | escape _ ih => exact .escape ih

theorem Body.waits_eq_false {text : List Char} (h : Body text) : waits text = false := by
  induction h with
  | nil => rfl
  | char _ hbackslash _ ih => simpa [waits, hbackslash] using ih
  | escape _ ih => simpa [waits] using ih

theorem Body.waits_of_quote {text front rest : List Char} (h : Body text)
    (htext : text = front ++ '"' :: rest) : waits front = true := by
  induction h generalizing front with
  | nil => simp at htext
  | char hquote hbackslash _ ih =>
    cases front with
    | nil => exact absurd (List.cons.inj htext).1 hquote
    | cons d front =>
      rw [List.cons_append] at htext
      obtain ⟨rfl, htail⟩ := List.cons.inj htext
      simpa [waits, hbackslash] using ih htail
  | escape _ ih =>
    match front with
    | [] => exact absurd (List.cons.inj htext).1 (by decide)
    | [d] =>
      rw [← (List.cons.inj htext).1]
      rfl
    | d :: e :: front =>
      rw [List.cons_append, List.cons_append] at htext
      obtain ⟨hd, htail⟩ := List.cons.inj htext
      obtain ⟨-, htail⟩ := List.cons.inj htail
      simpa [waits, ← hd] using ih htail

theorem body_unit (n : Nat) : Body ('\\' :: 'u' :: hex4 n) := by
  have hdigit : ∀ k < 16, Text.hexDigit k ≠ '"' ∧ Text.hexDigit k ≠ '\\' := by decide
  have hbody (digits : List Char) (h : ∀ d ∈ digits, d ≠ '"' ∧ d ≠ '\\') : Body digits := by
    induction digits with
    | nil => exact .nil
    | cons d digits ih =>
      obtain ⟨⟨hquote, hbackslash⟩, hdigits⟩ := List.forall_mem_cons.1 h
      exact .char hquote hbackslash (ih hdigits)
  refine .escape (hbody _ fun d hd => ?_)
  obtain ⟨k, hk, rfl⟩ := Json.Literal.exists_of_mem_hex4 hd
  exact hdigit k hk

theorem body_escape (c : Char) : Body (escape c) := by
  rw [escape]
  split
  · exact body_unit _
  · rcases Json.Literal.escape_eq_or c with ⟨hc, hquote, hbackslash, -⟩ | ⟨d, hc, -⟩ | hc
    · exact hc ▸ .char hquote hbackslash .nil
    · exact hc ▸ .escape .nil
    · exact hc ▸ body_unit _

theorem body_inside (text : List Char) : Body (inside text) := by
  induction text with
  | nil => exact .nil
  | cons c text ih => exact (body_escape c).append ih

/-! ### What stands in a literal -/

/-- The text has no character at which a line may end: no control character, no line separator. -/
structure OneLine (text : List Char) : Prop where
  plain : Json.Plain text
  line_separator : '\u2028' ∉ text
  paragraph_separator : '\u2029' ∉ text

theorem OneLine.append {u v : List Char} (hu : OneLine u) (hv : OneLine v) : OneLine (u ++ v) where
  plain := hu.plain.append hv.plain
  line_separator := by simp [hu.line_separator, hv.line_separator]
  paragraph_separator := by simp [hu.paragraph_separator, hv.paragraph_separator]

theorem oneLine_of_ascii {text : List Char}
    (h : text.all (fun c => 0x20 ≤ c.val && c.val < 0x80) = true) : OneLine text := by
  have hascii (c : Char) (hc : c ∈ text) : 0x20 ≤ c.val ∧ c.val < 0x80 := by
    simpa using List.all_eq_true.1 h c hc
  exact ⟨fun c hc => (hascii c hc).1, fun hc => absurd (hascii _ hc).2 (by decide),
    fun hc => absurd (hascii _ hc).2 (by decide)⟩

theorem plain_escape (c : Char) : Json.Plain (escape c) := by
  rw [escape]
  split
  · exact Json.plain_unit _
  · exact Json.plain_escape c

theorem not_mem_escape {c d : Char} (hd : d = '\u2028' ∨ d = '\u2029') : d ∉ escape c := by
  have hwide : ¬ d.val < 0x80 := by rcases hd with rfl | rfl <;> decide
  rw [escape]
  split
  · exact fun h => hwide (lt_of_mem_unit h)
  · next hc => exact not_mem_escape_of_ne hwide fun heq => hc (heq ▸ hd)

theorem oneLine_escape (c : Char) : OneLine (escape c) :=
  ⟨plain_escape c, not_mem_escape (.inl rfl), not_mem_escape (.inr rfl)⟩

theorem oneLine_inside (text : List Char) : OneLine (inside text) := by
  induction text with
  | nil => exact oneLine_of_ascii (by decide)
  | cons c text ih => exact (oneLine_escape c).append ih

/-- The text can stand between the quotes of a literal: the quotes in it are escaped, the quote
after it is not, and it stands on one line. -/
structure Sealed (text : List Char) : Prop where
  quotes : ∀ front rest, text = front ++ '"' :: rest → Odd (backslashes front)
  closing : Even (backslashes text)
  oneLine : OneLine text

theorem sealed_inside (text : List Char) : Sealed (inside text) where
  quotes front rest h := (odd_backslashes_iff front).2 ((body_inside text).waits_of_quote h)
  closing := by
    rw [← Nat.not_odd_iff_even, odd_backslashes_iff, (body_inside text).waits_eq_false]
    exact Bool.false_ne_true
  oneLine := oneLine_inside text

/-! ### Reading a literal -/

/-- The piece that a written character is read as. -/
def pieceOf (c : Char) : Piece :=
  if c = '\u2028' ∨ c = '\u2029' then .unit c.toNat else .ofWritten c

theorem piecesFrom_escape (held : List Piece) (c : Char) (rest : List Char) :
    piecesFrom held (escape c ++ rest) = piecesFrom (pieceOf c :: held) rest := by
  rw [escape, pieceOf]
  split
  · next hc =>
    have hlt : c.toNat < 0x10000 := by rcases hc with rfl | rfl <;> decide
    exact Json.Literal.piecesFrom_unit held hlt rest
  · exact Json.Literal.piecesFrom_escape held c rest

theorem join_pieceOf_cons (c : Char) (rest : List Piece) :
    join (pieceOf c :: rest) = (join rest).map (c :: ·) := by
  rw [pieceOf]
  split
  · next hc =>
    have hlt : c.toNat < 0xd800 := by rcases hc with rfl | rfl <;> decide
    rw [Json.Literal.join_unit_cons hlt, Char.ofNat_toNat]
  · exact Json.Literal.join_ofWritten_cons c rest

theorem read_inside (text rest : List Char) :
    Json.Literal.read (inside text ++ '"' :: rest) = some (some (String.ofList text), rest) :=
  Json.Literal.read_flatMap piecesFrom_escape join_pieceOf_cons text rest

theorem read_literalOf (text : String) :
    Json.read (literalOf text).toList = some (.string (some text)) := by
  have hvalue (fuel : Nat) :
      Json.value? (fuel + 1) (literalOf text).toList = some (.string (some text), []) := by
    have hread : Json.Literal.read (inside text.toList ++ ['"']) = some (some text, []) := by
      rw [read_inside, String.ofList_toList]
    rw [toList_literalOf, Json.value?, Json.skip_cons rfl]
    simp only [hread, Option.map_some]
  rw [Json.read, hvalue]
  rfl

/-! ### The call -/

/-- The last line of a script. -/
def lastLine (p : Program) : String :=
  "__conformanceRun(" ++ literalOf p.body ++ (if p.strict then ", true);" else ", false);")

/-- The arguments of a line that is one call and nothing else. -/
def arguments? (line : List Char) : Option (String × Bool) := do
  let opened ← Text.after? "__conformanceRun(\"".toList line
  let (body, rest) ← Json.Literal.read opened
  let strict ←
    if rest = ", true);".toList then some true
    else if rest = ", false);".toList then some false
    else none
  return (← body, strict)

/-- What closes the call. -/
def closing (strict : Bool) : List Char := (if strict then ", true);" else ", false);").toList

theorem call_eq (p : Program) : call p = lastLine p ++ "\n" := by
  have hend : (if p.strict then ", true);" else ", false);") ++ "\n"
      = if p.strict then ", true);\n" else ", false);\n" := by
    cases p.strict <;> decide
  unfold call lastLine
  rw [← hend, ← String.append_assoc]

theorem toList_lastLine (p : Program) : (lastLine p).toList =
    "__conformanceRun(\"".toList ++ (inside p.body.toList ++ '"' :: closing p.strict) := by
  have hopen : "__conformanceRun(\"".toList = "__conformanceRun(".toList ++ ['"'] := by decide
  unfold lastLine
  rw [String.toList_append, String.toList_append, toList_literalOf, hopen]
  simp only [closing, List.append_assoc, List.cons_append, List.nil_append]

theorem arguments?_lastLine (p : Program) :
    arguments? (lastLine p).toList = some (p.body, p.strict) := by
  have hopened : Text.after? "__conformanceRun(\"".toList (lastLine p).toList =
      some (inside p.body.toList ++ '"' :: closing p.strict) := by
    rw [toList_lastLine, Text.after?,
      if_pos (List.isPrefixOf_iff_prefix.2 (List.prefix_append _ _)), List.drop_left]
  rw [arguments?, hopened]
  simp only [Option.bind_eq_bind, Option.bind_some, read_inside, String.ofList_toList]
  cases p.strict <;> rfl

theorem oneLine_lastLine (p : Program) : OneLine (lastLine p).toList := by
  have hquote : OneLine ['"'] := oneLine_of_ascii (by decide)
  have hclosing : OneLine (closing p.strict) := by
    cases p.strict <;> exact oneLine_of_ascii (by decide)
  rw [toList_lastLine, ← List.singleton_append (l := closing p.strict)]
  exact (oneLine_of_ascii (by decide)).append
    ((oneLine_inside p.body.toList).append (hquote.append hclosing))

/-! ### The script -/

theorem script_eq (p : Program) : script p = prelude ++ (lastLine p ++ "\n") := by
  unfold script
  rw [call_eq]

/-- Lines with their ends are cut off from what comes after them. -/
theorem lines_join_append (lines : List String) (rest : List Char) :
    Text.lines ((String.join (lines.map (· ++ "\n"))).toList ++ rest)
      = Text.lines (String.join (lines.map (· ++ "\n"))).toList ++ Text.lines rest := by
  induction lines with
  | nil => rfl
  | cons line lines ih =>
    have hcons : (String.join ((line :: lines).map (· ++ "\n"))).toList
        = line.toList ++ '\n' :: (String.join (lines.map (· ++ "\n"))).toList := by
      rw [List.map_cons, String.join_cons, String.toList_append, String.toList_append,
        List.append_assoc]
      rfl
    rw [hcons, List.append_assoc, List.cons_append, Text.lines_append_lf, ih,
      ← List.append_assoc, ← Text.lines_append_lf]

theorem lines_script (p : Program) :
    Text.lines (script p).toList = Text.lines prelude.toList ++ [(lastLine p).toList] := by
  have hplain := (oneLine_lastLine p).plain
  have hlf : '\n' ∉ (lastLine p).toList := fun hmem => absurd (hplain _ hmem) (by decide)
  have hcr : (lastLine p).toList.getLast? ≠ some '\r' := fun hlast =>
    absurd (hplain _ (List.mem_of_getLast? hlast)) (by decide)
  have hlast : Text.lines (lastLine p ++ "\n").toList = [(lastLine p).toList] := by
    rw [String.toList_append]
    exact Text.lines_line hlf hcr []
  rw [script_eq, String.toList_append, prelude, lines_join_append, ← prelude, hlast]

theorem script_inj {p q : Program} :
    script p = script q ↔ p.body = q.body ∧ p.strict = q.strict := by
  constructor
  · intro h
    have hlines : Text.lines prelude.toList ++ [(lastLine p).toList]
        = Text.lines prelude.toList ++ [(lastLine q).toList] := by
      rw [← lines_script, ← lines_script, h]
    have hlast : (lastLine p).toList = (lastLine q).toList :=
      List.singleton_inj.1 (List.append_cancel_left hlines)
    have harguments : some (p.body, p.strict) = some (q.body, q.strict) := by
      rw [← arguments?_lastLine, hlast, arguments?_lastLine]
    exact Prod.mk.inj (Option.some.inj harguments)
  · rintro ⟨hbody, hstrict⟩
    have hlast : lastLine p = lastLine q := by
      unfold lastLine
      rw [hbody, hstrict]
    rw [script_eq, script_eq, hlast]

/-- Whatever the text of a case is, its literal is closed by its last quote only and is read back
as the text. So a script is the prelude and one line more, that line is one call with the case's
body and mode, and scripts of cases that differ in either are different. -/
theorem script_embeds_case :
    (∀ text : String, ∃ inside, (literalOf text).toList = '"' :: (inside ++ ['"']) ∧
      Sealed inside ∧ Json.read (literalOf text).toList = some (.string (some text))) ∧
    (∀ p : Program, script p = prelude ++ (lastLine p ++ "\n") ∧
      OneLine (lastLine p).toList ∧
      Text.lines (script p).toList = Text.lines prelude.toList ++ [(lastLine p).toList] ∧
      arguments? (lastLine p).toList = some (p.body, p.strict)) ∧
    ∀ p q : Program, script p = script q ↔ p.body = q.body ∧ p.strict = q.strict := by
  refine ⟨fun text => ?_, fun p => ?_, fun p q => script_inj⟩
  · exact ⟨inside text.toList, toList_literalOf text, sealed_inside _, read_literalOf text⟩
  · exact ⟨script_eq p, oneLine_lastLine p, lines_script p, arguments?_lastLine p⟩

end Conformance.HostScript
