import Conformance.Case.Header
import Conformance.Proofs.Case.Groups
import Mathlib.Data.List.Nodup
import Mathlib.Data.List.Perm.Basic

/-!
# A printed header is read as what was printed

A tagged header is printed as one group of lines for each thing it says, in any order. Each group is
read as one tag, and different groups set different fields, so their order does not matter. No line
holds the end of a comment, so all of the header is read and nothing of what follows it.
-/

namespace Conformance.TagHeader

open Text (isBlank Without)

/-! ### Printing -/

/-- Metadata that a tagged header can say. -/
structure Printable (m : Metadata) : Prop where
  dialect : m.dialect = .tagged
  name : IsValue m.name.toList
  reference : ∀ t ∈ m.reference?, IsValue t.toList
  assertion : ∀ t ∈ m.assertion?, IsValue t.toList
  description : ∀ t ∈ m.description?, IsValue t.toList
  kind : ∀ kind, m.expectation? = some (.kind kind) → IsWord kind.toList
  flags : m.flags = [] ∨ m.flags = [strictFlag] ∨ m.flags = [sloppyFlag]

/-- The groups of metadata, with the text of each field broken by `breaks`. -/
def groups (m : Metadata) (breaks : TextField → List Char → List (List Char)) : List Group :=
  let text (field : TextField) (value : String) := Group.text field (breaks field value.toList)
  text .name m.name :: (m.reference?.toList.map (text .reference) ++
    m.assertion?.toList.map (text .assertion) ++ m.description?.toList.map (text .description) ++
    m.expectation?.toList.map .negative ++ m.flags.map .flag)

/-- A header that says the groups one after the other. -/
def print (groups : List Group) : List Char :=
  "/**\n".toList ++ (groups.flatMap Group.lines).flatMap (· ++ ['\n']) ++ " */".toList

/-! ### Tags fill the fields -/

/-- The fields with what a group says. -/
def Group.apply (f : Fields) : Group → Fields
  | .text field pieces => field.set (some (String.ofList ([' '].intercalate pieces))) f
  | .negative expectation => { f with expectation? := some expectation }
  | .flag name => if name = strictFlag then { f with strict := true } else { f with sloppy := true }

theorem IsWord.isIdentifier {text : List Char} (h : IsWord text) : isIdentifier text = true := by
  cases text with
  | nil => exact absurd rfl h.ne_nil
  | cons c rest =>
    obtain ⟨hc, hrest⟩ := List.forall_mem_cons.1 h.chars
    have hhead : ¬ c.isDigit := h.head c rfl
    have hstart : startsIdentifier c = true := by
      simp only [startsIdentifier, Bool.or_eq_true, beq_iff_eq]
      tauto
    have hall : rest.all (fun c => startsIdentifier c || c.isDigit) = true := by
      rw [List.all_eq_true]
      intro d hd
      have hd := hrest d hd
      simp only [startsIdentifier, Bool.or_eq_true, beq_iff_eq]
      tauto
    rw [TagHeader.isIdentifier, hstart, hall]
    rfl

theorem isDigit_eq_false_of_startsIdentifier {c : Char} (h : startsIdentifier c = true) :
    c.isDigit = false := by
  rw [startsIdentifier, Bool.or_eq_true, Bool.or_eq_true, beq_iff_eq, beq_iff_eq] at h
  rcases h with (halpha | rfl) | rfl
  · refine Bool.eq_false_iff.2 fun hdigit => ?_
    have hhigh : c.val ≤ '9'.val := of_decide_eq_true (Bool.and_eq_true_iff.1 hdigit).2
    have hlow : 'A'.val ≤ c.val := by
      rcases Bool.or_eq_true_iff.1 halpha with hupper | hlower
      · exact (of_decide_eq_true hupper).1
      · have hlow : 'a'.val ≤ c.val := of_decide_eq_true (Bool.and_eq_true_iff.1 hlower).1
        exact UInt32.le_trans (by decide) hlow
    exact absurd (UInt32.le_trans hlow hhigh) (by decide)
  · rfl
  · rfl

theorem isWord_of_isIdentifier {text : List Char} (h : isIdentifier text = true) : IsWord text := by
  cases text with
  | nil => cases h
  | cons c rest =>
    rw [isIdentifier, Bool.and_eq_true, List.all_eq_true] at h
    obtain ⟨hstart, hrest⟩ := h
    have hdigit := isDigit_eq_false_of_startsIdentifier hstart
    simp only [startsIdentifier, Bool.or_eq_true, beq_iff_eq] at hstart hrest
    refine ⟨List.cons_ne_nil c rest, List.forall_mem_cons.2 ⟨by tauto, fun d hd => ?_⟩, ?_⟩
    · have hd := hrest d hd
      tauto
    · rintro d hd
      cases hd
      rw [hdigit]
      exact Bool.false_ne_true

theorem Group.add_tag {g : Group} (h : g.Sound) (f : Fields) : f.add g.tag = .ok (g.apply f) := by
  match g, h with
  | .text field pieces, ⟨value, hvalue, hbreaks⟩ =>
    have htext : Tag.text ⟨field.tag, value ++ [';']⟩ = value :=
      Tag.text_eq (Text.trimmed_of_trim_eq hvalue.trimmed) hvalue.last (.inr rfl)
    have hne : value.isEmpty = false := by simpa using hvalue.ne_nil
    rw [Group.tag, hbreaks.joined, Fields.add, htext, hne]
    cases field <;> simp [Group.apply, TextField.set, TextField.tag, hbreaks.joined]
  | .negative .anyError, _ => rfl
  | .negative (.kind kind), hword =>
    have hlast : kind.toList.getLast? ≠ some ';' := fun hlast =>
      absurd (hword.chars ';' (List.mem_of_getLast? hlast)) (by decide)
    have htext : Tag.text ⟨"negative", kind.toList ++ []⟩ = kind.toList :=
      Tag.text_eq hword.trimmed hlast (.inl rfl)
    have hne : kind.toList.isEmpty = false := by simpa using hword.ne_nil
    have hexpectation : expectation kind.toList = .ok (.kind kind) := by
      rw [expectation, hne, hword.isIdentifier, String.ofList_toList]
      rfl
    rw [List.append_nil] at htext
    rw [Group.tag, Fields.add, htext]
    show (expectation kind.toList).map _ = _
    rw [hexpectation]
    rfl
  | .flag name, hname =>
    rcases hname with rfl | rfl <;> rfl

theorem foldlM_add_map_tag {order : List Group} (h : ∀ g ∈ order, g.Sound) (f : Fields) :
    (order.map Group.tag).foldlM Fields.add f = .ok (order.foldl Group.apply f) := by
  induction order generalizing f with
  | nil => rfl
  | cons g order ih =>
    obtain ⟨hg, horder⟩ := List.forall_mem_cons.1 h
    rw [List.map_cons, List.foldlM_cons, Group.add_tag hg]
    exact ih horder _

theorem Group.name_tag_negative (e : Expectation) : (Group.negative e).tag.name = "negative" := by
  cases e <;> rfl

/-! ### Metadata -/

theorem names_map_toList_sublist {α : Type} (group : α → Group) {name : String}
    (h : ∀ a, (group a).tag.name = name) (o : Option α) :
    ((o.toList.map group).map (·.tag.name)).Sublist [name] := by
  cases o with
  | none => exact List.nil_sublist _
  | some a => rw [Option.toList_some, List.map_singleton, List.map_singleton, h a]

section

variable {m : Metadata} {breaks : TextField → List Char → List (List Char)}

theorem nodup_names_groups (h : Printable m) : ((groups m breaks).map (·.tag.name)).Nodup := by
  have hflags : (m.flags.map Group.flag).map (·.tag.name) = m.flags := by
    rw [List.map_map]
    exact List.map_id _
  have hnames : (["name", "section", "assertion", "description", "negative"] ++ m.flags).Nodup := by
    rcases h.flags with heq | heq | heq <;> rw [heq] <;> decide
  have htext (field : TextField) (text? : Option String) :
      ((text?.toList.map fun t => Group.text field (breaks field t.toList)).map
        (·.tag.name)).Sublist [field.tag] :=
    names_map_toList_sublist (fun t => .text field (breaks field t.toList)) (fun _ => rfl) text?
  have hnegative := names_map_toList_sublist Group.negative Group.name_tag_negative m.expectation?
  refine List.Nodup.sublist ?_ hnames
  simp only [groups, List.map_cons, List.map_append, hflags]
  exact (((((htext .reference m.reference?).append (htext .assertion m.assertion?)).append
    (htext .description m.description?)).append hnegative).append
      (List.Sublist.refl m.flags)).cons_cons "name"

theorem sound_groups (h : Printable m)
    (hbreaks : ∀ field value, IsValue value → Breaks value (breaks field value)) :
    ∀ g ∈ groups m breaks, g.Sound := by
  have htext {field : TextField} {t : String} (ht : IsValue t.toList) :
      (Group.text field (breaks field t.toList)).Sound := ⟨t.toList, ht, hbreaks _ _ ht⟩
  intro g hg
  simp only [groups, List.mem_cons, List.mem_append, List.mem_map, Option.mem_toList] at hg
  rcases hg with rfl | (((⟨t, ht, rfl⟩ | ⟨t, ht, rfl⟩) | ⟨t, ht, rfl⟩) | ⟨e, he, rfl⟩) |
    ⟨name, hname, rfl⟩
  · exact htext h.name
  · exact htext (h.reference t ht)
  · exact htext (h.assertion t ht)
  · exact htext (h.description t ht)
  · cases e with
    | anyError => trivial
    | kind kind => exact h.kind kind he
  · rcases h.flags with heq | heq | heq <;> rw [heq] at hname
    · cases hname
    · exact .inl (List.mem_singleton.1 hname)
    · exact .inr (List.mem_singleton.1 hname)

theorem foldl_apply_text
    (hbreaks : ∀ field value, IsValue value → Breaks value (breaks field value))
    {text? : Option String} (h : ∀ t ∈ text?, IsValue t.toList) {field : TextField} {f : Fields}
    (hf : field.set none f = f) :
    (text?.toList.map fun t => Group.text field (breaks field t.toList)).foldl Group.apply f
      = field.set text? f := by
  cases text? with
  | none => exact hf.symm
  | some t =>
    show field.set (some (String.ofList ([' '].intercalate (breaks field t.toList)))) f = _
    rw [(hbreaks field t.toList (h t rfl)).joined, String.ofList_toList]

theorem foldl_apply_groups (h : Printable m)
    (hbreaks : ∀ field value, IsValue value → Breaks value (breaks field value)) :
    ((groups m breaks).foldl Group.apply {}).metadata = .ok m := by
  have hname : Group.apply {} (.text .name (breaks .name m.name.toList)) = { name? := m.name } := by
    rw [Group.apply, (hbreaks .name _ h.name).joined, String.ofList_toList]
    rfl
  have hnegative (f : Fields) (hf : f.expectation? = none) :
      (m.expectation?.toList.map Group.negative).foldl Group.apply f
        = { f with expectation? := m.expectation? } := by
    cases m.expectation? with
    | none =>
      cases f
      cases hf
      rfl
    | some e => rfl
  rw [groups, List.foldl_cons, hname, List.foldl_append, List.foldl_append, List.foldl_append,
    List.foldl_append, foldl_apply_text hbreaks h.reference rfl,
    foldl_apply_text hbreaks h.assertion rfl, foldl_apply_text hbreaks h.description rfl,
    hnegative _ rfl]
  obtain ⟨name, reference?, assertion?, description?, expectation?, flags, dialect⟩ := m
  cases h.dialect
  rcases h.flags with heq | heq | heq <;> cases heq <;> rfl

theorem metadata_map_tag (h : Printable m)
    (hbreaks : ∀ field value, IsValue value → Breaks value (breaks field value))
    {order : List Group} (horder : order.Perm (groups m breaks)) :
    metadata (order.map Group.tag) = .ok m := by
  have hnames : (((groups m breaks).map Group.tag).map Tag.name).Nodup := by
    rw [List.map_map]
    exact nodup_names_groups h
  have honce : ∀ t ∈ (groups m breaks).map Group.tag, ∀ t' ∈ (groups m breaks).map Group.tag,
      t.name = t'.name → t.name ∈ fieldNames → t = t' :=
    fun t ht t' ht' hname _ => List.inj_on_of_nodup_map hnames ht ht' hname
  rw [← metadata_perm (horder.symm.map Group.tag) honce, metadata,
    foldlM_add_map_tag (sound_groups h hbreaks)]
  exact foldl_apply_groups h hbreaks

end

/-! ### The whole header -/

theorem lines_flatMap {lines : List (List Char)} (h : ∀ line ∈ lines, IsLine line)
    (rest : List Char) :
    Text.lines (lines.flatMap (· ++ ['\n']) ++ rest) = lines ++ Text.lines rest := by
  induction lines with
  | nil => rfl
  | cons line lines ih =>
    obtain ⟨hline, hlines⟩ := List.forall_mem_cons.1 h
    rw [List.flatMap_cons, List.append_assoc, List.append_assoc, List.singleton_append,
      Text.lines_line hline.oneLine hline.last, ih hlines, List.cons_append]

theorem without_flatMap {lines : List (List Char)} (h : ∀ line ∈ lines, IsLine line) :
    Without '*' '/' (lines.flatMap (· ++ ['\n'])) := by
  induction lines with
  | nil => exact List.isChain_nil
  | cons line lines ih =>
    obtain ⟨hline, hlines⟩ := List.forall_mem_cons.1 h
    exact (hline.inComment.append (by decide) (.inr (by decide))).append (ih hlines)
      (.inl (by simp))

theorem foldl_addLine_flatMap {order : List Group} (h : ∀ g ∈ order, g.Sound) (before : List Tag) :
    (order.flatMap Group.lines).foldl addLine before = (order.map Group.tag).reverse ++ before := by
  induction order generalizing before with
  | nil => rfl
  | cons g order ih =>
    obtain ⟨hg, horder⟩ := List.forall_mem_cons.1 h
    rw [List.flatMap_cons, List.foldl_append, Group.foldl_addLine_lines hg, ih horder,
      List.map_cons, List.reverse_cons, List.append_assoc]
    rfl

/-- The text between the marks of a printed header. -/
def block (order : List Group) : List Char :=
  '*' :: '\n' :: ((order.flatMap Group.lines).flatMap (· ++ ['\n']) ++ [' '])

theorem isLine_of_mem_lines {order : List Group} (h : ∀ g ∈ order, g.Sound) :
    ∀ line ∈ order.flatMap Group.lines, IsLine line := by
  intro line hline
  obtain ⟨g, hg, hline⟩ := List.mem_flatMap.1 hline
  exact Group.isLine (h g hg) line hline

theorem tags_block {order : List Group} (h : ∀ g ∈ order, g.Sound) :
    tags (block order) = order.map Group.tag := by
  have hopening : Text.lines ('\n' :: ((order.flatMap Group.lines).flatMap (· ++ ['\n']) ++ [' ']))
      = [] :: (order.flatMap Group.lines ++ [[' ']]) := by
    rw [show [[' ']] = Text.lines [' '] from rfl, ← lines_flatMap (isLine_of_mem_lines h) [' ']]
    rfl
  rw [tags, block, List.dropWhile_cons_of_pos (by decide), List.dropWhile_cons_of_neg (by decide),
    hopening, List.foldl_cons, List.foldl_append]
  show (addLine ((order.flatMap Group.lines).foldl addLine []) [' ']).reverse = _
  rw [foldl_addLine_flatMap h, List.append_nil]
  exact List.reverse_reverse _

theorem without_block {order : List Group} (h : ∀ g ∈ order, g.Sound) :
    Without '*' '/' (block order) := by
  have hlines := without_flatMap (isLine_of_mem_lines h)
  have hopening : Without '*' '/' ['*', '\n'] := by decide
  exact hopening.append (hlines.append (by decide) (.inr (by decide))) (.inl (by decide))

/-- A printed header is read as the metadata that was printed, in whatever order and with whatever
breaks, and whatever comes after it. -/
theorem parse_print {m : Metadata} (h : Printable m)
    {breaks : TextField → List Char → List (List Char)}
    (hbreaks : ∀ field value, IsValue value → Breaks value (breaks field value))
    {order : List Group} (horder : order.Perm (groups m breaks)) (body : List Char) (path : Path) :
    Header.parse (print order ++ body) path = .ok m := by
  have hsound : ∀ g ∈ order, g.Sound := fun g hg => sound_groups h hbreaks g (horder.mem_iff.1 hg)
  have hprint : print order ++ body = '/' :: '*' :: (block order ++ '*' :: '/' :: body) := by
    simp [print, block]
  have hstart : Header.start (print order ++ body) = print order ++ body := by
    have htrim : Text.trimStart (print order ++ body) = print order ++ body := by
      rw [hprint]
      exact Text.dropWhile_eq_self (by simp [isBlank])
    have hmark : (print order ++ body).dropWhile (· == '\ufeff') = print order ++ body := by
      rw [hprint]
      rfl
    rw [Header.start, hmark, Header.skipComments]
    split
    · next heq => rw [htrim, hprint] at heq; cases heq
    · exact htrim
  have hbreak : Text.breakOn ['*', '/'] (block order ++ '*' :: '/' :: body)
      = some (block order, body) := Text.breakOn_of_without (by decide) (without_block hsound) body
  rw [Header.parse, hstart, hprint]
  show parse (block order ++ '*' :: '/' :: body) = .ok m
  rw [parse, hbreak]
  show metadata (tags (block order)) = .ok m
  rw [tags_block hsound, metadata_map_tag h hbreaks horder]

/-- A case with colons, stars and semicolons in what it says. -/
def decoratedCase : Metadata where
  name := "*S15.10: A1; T1*"
  reference? := some "15.10.2.12, 15.10.2.13"
  assertion? := none
  description? := some ":checked @ each; place"
  expectation? := some (.kind "$Error")
  flags := [strictFlag]
  dialect := .tagged

theorem printable_decoratedCase : Printable decoratedCase where
  dialect := rfl
  name := ⟨by decide, by decide, by decide, by decide, by decide⟩
  reference := by
    rintro t ht
    cases ht
    exact ⟨by decide, by decide, by decide, by decide, by decide⟩
  assertion := by rintro t ⟨⟩
  description := by
    rintro t ht
    cases ht
    exact ⟨by decide, by decide, by decide, by decide, by decide⟩
  kind := by
    rintro kind hkind
    cases hkind
    exact ⟨by decide, by simp, by simp⟩
  flags := .inr (.inl rfl)

/-- The description stands on three lines. -/
def onThreeLines (_ : TextField) (value : List Char) : List (List Char) :=
  if value = ":checked @ each; place".toList then
    [":checked @".toList, "each;".toList, "place".toList]
  else [value]

theorem breaks_onThreeLines (field : TextField) (value : List Char) (h : IsValue value) :
    Breaks value (onThreeLines field value) := by
  rw [onThreeLines]
  split
  · next heq =>
    subst heq
    exact ⟨by decide, by decide, by decide, by decide⟩
  · exact ⟨List.intercalate_singleton, List.forall_mem_singleton.2 h.ne_nil,
      List.forall_mem_singleton.2 h.trimmed, fun _ hpiece => absurd hpiece List.not_mem_nil⟩

theorem parse_print_onThreeLines :
    Header.parse (print (groups decoratedCase onThreeLines).reverse ++ "f();".toList)
        (.ofText "a.js")
      = .ok decoratedCase :=
  parse_print printable_decoratedCase breaks_onThreeLines (List.reverse_perm _) _ _

end Conformance.TagHeader
