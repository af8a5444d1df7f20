import Conformance.Proofs.Case.TagLines

/-!
# The entries of a tagged header

What a header says is a list of texts, one for each line that is not empty without its decoration.
The texts before the first tag are ignored. From there on each tag makes an entry with the texts
that go on with it, and the tags of the header are those of its entries, one by one. What a tag does
depends on its name and on its value without semicolons, and a tag of no known name does nothing.
-/

namespace Conformance.TagHeader

/-! ### Texts -/

/-- What the lines say, without those that say nothing. -/
def textsOf (lines : List (List Char)) : List (List Char) := (lines.map bare).filter (!·.isEmpty)

/-- What the text between the comment's marks says. -/
def said (block : List Char) : List (List Char) := textsOf (Text.lines (block.dropWhile (· == '*')))

/-- The tags with one text more. -/
def addText (tags : List Tag) : List Char → List Tag
  | [] => tags
  | '@' :: rest => Tag.ofLine rest :: tags
  | text =>
    match tags with
    | [] => []
    | t :: before => t.extend text :: before

theorem addLine_eq_addText (tags : List Tag) (line : List Char) :
    addLine tags line = addText tags (bare line) := rfl

theorem addText_of_text {text : List Char} (hne : text ≠ []) (hat : text.head? ≠ some '@')
    (t : Tag) (before : List Tag) : addText (t :: before) text = t.extend text :: before := by
  rw [addText.eq_def]
  split
  · exact absurd rfl hne
  · exact absurd rfl hat
  · rfl

theorem addText_nil_of_text {text : List Char} (hat : text.head? ≠ some '@') :
    addText [] text = [] := by
  rw [addText.eq_def]
  split
  · rfl
  · exact absurd rfl hat
  · rfl

theorem textsOf_append (lines lines' : List (List Char)) :
    textsOf (lines ++ lines') = textsOf lines ++ textsOf lines' := by
  rw [textsOf, List.map_append, List.filter_append]
  rfl

theorem textsOf_cons_of_silent {line : List Char} (h : bare line = []) (lines : List (List Char)) :
    textsOf (line :: lines) = textsOf lines := by
  rw [textsOf, List.map_cons, h, List.filter_cons_of_neg (by simp)]
  rfl

theorem textsOf_singleton {line : List Char} (h : bare line ≠ []) :
    textsOf [line] = [bare line] := by
  rw [textsOf, List.map_singleton, List.filter_cons_of_pos (by simpa using h), List.filter_nil]

theorem foldl_addLine (before : List Tag) (lines : List (List Char)) :
    lines.foldl addLine before = (textsOf lines).foldl addText before := by
  induction lines generalizing before with
  | nil => rfl
  | cons line lines ih =>
    by_cases h : bare line = []
    · rw [List.foldl_cons, ih, addLine_eq_addText, h, textsOf_cons_of_silent h]
      rfl
    · rw [List.foldl_cons, ih, addLine_eq_addText, ← List.singleton_append, textsOf_append,
        textsOf_singleton h]
      rfl

theorem tags_eq_of_said (block : List Char) :
    tags block = ((said block).foldl addText []).reverse := by
  rw [tags, foldl_addLine, said]

/-! ### Entries -/

/-- A tag with the texts that go on with it. -/
structure Entry where
  /-- What stands after the `@`. -/
  opening : List Char
  further : List (List Char)
  goesOn : ∀ text ∈ further, text ≠ [] ∧ text.head? ≠ some '@'

namespace Entry

def texts (e : Entry) : List (List Char) := ('@' :: e.opening) :: e.further

/-- The name of the tag. -/
def name (e : Entry) : String := (Tag.ofLine e.opening).name

def tag (e : Entry) : Tag := e.further.foldl Tag.extend (.ofLine e.opening)

theorem name_foldl_extend (texts : List (List Char)) (t : Tag) :
    (texts.foldl Tag.extend t).name = t.name := by
  induction texts generalizing t with
  | nil => rfl
  | cons text texts ih => rw [List.foldl_cons, ih, Tag.extend]

@[simp] theorem name_tag (e : Entry) : e.tag.name = e.name := name_foldl_extend _ _

/-- The texts of an entry make one tag, whatever stands before them. -/
theorem foldl_addText_texts (e : Entry) (before : List Tag) :
    e.texts.foldl addText before = e.tag :: before := by
  have hfurther {further : List (List Char)}
      (h : ∀ text ∈ further, text ≠ [] ∧ text.head? ≠ some '@') (t : Tag) :
      further.foldl addText (t :: before) = further.foldl Tag.extend t :: before := by
    induction further generalizing t with
    | nil => rfl
    | cons text further ih =>
      obtain ⟨⟨hne, hat⟩, hrest⟩ := List.forall_mem_cons.1 h
      rw [List.foldl_cons, addText_of_text hne hat, ih hrest, List.foldl_cons]
  exact hfurther e.goesOn _

end Entry

/-- The block says the texts of the preface, which are ignored, and then those of the entries. -/
structure MadeOf (block : List Char) (preface : List (List Char)) (entries : List Entry) :
    Prop where
  said : said block = preface ++ entries.flatMap Entry.texts
  preface : ∀ text ∈ preface, text.head? ≠ some '@'

theorem foldl_addText_preface {preface : List (List Char)}
    (h : ∀ text ∈ preface, text.head? ≠ some '@') : preface.foldl addText [] = [] := by
  induction preface with
  | nil => rfl
  | cons text preface ih =>
    obtain ⟨htext, hpreface⟩ := List.forall_mem_cons.1 h
    rw [List.foldl_cons, addText_nil_of_text htext, ih hpreface]

theorem foldl_addText_entries (entries : List Entry) (before : List Tag) :
    (entries.flatMap Entry.texts).foldl addText before
      = (entries.map Entry.tag).reverse ++ before := by
  induction entries generalizing before with
  | nil => rfl
  | cons e entries ih =>
    rw [List.flatMap_cons, List.foldl_append, Entry.foldl_addText_texts, ih, List.map_cons,
      List.reverse_cons, List.append_assoc]
    rfl

theorem MadeOf.tags_eq {block : List Char} {preface : List (List Char)} {entries : List Entry}
    (h : MadeOf block preface entries) : tags block = entries.map Entry.tag := by
  rw [tags_eq_of_said, h.said, List.foldl_append, foldl_addText_preface h.preface,
    foldl_addText_entries, List.append_nil, List.reverse_reverse]

/-! ### What a tag does -/

/-- The tags that say something which can be said only once. -/
def fieldNames : List String := ["name", "section", "assertion", "description", "negative"]

/-- The name is one of a tag that does something. -/
def isKnown (name : String) : Bool :=
  (fieldNames ++ ["onlyStrict", "strict_only", "noStrict"]).contains name

def Tag.known (t : Tag) : Bool := isKnown t.name

def Entry.known (e : Entry) : Bool := isKnown e.name

@[simp] theorem Entry.known_tag (e : Entry) : e.tag.known = e.known := by
  rw [Tag.known, name_tag, known]

theorem Fields.add_congr {t t' : Tag} (hname : t.name = t'.name) (htext : t.text = t'.text)
    (f : Fields) : f.add t = f.add t' := by
  rw [add, add, hname, htext]

theorem Fields.add_of_not_known {t : Tag} (h : t.known = false) (f : Fields) :
    f.add t = .ok f := by
  rw [add]
  split <;> first | rfl | next hname => rw [Tag.known, hname] at h; cases h

/-- Tags of no known name can be left out. -/
theorem foldlM_add_filter_known (ts : List Tag) (f : Fields) :
    (ts.filter Tag.known).foldlM Fields.add f = ts.foldlM Fields.add f := by
  induction ts generalizing f with
  | nil => rfl
  | cons t ts ih =>
    cases hknown : t.known with
    | true =>
      rw [List.filter_cons_of_pos hknown, List.foldlM_cons, List.foldlM_cons]
      exact congrArg (f.add t >>= ·) (funext ih)
    | false =>
      rw [List.filter_cons_of_neg (by simp [hknown]), List.foldlM_cons,
        Fields.add_of_not_known hknown, ih]
      rfl

theorem metadata_filter_known (ts : List Tag) :
    metadata (ts.filter Tag.known) = metadata ts := by
  rw [metadata, foldlM_add_filter_known, metadata]

theorem metadata_congr {t t' : Tag} (hname : t.name = t'.name) (htext : t.text = t'.text)
    (front rest : List Tag) : metadata (front ++ t :: rest) = metadata (front ++ t' :: rest) := by
  rw [metadata, metadata, List.foldlM_append, List.foldlM_append]
  simp only [List.foldlM_cons, Fields.add_congr hname htext]

theorem metadata_of_not_known {t : Tag} (h : t.known = false) (front rest : List Tag) :
    metadata (front ++ t :: rest) = metadata (front ++ rest) := by
  rw [← metadata_filter_known, List.filter_append, List.filter_cons_of_neg (by simp [h]),
    ← List.filter_append, metadata_filter_known]

end Conformance.TagHeader
