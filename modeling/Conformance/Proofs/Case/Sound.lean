import Conformance.Proofs.Case.Extent
import Conformance.Proofs.Case.Printed
import Conformance.Proofs.Path

/-!
# Cases are well formed

What is counted, sorted and filtered by is well formed for every case that can be read from a
source: its name is not empty, its flags do not contradict each other, and its section key is one
entry without blanks around it. A value of a tagged header is put together from lines that have no
line feed, and it is trimmed when the header is complete. One more line or tag does not undo this,
since an empty value takes back what an earlier tag of the same name said.
-/

namespace Conformance

/-! ### Section keys -/

namespace SectionKey

/-- The text is the key of a section, and its own key. -/
structure IsKey (key : String) : Prop where
  ne_empty : key ≠ ""
  oneEntry : ',' ∉ key.toList
  trimmed : Text.trimmed key = key
  reduced : ofReference (some key) = key

theorem ofReference_self {key : String} (hne : key ≠ "") (hcomma : ',' ∉ key.toList)
    (htrim : Text.trimmed key = key) : ofReference (some key) = key := by
  have hentry : key.toList.takeWhile (· ≠ ',') = key.toList := by
    rw [List.takeWhile_eq_self_iff]
    intro c hc
    simpa using fun heq : c = ',' => hcomma (heq ▸ hc)
  have hkey : String.ofList (Text.trim key.toList) = key := htrim
  have hfirst : Text.trim key.toList ≠ [] := fun hnil => hne (by rw [← hkey, hnil])
  rw [ofReference, hentry]
  simp [hfirst, hkey]

theorem isKey_ofReference (reference? : Option String) : IsKey (ofReference reference?) := by
  have hunsectioned : IsKey unsectioned := ⟨by decide, by decide, by decide, by decide⟩
  cases reference? with
  | none => exact hunsectioned
  | some reference =>
    rw [ofReference]
    split
    · exact hunsectioned
    · next hempty =>
      have hne : String.ofList (Text.trim (reference.toList.takeWhile (· ≠ ','))) ≠ "" := by
        simpa using hempty
      have hcomma : ',' ∉
          (String.ofList (Text.trim (reference.toList.takeWhile (· ≠ ',')))).toList := by
        rw [String.toList_ofList]
        intro hmem
        simpa using List.mem_takeWhile_imp (Text.mem_of_mem_trim hmem)
      have htrim := Text.trimmed_ofList_trim (reference.toList.takeWhile (· ≠ ','))
      exact ⟨hne, hcomma, htrim, ofReference_self hne hcomma htrim⟩

end SectionKey

/-! ### Tagged headers -/

namespace TagHeader

/-- What a field can be: something on one line, without blanks around it. -/
structure IsField (text : String) : Prop where
  ne_empty : text ≠ ""
  trimmed : Text.trimmed text = text
  oneLine : '\n' ∉ text.toList

theorem not_mem_bare {line : List Char} (h : '\n' ∉ line) : '\n' ∉ bare line := fun hmem =>
  h (Text.mem_of_mem_trim ((List.dropWhile_suffix _).subset (Text.mem_of_mem_trim hmem)))

theorem Tag.not_mem_ofLine {line : List Char} (h : '\n' ∉ line) : '\n' ∉ (ofLine line).value :=
  fun hmem => h ((List.dropWhile_suffix _).subset ((List.dropWhile_suffix _).subset
    (Text.mem_of_mem_trim hmem)))

theorem Tag.not_mem_extend {t : Tag} {text : List Char} (ht : '\n' ∉ t.value) (h : '\n' ∉ text) :
    '\n' ∉ (t.extend text).value := by
  rw [extend]
  split
  · exact h
  · simpa using ⟨ht, h⟩

/-- One line more keeps line feeds out of the values. -/
theorem not_mem_addLine {tags : List Tag} (h : ∀ t ∈ tags, '\n' ∉ t.value) {line : List Char}
    (hline : '\n' ∉ line) : ∀ t ∈ addLine tags line, '\n' ∉ t.value := by
  have hbare := not_mem_bare hline
  rw [addLine]
  split
  · exact h
  · next rest heq =>
    rw [heq] at hbare
    have hrest : '\n' ∉ rest := fun hmem => hbare (List.mem_cons_of_mem _ hmem)
    exact List.forall_mem_cons.2 ⟨Tag.not_mem_ofLine hrest, h⟩
  · split
    · exact h
    · obtain ⟨ht, hbefore⟩ := List.forall_mem_cons.1 h
      exact List.forall_mem_cons.2 ⟨Tag.not_mem_extend ht hbare, hbefore⟩

theorem not_mem_tags (block : List Char) : ∀ t ∈ tags block, '\n' ∉ t.value := by
  have hfold {lines : List (List Char)} (hlines : ∀ line ∈ lines, '\n' ∉ line) {before : List Tag}
      (h : ∀ t ∈ before, '\n' ∉ t.value) : ∀ t ∈ lines.foldl addLine before, '\n' ∉ t.value := by
    induction lines generalizing before with
    | nil => exact h
    | cons line lines ih =>
      obtain ⟨hline, hlines⟩ := List.forall_mem_cons.1 hlines
      exact ih hlines (not_mem_addLine h hline)
  intro t ht
  exact hfold (Text.not_mem_of_mem_lines _) (List.forall_mem_nil _) t (List.mem_reverse.1 ht)

theorem Tag.isField_value? {t : Tag} (h : '\n' ∉ t.value) : ∀ text ∈ t.value?, IsField text := by
  intro text htext
  rw [value?] at htext
  split at htext
  · cases htext
  · next hne =>
    cases htext
    refine ⟨by simpa using hne, Text.trimmed_ofList_trim _, ?_⟩
    rw [String.toList_ofList]
    intro hmem
    -- what is left of the value is a part of it
    exact h ((List.rdropWhile_prefix Text.isBlank t.value).subset
      ((List.rdropWhile_prefix _ _).subset (Text.mem_of_mem_trim hmem)))

theorem isWord_of_expectation {value : List Char} {kind : String}
    (h : expectation value = .ok (.kind kind)) : IsWord kind.toList := by
  rw [expectation] at h
  split at h
  · cases h
  · split at h
    · next hidentifier =>
      cases h
      rw [String.toList_ofList]
      exact isWord_of_isIdentifier hidentifier
    · cases h

/-! #### Fields -/

/-- The text that is set is a field, and the kind that is expected a word. -/
def Effect.Sound : Effect → Prop
  | .text _ value => ∀ text ∈ value, IsField text
  | .negative (.kind kind) => IsWord kind.toList
  | _ => True

structure Fields.Sound (f : Fields) : Prop where
  name : ∀ text ∈ f.name?, IsField text
  reference : ∀ text ∈ f.reference?, IsField text
  assertion : ∀ text ∈ f.assertion?, IsField text
  description : ∀ text ∈ f.description?, IsField text
  kind : ∀ kind, f.expectation? = some (.kind kind) → IsWord kind.toList

theorem Tag.sound_effect {t : Tag} (ht : '\n' ∉ t.value) {x : Effect} (h : t.effect = .ok x) :
    x.Sound := by
  rw [effect] at h
  split at h
  case h_5 =>
    cases hvalue : expectation t.text with
    | error e =>
      rw [hvalue] at h
      cases h
    | ok e =>
      rw [hvalue] at h
      cases h
      cases e with
      | anyError => trivial
      | kind kind => exact isWord_of_expectation hvalue
  all_goals
    cases h
    first | exact isField_value? ht | trivial

/-- A later tag may undo what an earlier one said, but it leaves nothing worse behind. -/
theorem Effect.sound_apply {x : Effect} (hx : x.Sound) {f : Fields} (hf : f.Sound) :
    (x.apply f).Sound := by
  cases x with
  | text field value =>
    cases field with
    | name => exact { hf with name := hx }
    | reference => exact { hf with reference := hx }
    | assertion => exact { hf with assertion := hx }
    | description => exact { hf with description := hx }
  | negative e =>
    refine { hf with kind := ?_ }
    rintro kind heq
    cases heq
    exact hx
  | strict | sloppy | nothing => exact { hf with }

theorem Fields.sound_add {f f' : Fields} (hf : f.Sound) {t : Tag} (ht : '\n' ∉ t.value)
    (h : f.add t = .ok f') : f'.Sound := by
  rw [add_eq_effect] at h
  cases heffect : t.effect with
  | error e =>
    rw [heffect] at h
    cases h
  | ok x =>
    rw [heffect] at h
    cases h
    exact Effect.sound_apply (Tag.sound_effect ht heffect) hf

theorem Fields.sound_foldlM {ts : List Tag} (hts : ∀ t ∈ ts, '\n' ∉ t.value) {f f' : Fields}
    (hf : f.Sound) (h : ts.foldlM add f = .ok f') : f'.Sound := by
  induction ts generalizing f with
  | nil =>
    cases h
    exact hf
  | cons t ts ih =>
    -- an error stops the reading, so only a tag that adds something is left to consider
    obtain ⟨ht, hts⟩ := List.forall_mem_cons.1 hts
    rw [List.foldlM_cons] at h
    cases hadd : f.add t with
    | error e =>
      rw [hadd] at h
      cases h
    | ok next =>
      rw [hadd] at h
      exact ih hts (sound_add hf ht hadd) h

/-! #### Metadata -/

/-- Metadata as a tagged header can say it. -/
structure Sound (m : Metadata) : Prop where
  dialect : m.dialect = .tagged
  name : IsField m.name
  reference : ∀ text ∈ m.reference?, IsField text
  assertion : ∀ text ∈ m.assertion?, IsField text
  description : ∀ text ∈ m.description?, IsField text
  kind : ∀ kind, m.expectation? = some (.kind kind) → IsWord kind.toList
  flags : ∀ flag ∈ m.flags, flag = strictFlag ∨ flag = sloppyFlag
  exclusive : ¬ (strictFlag ∈ m.flags ∧ sloppyFlag ∈ m.flags)

theorem Fields.sound_metadata {f : Fields} (hf : f.Sound) {m : Metadata}
    (h : f.metadata = .ok m) : TagHeader.Sound m := by
  rw [metadata] at h
  split at h
  · cases h
  · next name hname =>
    split at h
    · cases h
    · next hflags =>
      cases h
      refine ⟨rfl, hf.name name hname, hf.reference, hf.assertion, hf.description, hf.kind, ?_, ?_⟩
      all_goals
        dsimp only
        revert hflags
        cases f.strict <;> cases f.sloppy <;> decide

theorem sound_of_parse {text : List Char} {m : Metadata} (h : parse text = .ok m) : Sound m := by
  rw [parse] at h
  split at h
  · cases h
  · next block _ _ =>
    rw [metadata] at h
    cases hfold : (tags block).foldlM Fields.add {} with
    | error e =>
      rw [hfold] at h
      cases h
    | ok f =>
      rw [hfold] at h
      have hempty : Fields.Sound {} := by constructor <;> rintro _ ⟨⟩
      exact Fields.sound_metadata (Fields.sound_foldlM (not_mem_tags block) hempty hfold) h

end TagHeader

/-! ### Frontmatter -/

namespace Frontmatter

/-- Metadata as frontmatter can say it of the case at a path. -/
structure Sound (m : Metadata) (path : Path) : Prop where
  dialect : m.dialect = .frontmatter
  name : path.stem? = some (Text.Utf8.octets m.name)
  reference : m.reference?.isSome
  expectation : m.expectation? ≠ some .anyError
  exclusive : ¬ (strictFlag ∈ m.flags ∧ sloppyFlag ∈ m.flags)

theorem Record.sound_metadata {r : Record} {m : Metadata} {path : Path}
    (h : r.metadata path = .ok m) : Sound m path := by
  rw [metadata] at h
  split at h
  · cases h
  · cases h
  · next reference name _ hname =>
    dsimp only at h
    split at h
    · cases h
    · next hflags =>
      cases h
      obtain ⟨stem, hstem, htext⟩ := Option.bind_eq_some_iff.1 hname
      refine ⟨rfl, ?_, rfl, ?_, ?_⟩
      · rw [hstem, Text.Utf8.text?_eq_some_iff.1 htext]
      · dsimp only
        cases r.negative? <;> nofun
      · simpa [contradictory] using hflags

theorem sound_of_parse {header : List Char} {m : Metadata} {path : Path}
    (h : parse header path = .ok m) : Sound m path := by
  rw [parse] at h
  split at h
  · cases h
  · split at h
    · cases h
    · exact Record.sound_metadata h

end Frontmatter

/-! ### Cases -/

theorem Header.sound_of_parse {source : List Char} {m : Metadata} {path : Path}
    (h : parse source path = .ok m) :
    Frontmatter.opening <+: start source ∧ Frontmatter.Sound m path ∨
      ¬ Frontmatter.opening <+: start source ∧ TagHeader.Sound m := by
  by_cases hopening : Frontmatter.opening <+: start source
  · obtain ⟨text, htext⟩ := hopening
    rw [parse_of_opening htext.symm] at h
    exact .inl ⟨⟨text, htext⟩, Frontmatter.sound_of_parse h⟩
  · by_cases hmark : ['/', '*'] <+: start source
    · obtain ⟨text, htext⟩ := hmark
      have hplain : ¬ ['-', '-', '-'] <+: text := fun ⟨rest, hrest⟩ =>
        hopening ⟨rest, by rw [← htext, ← hrest]; rfl⟩
      rw [parse_of_tagged htext.symm hplain] at h
      exact .inr ⟨hopening, TagHeader.sound_of_parse h⟩
    · rw [parse_of_missing hmark] at h
      cases h

namespace Case

/-- What a case is counted, sorted and filtered by, and what its header can have said. -/
structure WellFormed (c : Case) : Prop where
  id : c.id ≠ ""
  exclusive : ¬ (strictFlag ∈ c.metadata.flags ∧ sloppyFlag ∈ c.metadata.flags)
  sectionKey : SectionKey.IsKey c.sectionKey
  tagged : ¬ Frontmatter.opening <+: Header.start c.source.toList → TagHeader.Sound c.metadata
  frontmatter : Frontmatter.opening <+: Header.start c.source.toList →
    Frontmatter.Sound c.metadata c.path

/-- A case that is read from a source is the case of that source, and well formed. -/
theorem wellFormed_of_ofSource {path : Path} {source : String} {c : Case}
    (h : ofSource path source = .ok c) :
    c.path = path ∧ c.source = source ∧ c.WellFormed := by
  rw [ofSource] at h
  cases hparse : Header.parse source.toList path with
  | error e =>
    rw [hparse] at h
    cases h
  | ok m =>
    rw [hparse] at h
    cases h
    refine ⟨rfl, rfl, ?_⟩
    rcases Header.sound_of_parse hparse with ⟨hopening, hsound⟩ | ⟨hopening, hsound⟩
    · exact {
        id := Text.Utf8.octets_eq_nil_iff.not.1 (Path.stem?_ne_nil hsound.name)
        exclusive := hsound.exclusive
        sectionKey := SectionKey.isKey_ofReference _
        tagged := fun h => absurd hopening h
        frontmatter := fun _ => hsound }
    · exact {
        id := hsound.name.ne_empty
        exclusive := hsound.exclusive
        sectionKey := SectionKey.isKey_ofReference _
        tagged := fun _ => hsound
        frontmatter := fun h => absurd h hopening }

/-- An assertion is taken back in a tagged header, and frontmatter has a flag that means nothing. -/
theorem wellFormed_of_ofSource_bothDialects :
    let block :=
      "\n@name: S1;\n@section: 8.1, 8.2;\n@assertion: a;\n@assertion: ;\n@negative E\n".toList
    let tagged := String.ofList (Header.enclosed [] block " f();".toList)
    let yaml := "es5id: 8.1\nflags: [noStrict, raw]\n".toList
    let frontmatter := String.ofList (Frontmatter.enclosed [] ['\n'] yaml " f();".toList)
    (∃ c, ofSource (.ofText "a.js") tagged = .ok c ∧ c.sectionKey = "8.1" ∧
      c.metadata.assertion? = none ∧ c.WellFormed) ∧
    ∃ c, ofSource (.ofText "x/b.js") frontmatter = .ok c ∧ c.sectionKey = "8.1" ∧ c.id = "b" ∧
      c.WellFormed := by
  intro block tagged yaml frontmatter
  constructor
  · let m : Metadata := ⟨"S1", some "8.1, 8.2", none, none, some (.kind "E"), [], .tagged⟩
    have hheader : Header.IsTagged [] block " f();".toList :=
      Header.isTagged_of_nil (by simp [block]) (by decide) _
    have htags : TagHeader.metadata (TagHeader.tags block) = .ok m := by decide
    have hcase : ofSource (.ofText "a.js") tagged = .ok ⟨.ofText "a.js", tagged, m⟩ := by
      rw [ofSource, String.toList_ofList, hheader.parse_eq, htags]
      rfl
    exact ⟨_, hcase, by decide, rfl, (wellFormed_of_ofSource hcase).2.2⟩
  · let m : Metadata := ⟨"b", some "8.1", none, none, none, ["noStrict", "raw"], .frontmatter⟩
    have hheader : Header.IsFrontmatter [] ['\n'] yaml " f();".toList :=
      ⟨Header.skipComments_mark _, .inl rfl,
        by simp [yaml, Text.firstAfter_cons, Text.firstAfter_nil, Frontmatter.closing]⟩
    have hyaml : (Frontmatter.Record.ofYaml? (Frontmatter.dropLineEnd yaml)).elim
        (.error .badFrontmatter) (·.metadata (.ofText "x/b.js")) = .ok m := by decide +kernel
    have hcase : ofSource (.ofText "x/b.js") frontmatter
        = .ok ⟨.ofText "x/b.js", frontmatter, m⟩ := by
      rw [ofSource, String.toList_ofList, hheader.parse_eq, hyaml]
      rfl
    exact ⟨_, hcase, by decide, rfl, (wellFormed_of_ofSource hcase).2.2⟩

end Case

end Conformance
