import Conformance.Proofs.Case.Extent
import Conformance.Proofs.Text.Crlf

/-!
# Headers with other line ends

A carriage return before each line feed of a source changes nothing in what its header says. It is a
blank, so it is skipped before the header as the line feed is; in a tagged header it belongs to the
line ends; and in frontmatter it is allowed behind the opening and taken off with the last line
feed, so the YAML text is the same but for its own line ends.
-/

namespace Conformance

open Text (crlf Unbroken)

/-! ### Before the header -/

namespace Header

theorem afterLine_crlf (text : List Char) : afterLine (crlf text) = crlf (afterLine text) := by
  induction text with
  | nil => rfl
  | cons c text ih =>
    by_cases hc : c = '\n'
    · subst hc
      rfl
    · have hlead : '\n' ∉ [c] := by simpa using Ne.symm hc
      have hskip (text : List Char) : afterLine (c :: text) = afterLine text :=
        afterLine_append_of_not_mem hlead text
      rw [Text.crlf_cons hc, hskip, hskip, ih]

theorem trimStart_crlf (text : List Char) :
    Text.trimStart (crlf text) = crlf (Text.trimStart text) :=
  Text.dropWhile_crlf (by decide) text

theorem skipComments_crlf (text : List Char) :
    skipComments (crlf text) = crlf (skipComments text) := by
  induction text using skipComments.induct with
  | case1 text rest heq ih =>
    have hcomment : Text.trimStart (crlf text) = '/' :: '/' :: crlf rest := by
      rw [trimStart_crlf, heq]
      rfl
    rw [skipComments_of_comment hcomment, afterLine_crlf, ih, skipComments_of_comment heq]
  | case2 text hne =>
    rw [skipComments_of_not_comment hne, skipComments_of_not_comment, trimStart_crlf]
    intro rest hrest
    rw [trimStart_crlf] at hrest
    have hmark : Unbroken ['/', '/'] := by decide
    obtain ⟨rest', htext, -⟩ := (Text.crlf_eq_append_iff hmark).1 hrest
    exact hne rest' htext

theorem start_crlf (source : List Char) : start (crlf source) = crlf (start source) := by
  rw [start, Text.dropWhile_crlf (by decide), skipComments_crlf, start]

end Header

/-! ### In a tagged header -/

theorem TagHeader.tags_crlf {block : List Char} (h : '\r' ∉ block) :
    tags (crlf block) = tags block := by
  have hrest : '\r' ∉ block.dropWhile (· == '*') := fun hmem =>
    h ((List.dropWhile_suffix _).subset hmem)
  rw [tags, Text.dropWhile_crlf (by decide), Text.lines_crlf hrest, tags]

theorem TagHeader.parse_tagged_crlf {text : List Char} (h : '\r' ∉ text) :
    parse (crlf text) = parse text := by
  rw [parse, parse, Text.breakOn_crlf (by decide) (by simp)]
  cases hbreak : Text.breakOn ['*', '/'] text with
  | none => rfl
  | some parts =>
    obtain ⟨block, body⟩ := parts
    obtain ⟨rfl, -⟩ := Text.breakOn_eq_some_iff.1 hbreak
    show metadata (tags (crlf block)) = metadata (tags block)
    rw [tags_crlf fun hmem => h (List.mem_append_left _ hmem)]

/-! ### In frontmatter -/

namespace Frontmatter

theorem lineEnd_crlf {text ending : List Char} (h : LineEnd text ending)
    (hcr : '\r' ∉ text ++ ending) : LineEnd (crlf text) (crlf ending) := by
  cases h with
  | crlf => simp at hcr
  | lf => exact .crlf _
  | cr => simp at hcr
  | none hlf hnot =>
    have hlast : (crlf text).getLast? = text.getLast? := by
      rcases text.eq_nil_or_concat' with rfl | ⟨front, c, rfl⟩
      · rfl
      · have hc : c ≠ '\n' := by simpa using hlf
        rw [Text.crlf_append, Text.crlf_cons hc, List.getLast?_concat]
        exact List.getLast?_concat
    exact .none (by rwa [hlast]) (by rwa [hlast])

theorem dropLineEnd_crlf {block : List Char} (h : '\r' ∉ block) :
    dropLineEnd (crlf block) = crlf (dropLineEnd block) := by
  obtain ⟨text, ending, rfl, hending⟩ := exists_lineEnd block
  rw [Text.crlf_append, dropLineEnd_append (lineEnd_crlf hending h), dropLineEnd_append hending]

theorem opened?_eq_none_of_head {c : Char} (hlf : c ≠ '\n') (hcr : c ≠ '\r') (text : List Char) :
    opened? (opening ++ c :: text) = none := by
  rw [Option.eq_none_iff_forall_ne_some]
  intro rest h
  rcases opened?_eq_some_iff.1 h with h | h
  · exact hlf (List.cons.inj (List.append_cancel_left h)).1
  · exact hcr (List.cons.inj (List.append_cancel_left h)).1

theorem opened?_eq_none_of_not_opening {header : List Char} (h : ¬ opening <+: header) :
    opened? header = none := by
  rw [Option.eq_none_iff_forall_ne_some]
  intro rest hrest
  rcases opened?_eq_some_iff.1 hrest with rfl | rfl <;> exact h (List.prefix_append _ _)

theorem opened?_crlf {header : List Char} (h : '\r' ∉ header) :
    opened? (crlf header) = (opened? header).map crlf := by
  have hunbroken : Unbroken opening := by decide
  by_cases hopening : opening <+: header
  · obtain ⟨text, rfl⟩ := hopening
    rw [Text.crlf_append, Text.crlf_eq_self hunbroken.1]
    cases text with
    | nil => rfl
    | cons c text =>
      by_cases hlf : c = '\n'
      · subst hlf
        rfl
      · have hcr : c ≠ '\r' := fun heq => h (by simp [heq])
        rw [Text.crlf_cons hlf, opened?_eq_none_of_head hlf hcr, opened?_eq_none_of_head hlf hcr]
        rfl
  · rw [opened?_eq_none_of_not_opening hopening,
      opened?_eq_none_of_not_opening (mt (Text.prefix_crlf_iff hunbroken).1 hopening)]
    rfl

theorem yaml?_crlf {header : List Char} (h : '\r' ∉ header) :
    yaml? (crlf header) = (yaml? header).map crlf := by
  rw [yaml?_eq_bind, yaml?_eq_bind, opened?_crlf h]
  cases hopened : opened? header with
  | none => rfl
  | some text =>
    have htext : '\r' ∉ text := by
      rcases opened?_eq_some_iff.1 hopened with rfl | rfl <;> exact fun hmem => h (by simp [hmem])
    rw [Option.map_some, Option.bind_some, Option.bind_some,
      Text.breakOn_crlf (by decide) (by simp [closing])]
    cases hbreak : Text.breakOn closing text with
    | none => rfl
    | some parts =>
      obtain ⟨block, body⟩ := parts
      obtain ⟨rfl, -⟩ := Text.breakOn_eq_some_iff.1 hbreak
      exact congrArg some (dropLineEnd_crlf fun hmem => htext (List.mem_append_left _ hmem))

end Frontmatter

/-! ### Sources -/

namespace Header

variable {source : List Char}

theorem not_mem_start (h : '\r' ∉ source) : '\r' ∉ start source := fun hmem =>
  h ((start_suffix source).subset hmem)

theorem opening_start_crlf_iff :
    Frontmatter.opening <+: start (crlf source) ↔ Frontmatter.opening <+: start source := by
  have hunbroken : Unbroken Frontmatter.opening := by decide
  rw [start_crlf, Text.prefix_crlf_iff hunbroken]

theorem parse_crlf_of_not_frontmatter (h : '\r' ∉ source)
    (hplain : ¬ Frontmatter.opening <+: start source) (path : Path) :
    parse (crlf source) path = parse source path := by
  by_cases hmark : ['/', '*'] <+: start source
  · obtain ⟨text, htext⟩ := hmark
    have hstart : start (crlf source) = '/' :: '*' :: crlf text := by
      rw [start_crlf, ← htext]
      rfl
    have htext' : '\r' ∉ text := fun hmem => not_mem_start h (by rw [← htext]; simp [hmem])
    have hdashes : ¬ ['-', '-', '-'] <+: text := by
      rintro ⟨rest, rfl⟩
      exact hplain ⟨rest, htext⟩
    have hdashes' : ¬ ['-', '-', '-'] <+: crlf text := by
      rwa [Text.prefix_crlf_iff (by decide)]
    rw [parse_of_tagged hstart hdashes', TagHeader.parse_tagged_crlf htext']
    exact (parse_of_tagged htext.symm hdashes path).symm
  · have hmark' : ¬ ['/', '*'] <+: start (crlf source) := by
      rwa [start_crlf, Text.prefix_crlf_iff (by decide)]
    rw [parse_of_missing hmark', parse_of_missing hmark]

/-- Line ends make no difference to a source whose header is tagged, missing or without an end: the
same metadata or the same error is read from it. Frontmatter is recognized with either line ends or
with neither, and the YAML text in it is the same but for its own line ends. -/
theorem parse_crlf (h : '\r' ∉ source) (path : Path) :
    (¬ Frontmatter.opening <+: start source ∨ Frontmatter.yaml? (start source) = none →
      parse (crlf source) path = parse source path) ∧
    (Frontmatter.opening <+: start (crlf source) ↔ Frontmatter.opening <+: start source) ∧
    Frontmatter.yaml? (start (crlf source)) = (Frontmatter.yaml? (start source)).map crlf ∧
    ∀ text, Frontmatter.opening <+: start source → Frontmatter.yaml? (start source) = some text →
      parse source path
        = (Frontmatter.Record.ofYaml? text).elim (.error .badFrontmatter) (·.metadata path) ∧
      parse (crlf source) path
        = (Frontmatter.Record.ofYaml? (crlf text)).elim (.error .badFrontmatter)
          (·.metadata path) := by
  have hyaml : Frontmatter.yaml? (start (crlf source))
      = (Frontmatter.yaml? (start source)).map crlf := by
    rw [start_crlf, Frontmatter.yaml?_crlf (not_mem_start h)]
  refine ⟨fun hheader => ?_, opening_start_crlf_iff, hyaml, fun text hopening htext => ?_⟩
  · by_cases hopening : Frontmatter.opening <+: start source
    · have hnone := hheader.resolve_left (not_not_intro hopening)
      rw [parse_of_yaml?_eq_none hopening hnone,
        parse_of_yaml?_eq_none (opening_start_crlf_iff.2 hopening) (by rw [hyaml, hnone]; rfl)]
    · exact parse_crlf_of_not_frontmatter h hopening path
  · exact ⟨parse_of_yaml? hopening htext path,
      parse_of_yaml? (opening_start_crlf_iff.2 hopening) (by rw [hyaml, htext]; rfl) path⟩

theorem parse_crlf_tagged_and_frontmatter :
    parse (crlf "/**\n * @name: S1;\n *\n   goes on\n */\nf();\n".toList) (.ofText "a.js")
        = parse "/**\n * @name: S1;\n *\n   goes on\n */\nf();\n".toList (.ofText "a.js") ∧
      Frontmatter.yaml? (start (crlf "/*---\nes5id: 15.1\n\n---*/\nf();\n".toList))
        = (Frontmatter.yaml? (start "/*---\nes5id: 15.1\n\n---*/\nf();\n".toList)).map crlf := by
  have hplain : ¬ Frontmatter.opening
      <+: start "/**\n * @name: S1;\n *\n   goes on\n */\nf();\n".toList := by
    show ¬ _ <+: skipComments ('/' :: '*' :: "*\n * @name: S1;\n *\n   goes on\n */\nf();\n".toList)
    rw [skipComments_mark]
    decide
  exact ⟨(parse_crlf (by decide) _).1 (.inl hplain),
    (parse_crlf (by decide) (.ofText "a.js")).2.2.1⟩

end Header

end Conformance
