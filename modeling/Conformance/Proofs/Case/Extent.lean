import Conformance.Proofs.Case.Frontmatter
import Conformance.Proofs.Case.Leading

/-!
# How far a header reaches

A header ends with the first mark that closes its comment: `*/` after the opening of a tagged one,
`---*/` after the opening line of frontmatter. Nothing behind that end has a part in what is read.
Frontmatter without a line end behind its opening, or without a closing mark, is an error and is not
read as tags.
-/

namespace Conformance

namespace Frontmatter

/-- A source with a frontmatter comment around `block`. -/
def enclosed (lead lineEnd block body : List Char) : List Char :=
  lead ++ (opening ++ (lineEnd ++ (block ++ (closing ++ body))))

theorem enclosed_append (lead lineEnd block body : List Char) :
    enclosed lead lineEnd block [] ++ body = enclosed lead lineEnd block body := by
  simp [enclosed]

end Frontmatter

namespace Header

theorem enclosed_append (lead block body : List Char) :
    enclosed lead block [] ++ body = enclosed lead block body := by
  simp [enclosed]

/-- The comment around `block` is the header of its source, and it is frontmatter. -/
structure IsFrontmatter (lead lineEnd block body : List Char) : Prop where
  start : start (Frontmatter.enclosed lead lineEnd block body)
    = Frontmatter.enclosed [] lineEnd block body
  line : lineEnd = ['\n'] ∨ lineEnd = ['\r', '\n']
  first : Text.FirstAfter Frontmatter.closing block

/-- `front` is a source up to the end of its header, and `rest` is what comes after it. -/
inductive EndsAt : List Char → List Char → Prop
  | tagged {lead block body : List Char} (h : IsTagged lead block body) :
    EndsAt (enclosed lead block []) body
  | frontmatter {lead lineEnd block body : List Char} (h : IsFrontmatter lead lineEnd block body) :
    EndsAt (Frontmatter.enclosed lead lineEnd block []) body

variable {lead lineEnd block body : List Char}

/-! ### The three forms of a source -/

section

variable {source text : List Char}

theorem parse_of_opening (h : start source = Frontmatter.opening ++ text) (path : Path) :
    parse source path = Frontmatter.parse (start source) path := by
  rw [parse, h]
  rfl

/-- What is read from a source with this YAML text. -/
theorem parse_of_yaml? (hopening : Frontmatter.opening <+: start source)
    (h : Frontmatter.yaml? (start source) = some text) (path : Path) :
    parse source path
      = (Frontmatter.Record.ofYaml? text).elim (.error .badFrontmatter) (·.metadata path) := by
  obtain ⟨rest, hrest⟩ := hopening
  rw [parse_of_opening hrest.symm]
  exact Frontmatter.parse_of_yaml? h path

theorem parse_of_yaml?_eq_none (hopening : Frontmatter.opening <+: start source)
    (h : Frontmatter.yaml? (start source) = none) (path : Path) :
    parse source path = .error .unterminatedFrontmatter := by
  obtain ⟨rest, hrest⟩ := hopening
  rw [parse_of_opening hrest.symm, Frontmatter.parse, h]

theorem parse_of_tagged (h : start source = '/' :: '*' :: text)
    (hplain : ¬ ['-', '-', '-'] <+: text) (path : Path) :
    parse source path = TagHeader.parse text := by
  rw [parse, h]
  split
  · next rest heq =>
    cases heq
    exact absurd ⟨rest, rfl⟩ hplain
  · next heq =>
    cases heq
    rfl
  · next hne => exact absurd rfl (hne text)

theorem parse_of_missing (h : ¬ ['/', '*'] <+: start source) (path : Path) :
    parse source path = .error .missing := by
  rw [parse]
  split
  · next rest heq => exact absurd ⟨_, heq.symm⟩ h
  · next rest _ heq => exact absurd ⟨_, heq.symm⟩ h
  · rfl

end

/-! ### Frontmatter -/

namespace IsFrontmatter

theorem replace (h : IsFrontmatter lead lineEnd block body) (body' : List Char) :
    IsFrontmatter lead lineEnd block body' :=
  ⟨start_replace h.start _, h.line, h.first⟩

theorem opened?_eq (h : IsFrontmatter lead lineEnd block body) :
    Frontmatter.opened? (Header.start (Frontmatter.enclosed lead lineEnd block body))
      = some (block ++ (Frontmatter.closing ++ body)) := by
  rw [h.start]
  rcases h.line with rfl | rfl <;> rfl

theorem yaml?_eq (h : IsFrontmatter lead lineEnd block body) :
    Frontmatter.yaml? (Header.start (Frontmatter.enclosed lead lineEnd block body))
      = some (Frontmatter.dropLineEnd block) := by
  rw [Frontmatter.yaml?_eq_bind, h.opened?_eq, Option.bind_some, Text.breakOn_append h.first]
  rfl

theorem parse_eq (h : IsFrontmatter lead lineEnd block body) (path : Path) :
    parse (Frontmatter.enclosed lead lineEnd block body) path
      = (Frontmatter.Record.ofYaml? (Frontmatter.dropLineEnd block)).elim
        (.error .badFrontmatter) (·.metadata path) :=
  parse_of_yaml? ⟨_, h.start.symm⟩ h.yaml?_eq path

end IsFrontmatter

section

variable {source text : List Char} (h : start source = Frontmatter.opening ++ text)
  (hend : ∀ block, text = '\n' :: block ∨ text = '\r' :: '\n' :: block →
    ¬ Frontmatter.closing <:+: block)

include h hend

/-- The opening does not go on with a line end and, later, a closing mark. -/
theorem yaml?_of_unterminated : Frontmatter.yaml? (start source) = none := by
  rw [Frontmatter.yaml?_eq_bind, h]
  cases hopened : Frontmatter.opened? (Frontmatter.opening ++ text) with
  | none => rfl
  | some block =>
    have htext : text = '\n' :: block ∨ text = '\r' :: '\n' :: block :=
      (Frontmatter.opened?_eq_some_iff.1 hopened).imp List.append_cancel_left
        List.append_cancel_left
    rw [Option.bind_some, Text.breakOn_eq_none_iff.2 (hend block htext)]
    rfl

theorem parse_of_unterminated (path : Path) :
    parse source path = .error .unterminatedFrontmatter :=
  parse_of_yaml?_eq_none ⟨text, h.symm⟩ (yaml?_of_unterminated h hend) path

end

/-! ### The end of a header -/

theorem EndsAt.parse_eq {front rest : List Char} (h : EndsAt front rest) (rest' : List Char)
    (path : Path) : parse (front ++ rest') path = parse (front ++ rest) path := by
  cases h with
  | tagged h =>
    rw [enclosed_append, enclosed_append, h.parse_eq,
      (h.replace h.inComment h.tagged rest').parse_eq]
  | frontmatter h =>
    rw [Frontmatter.enclosed_append, Frontmatter.enclosed_append, h.parse_eq,
      (h.replace rest').parse_eq]

theorem exists_endsAt_of_opening {source text : List Char}
    (h : start source = Frontmatter.opening ++ text) :
    (∃ front rest, source = front ++ rest ∧ EndsAt front rest) ∨
      ∀ path, parse source path = .error .unterminatedFrontmatter := by
  by_cases hend : ∃ block, (text = '\n' :: block ∨ text = '\r' :: '\n' :: block) ∧
      Frontmatter.closing <:+: block
  · obtain ⟨inner, hline, hclosing⟩ := hend
    cases hbreak : Text.breakOn Frontmatter.closing inner with
    | none => exact absurd hclosing (Text.breakOn_eq_none_iff.1 hbreak)
    | some parts =>
      obtain ⟨block, body⟩ := parts
      obtain ⟨rfl, hfirst⟩ := Text.breakOn_eq_some_iff.1 hbreak
      obtain ⟨lineEnd, hlineEnd, rfl⟩ : ∃ lineEnd, (lineEnd = ['\n'] ∨ lineEnd = ['\r', '\n']) ∧
          text = lineEnd ++ (block ++ (Frontmatter.closing ++ body)) :=
        hline.elim (fun heq => ⟨_, .inl rfl, heq⟩) fun heq => ⟨_, .inr rfl, heq⟩
      obtain ⟨lead, hlead⟩ := start_suffix source
      have hsource : Frontmatter.enclosed lead lineEnd block body = source := by
        rw [Frontmatter.enclosed, ← h, hlead]
      have hheader : IsFrontmatter lead lineEnd block body := ⟨hsource ▸ h, hlineEnd, hfirst⟩
      exact .inl ⟨_, body, by rw [Frontmatter.enclosed_append, hsource], .frontmatter hheader⟩
  · exact .inr (parse_of_unterminated h fun block hline hclosing => hend ⟨block, hline, hclosing⟩)

theorem exists_endsAt_of_tagged {source text : List Char} (h : start source = '/' :: '*' :: text)
    (hplain : ¬ ['-', '-', '-'] <+: text) :
    (∃ front rest, source = front ++ rest ∧ EndsAt front rest) ∨
      ∀ path, parse source path = .error .unterminatedTags := by
  cases hbreak : Text.breakOn ['*', '/'] text with
  | none =>
    refine .inr fun path => ?_
    rw [parse_of_tagged h hplain, TagHeader.parse, hbreak]
  | some parts =>
    obtain ⟨block, body⟩ := parts
    obtain ⟨rfl, hfirst⟩ := Text.breakOn_eq_some_iff.1 hbreak
    obtain ⟨lead, hlead⟩ := start_suffix source
    have hsource : enclosed lead block body = source := by
      rw [← hlead, h]
      rfl
    have hheader : IsTagged lead block body :=
      ⟨hsource ▸ h, Text.without_of_not_part (hfirst.not_part (by simp)),
        fun hmark => hplain (hmark.trans (List.prefix_append _ _))⟩
    exact .inl ⟨_, body, by rw [enclosed_append, hsource], .tagged hheader⟩

/-- A source either has a header that ends somewhere, or it is refused for the lack of one. -/
theorem exists_endsAt (source : List Char) :
    (∃ front rest, source = front ++ rest ∧ EndsAt front rest) ∨
      ∃ error, (error = .missing ∨ error = .unterminatedTags ∨ error = .unterminatedFrontmatter) ∧
        ∀ path, parse source path = .error error := by
  by_cases hmark : ['/', '*'] <+: start source
  · obtain ⟨text, htext⟩ := hmark
    by_cases hplain : ['-', '-', '-'] <+: text
    · obtain ⟨text, rfl⟩ := hplain
      exact (exists_endsAt_of_opening htext.symm).imp_right fun h => ⟨_, .inr (.inr rfl), h⟩
    · exact (exists_endsAt_of_tagged htext.symm hplain).imp_right fun h => ⟨_, .inr (.inl rfl), h⟩
  · exact .inr ⟨_, .inl rfl, parse_of_missing hmark⟩

/-- What is read from a source is decided by its header alone, whatever comes after it. The YAML
text of frontmatter is the text before the first closing mark, less one line end, and this is what
backtracking captures; an opening without a line end or without a closing mark is an error. A source
of which none of this can be said is refused, because it has no header or one without an end. -/
theorem decided_by_header :
    (∀ front rest, EndsAt front rest → ∀ rest' path,
      parse (front ++ rest') path = parse (front ++ rest) path) ∧
    (∀ lead lineEnd block body, IsFrontmatter lead lineEnd block body →
      let source := Frontmatter.enclosed lead lineEnd block body
      ∃ text ending, block = text ++ ending ∧ Frontmatter.LineEnd text ending ∧
        (Frontmatter.captures Frontmatter.pattern (start source)).head? = some text ∧
        ∀ path, parse source path
          = (Frontmatter.Record.ofYaml? text).elim (.error .badFrontmatter) (·.metadata path)) ∧
    (∀ source text, start source = Frontmatter.opening ++ text →
      (∀ block, text = '\n' :: block ∨ text = '\r' :: '\n' :: block →
        ¬ Frontmatter.closing <:+: block) →
      (Frontmatter.captures Frontmatter.pattern (start source)).head? = none ∧
        ∀ path, parse source path = .error .unterminatedFrontmatter) ∧
    ∀ source, (∃ front rest, source = front ++ rest ∧ EndsAt front rest) ∨
      ∃ error, (error = .missing ∨ error = .unterminatedTags ∨ error = .unterminatedFrontmatter) ∧
        ∀ path, parse source path = .error error := by
  refine ⟨fun front rest h => h.parse_eq, fun lead lineEnd block body h => ?_,
    fun source text h hend => ⟨?_, parse_of_unterminated h hend⟩, exists_endsAt⟩
  · obtain ⟨text, ending, rfl, hending⟩ := Frontmatter.exists_lineEnd block
    have hyaml := h.yaml?_eq
    rw [Frontmatter.dropLineEnd_append hending] at hyaml
    refine ⟨text, ending, rfl, hending, ?_, fun path => ?_⟩
    · rw [← Frontmatter.yaml?_eq_head?_captures, hyaml]
    · rw [h.parse_eq, Frontmatter.dropLineEnd_append hending]
  · rw [← Frontmatter.yaml?_eq_head?_captures, yaml?_of_unterminated h hend]

/-- A closing mark before the header and two after it, one of them the end of a tagged header. -/
theorem decided_by_header_marksAround :
    parse ("// ---*/\n/*---\r\nes5id: 15.1\r\n---*/".toList ++ "---*/ f(); */".toList)
        (.ofText "a.js")
        = parse ("// ---*/\n/*---\r\nes5id: 15.1\r\n---*/".toList ++ []) (.ofText "a.js") ∧
      ∃ text ending, "es5id: 15.1\r\n".toList = text ++ ending ∧ Frontmatter.LineEnd text ending ∧
        (Frontmatter.captures Frontmatter.pattern
          (start "// ---*/\n/*---\r\nes5id: 15.1\r\n---*/".toList)).head? = some text := by
  have hlead : IsSkipped "// ---*/".toList := ⟨by simp, [], _, rfl, by simp, .inr (by decide)⟩
  have h : IsFrontmatter "// ---*/\n".toList ['\r', '\n'] "es5id: 15.1\r\n".toList [] := by
    refine ⟨?_, .inr rfl, by simp [Text.firstAfter_cons, Text.firstAfter_nil, Frontmatter.closing]⟩
    have hstart := start_lines (List.forall_mem_nil _) (List.forall_mem_singleton.2 hlead)
      (show ("/*---\r\nes5id: 15.1\r\n---*/".toList).head? ≠ _ by simp)
    exact hstart.trans (skipComments_mark _)
  obtain ⟨text, ending, hblock, hending, hcaptures, -⟩ := decided_by_header.2.1 _ _ _ _ h
  exact ⟨decided_by_header.1 _ _ (.frontmatter h) _ _, text, ending, hblock, hending, hcaptures⟩

end Header

end Conformance
