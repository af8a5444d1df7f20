import Conformance.Proofs.Case.LastLine

/-!
# A semicolon at the end of a group of lines

A value loses the semicolons at its end when all its lines are read, so one more after its last line
makes no difference, with two exceptions. The name of a tag is cut off before that, and only at a
colon or a blank. A tag that stands alone on its line takes the semicolon into its name: it is no
known tag then, and what it says is lost. And semicolons are taken off only once: those that stand
before a blank stay in the value when another comes after it.
-/

namespace Conformance.TagHeader

open Text (Without isBlank trim trimStart trimEnd endsBlank)

/-! ### A semicolon after a text -/

/-- Blanks and a semicolon can be put after a text: semicolons are taken off together, so no blank
may stand between two of them. -/
structure Closable (text blanks : List Char) : Prop where
  last : endsBlank text = false
  blank : ∀ c ∈ blanks, isBlank c = true
  together : blanks = [] ∨ text.getLast? ≠ some ';'

theorem Closable.of_suffix {text blanks : List Char} (h : Closable text blanks) {u : List Char}
    (hsuffix : u <:+ text) : Closable u blanks where
  last := Text.endsBlank_of_suffix hsuffix h.last
  blank := h.blank
  together := h.together.imp_right fun hlast hsome => hlast (Text.getLast?_of_suffix hsuffix hsome)

theorem endsBlank_semicolon (text : List Char) : endsBlank (text ++ [';']) = false := by
  rw [Text.endsBlank_append (by simp)]
  rfl

/-- A line with a semicolon after it says the same and, after the blanks that it ends with, the
semicolon. -/
theorem exists_bare_semicolon {line : List Char} (h : bare line ≠ []) :
    ∃ blanks : List Char, (∀ c ∈ blanks, isBlank c = true) ∧
      (blanks = [] ↔ endsBlank line = false) ∧
      bare (line ++ [';']) = bare line ++ (blanks ++ [';']) := by
  have hstars : (trim line).dropWhile (· == '*') ≠ [] := by
    intro hnil
    rw [bare, hnil] at h
    exact h rfl
  have htrim : trim line ≠ [] := by
    intro hnil
    rw [hnil] at hstars
    exact hstars rfl
  have hstart : trimStart line ≠ [] := by
    intro hnil
    rw [trim, hnil] at htrim
    exact htrim rfl
  have hlast : endsBlank (trim line) = false := Text.endsBlank_trimEnd _
  have hparts : trim line ++ (trimStart line).rtakeWhile isBlank = trimStart line :=
    List.rdropWhile_append_rtakeWhile
  generalize hblanks : (trimStart line).rtakeWhile isBlank = blanks at hparts
  have hblank : ∀ c ∈ blanks, isBlank c = true := fun c hc =>
    List.mem_rtakeWhile_imp (hblanks ▸ hc)
  refine ⟨blanks, hblank, ?_, ?_⟩
  · have hline : line.takeWhile isBlank ++ trimStart line = line := List.takeWhile_append_dropWhile
    rw [← hline, Text.endsBlank_append hstart, ← hparts]
    by_cases hnil : blanks = []
    · simp [hnil, hlast]
    · simp [Text.endsBlank_append hnil, Text.endsBlank_of_blank hnil hblank, hnil]
  · have hlast' : endsBlank ((trim line).dropWhile (· == '*')) = false :=
      Text.endsBlank_of_suffix (List.dropWhile_suffix _) hlast
    rw [bare, Text.trim_append hstart (by simp) rfl, ← hparts, List.append_assoc,
      Text.dropWhile_append_of_stop (.inl hstars),
      Text.trim_append (Text.trimStart_ne_nil hstars hlast') (by simp) (endsBlank_semicolon _),
      bare, Text.trim_eq_trimStart hlast']

/-! ### A semicolon after a value -/

namespace Tag

variable {value line blanks : List Char}

theorem text_append_semicolon (h : Closable value blanks) (name name' : String) :
    text ⟨name, value ++ (blanks ++ [';'])⟩ = text ⟨name', value⟩ := by
  have hend : trimEnd (value ++ blanks ++ [';']) = value ++ blanks ++ [';'] :=
    Text.trimEnd_eq_self (endsBlank_semicolon _)
  rw [text, ← List.append_assoc, hend, Text.dropEndWhile_concat rfl, text,
    Text.trimEnd_eq_self h.last]
  by_cases hnil : blanks = []
  · rw [hnil, List.append_nil]
  · have hvalue : Text.dropEndWhile (· == ';') value = value :=
      Text.dropEndWhile_eq_self fun c hc => beq_eq_false_iff_ne.2 fun heq =>
        h.together.resolve_left hnil (heq ▸ hc)
    have hblanks : Text.dropEndWhile (· == ';') (value ++ blanks) = value ++ blanks := by
      refine Text.dropEndWhile_eq_self fun c hc => beq_eq_false_iff_ne.2 ?_
      rintro rfl
      rw [List.getLast?_append_of_ne_nil value hnil] at hc
      exact absurd (h.blank ';' (List.mem_of_getLast? hc)) (by decide)
    rw [hvalue, hblanks, Text.trim_append_blanks h.last h.blank]

theorem text_trim_semicolon (h : Closable value blanks) (name name' : String) :
    text ⟨name, trim (value ++ (blanks ++ [';']))⟩ = text ⟨name', trim value⟩ := by
  by_cases hne : value = []
  · rw [hne, List.nil_append, trim, trimStart, List.dropWhile_append_of_pos h.blank]
    rfl
  · rw [Text.trim_append (Text.trimStart_ne_nil hne h.last) (by simp) (endsBlank_semicolon _),
      Text.trim_eq_trimStart h.last]
    exact text_append_semicolon (h.of_suffix (List.dropWhile_suffix _)) name name'

/-- The semicolon stays out of a name that is cut off before it. -/
theorem ofLine_semicolon (h : Closable line blanks) (hcut : line.any endsName ∨ blanks ≠ []) :
    (ofLine (line ++ (blanks ++ [';']))).name = (ofLine line).name ∧
      (ofLine (line ++ (blanks ++ [';']))).text = (ofLine line).text := by
  have hstop : line.dropWhile (!endsName ·) ≠ [] ∨
      ∀ c ∈ (blanks ++ [';']).head?, (!endsName c) = false := by
    refine hcut.imp (fun hany => ?_) fun hne c hc => ?_
    · simpa [List.dropWhile_eq_nil_iff] using hany
    · rw [List.head?_append_of_ne_nil _ hne] at hc
      simp [endsName, h.blank c (List.mem_of_head? hc)]
  have hcolon : ∀ c ∈ (blanks ++ [';']).head?, (c == ':') = false := by
    intro c hc
    refine beq_eq_false_iff_ne.2 ?_
    rintro rfl
    rcases List.mem_append.1 (List.mem_of_head? hc) with hmem | hmem
    · exact absurd (h.blank ':' hmem) (by decide)
    · exact absurd hmem (by decide)
  constructor
  · rw [ofLine, Text.takeWhile_append_of_stop hstop, ofLine]
  · rw [ofLine, Text.dropWhile_append_of_stop hstop, Text.dropWhile_append_of_stop (.inr hcolon),
      ofLine]
    exact text_trim_semicolon
      (h.of_suffix ((List.dropWhile_suffix _).trans (List.dropWhile_suffix _))) _ _

theorem extend_append (t : Tag) (text rest : List Char) :
    t.extend (text ++ rest) = ⟨t.name, (t.extend text).value ++ rest⟩ := by
  rw [extend, extend]
  split
  · rfl
  · rw [List.append_assoc, List.cons_append]

theorem extend_semicolon (t : Tag) (hne : line ≠ []) (h : Closable line blanks) :
    (t.extend (line ++ (blanks ++ [';']))).text = (t.extend line).text := by
  have hvalue : ∃ front, (t.extend line).value = front ++ line := by
    rw [extend]
    split
    · exact ⟨[], rfl⟩
    · exact ⟨t.value ++ [' '], by simp⟩
  obtain ⟨front, hfront⟩ := hvalue
  have hclosable : Closable (t.extend line).value blanks := by
    refine ⟨?_, h.blank, ?_⟩
    · rw [hfront, Text.endsBlank_append hne, h.last]
    · rw [hfront, List.getLast?_append_of_ne_nil front hne]
      exact h.together
  rw [extend_append]
  exact text_append_semicolon hclosable _ _

end Tag

/-! ### A semicolon after a name -/

theorem chars_of_isKnown {name : String} (h : isKnown name = true) :
    name.toList.all (fun c => !endsName c && c != ';') = true := by
  simp only [isKnown, fieldNames, List.contains_eq_mem, decide_eq_true_eq, List.mem_append,
    List.mem_cons, List.not_mem_nil, or_false] at h
  rcases h with (rfl | rfl | rfl | rfl | rfl) | rfl | rfl | rfl <;> decide

theorem Tag.name_ofLine_of_bare {line : List Char} (h : line.any endsName = false) :
    (ofLine line).name = String.ofList line := by
  have hall : ∀ c ∈ line, (!endsName c) = true := fun c hc => by
    simpa using List.any_eq_false.1 h c hc
  rw [ofLine, List.takeWhile_eq_self_iff.2 hall]

/-- A tag that nothing comes after takes the semicolon into its name. -/
theorem not_known_semicolon {line : List Char} (h : line.any endsName = false) :
    (Tag.ofLine (line ++ [';'])).known = false := by
  have hcut : (line ++ [';']).any endsName = false := by
    rw [List.any_append, h]
    rfl
  rw [Tag.known, Tag.name_ofLine_of_bare hcut, Bool.eq_false_iff]
  intro hknown
  simpa using List.all_eq_true.1 (chars_of_isKnown hknown) ';' (by simp)

/-! ### A semicolon after a line -/

theorem addText_reverse_append (before : List Tag) (opening : List Char) (rest : List Tag) :
    (addText before ('@' :: opening)).reverse ++ rest
      = before.reverse ++ Tag.ofLine opening :: rest := by
  rw [addText, List.reverse_cons, List.append_assoc, List.singleton_append]

theorem metadata_opening_semicolon {opening blanks : List Char} (h : Closable opening blanks)
    (hbare : blanks = [] → isKnown (String.ofList opening) = false) (front rest : List Tag) :
    metadata (front ++ Tag.ofLine (opening ++ (blanks ++ [';'])) :: rest)
      = metadata (front ++ Tag.ofLine opening :: rest) := by
  by_cases hcut : opening.any endsName ∨ blanks ≠ []
  · obtain ⟨hname, htext⟩ := Tag.ofLine_semicolon h hcut
    exact metadata_congr hname htext front rest
  · obtain ⟨hcut, hblanks⟩ := not_or.1 hcut
    have hcut : opening.any endsName = false := by simpa using hcut
    have hblanks : blanks = [] := not_not.1 hblanks
    have hunknown : (Tag.ofLine opening).known = false := by
      rw [Tag.known, Tag.name_ofLine_of_bare hcut, hbare hblanks]
    rw [hblanks, List.nil_append, metadata_of_not_known (not_known_semicolon hcut),
      metadata_of_not_known hunknown]

theorem metadata_further_semicolon {text blanks : List Char} (h : Closable text blanks)
    (hne : text ≠ []) (hat : text.head? ≠ some '@') (before rest : List Tag) :
    metadata ((addText before (text ++ (blanks ++ [';']))).reverse ++ rest)
      = metadata ((addText before text).reverse ++ rest) := by
  have hat' : (text ++ (blanks ++ [';'])).head? ≠ some '@' := by
    rwa [List.head?_append_of_ne_nil _ hne]
  cases before with
  | nil => rw [addText_nil_of_text hat, addText_nil_of_text hat']
  | cons t before =>
    have hname : (t.extend (text ++ (blanks ++ [';']))).name = (t.extend text).name := rfl
    rw [addText_of_text hne hat, addText_of_text (by simp) hat', List.reverse_cons,
      List.reverse_cons, List.append_assoc, List.append_assoc, List.singleton_append,
      List.singleton_append, metadata_congr hname (t.extend_semicolon hne h)]

/-- The line is the tag of a known name, and nothing comes after the name, no blank either. -/
def isBareTag (line : List Char) : Bool :=
  match bare line with
  | '@' :: name => isKnown (String.ofList name) && !endsBlank line
  | _ => false

/-- The line ends with a semicolon and with blanks after it. -/
def isClosed (line : List Char) : Bool := (bare line).getLast? == some ';' && endsBlank line

theorem isBareTag_iff {line : List Char} :
    isBareTag line = true ↔ ∃ name, bare line = '@' :: name ∧
      isKnown (String.ofList name) = true ∧ endsBlank line = false := by
  rw [isBareTag]
  split
  · next name heq => simp [heq]
  · next hne => simpa using fun name heq => absurd heq (hne name)

namespace EndsGroup

variable {before line after : List Char}

theorem semicolon (h : EndsGroup before line after) : EndsGroup before (line ++ [';']) after where
  start := h.start.imp_right fun hstart => by
    have hne : line ≠ [] := fun hnil => h.ne_nil (by rw [hnil]; rfl)
    rw [List.head?_append_of_ne_nil _ hne]
    exact hstart
  oneLine := by simpa using h.oneLine
  ending := h.ending.imp_right fun hend => hend.imp_left fun hlf => by simpa using hlf.1
  ne_nil := by
    obtain ⟨blanks, -, -, hbare⟩ := exists_bare_semicolon h.ne_nil
    simp [hbare]
  next := h.next

theorem metadata_semicolon (h : EndsGroup before line after) (hbare : isBareTag line = false)
    (hclosed : isClosed line = false) :
    metadata (tags (before ++ (line ++ [';'] ++ after)))
      = metadata (tags (before ++ (line ++ after))) := by
  obtain ⟨blanks, hblanks, hnil, hsemicolon⟩ := exists_bare_semicolon h.ne_nil
  have hclosable : Closable (bare line) blanks := by
    refine ⟨Text.endsBlank_trimEnd _, hblanks, ?_⟩
    by_cases hlast : endsBlank line = false
    · exact .inl (hnil.2 hlast)
    · exact .inr (by simpa [isClosed, hlast] using hclosed)
  rw [h.semicolon.tags_eq, h.tags_eq, hsemicolon]
  by_cases hat : (bare line).head? = some '@'
  · obtain ⟨opening, heq⟩ := List.head?_eq_some_iff.1 hat
    have hunknown : blanks = [] → isKnown (String.ofList opening) = false := by
      intro hblanks
      by_contra hknown
      rw [isBareTag_iff.2 ⟨opening, heq, by simpa using hknown, hnil.1 hblanks⟩] at hbare
      cases hbare
    rw [heq] at hclosable ⊢
    rw [List.cons_append, addText_reverse_append, addText_reverse_append]
    exact metadata_opening_semicolon (hclosable.of_suffix (List.suffix_cons _ _)) hunknown _ _
  · exact metadata_further_semicolon hclosable h.ne_nil hat _ _

theorem metadata_semicolon_of_bareTag (h : EndsGroup before line after)
    (hbare : isBareTag line = true) :
    metadata (tags (before ++ (line ++ [';'] ++ after))) = metadata (tags (before ++ after)) := by
  obtain ⟨blanks, -, hnil, hsemicolon⟩ := exists_bare_semicolon h.ne_nil
  obtain ⟨name, heq, hknown, hlast⟩ := isBareTag_iff.1 hbare
  have hcut : name.any endsName = false := by
    rw [List.any_eq_false]
    intro c hc
    have hchar : endsName c = false ∧ c ≠ ';' := by
      simpa using List.all_eq_true.1 (chars_of_isKnown hknown) c (by simpa using hc)
    exact Bool.eq_false_iff.1 hchar.1
  rw [h.semicolon.tags_eq, hsemicolon, h.tags_emptied h.next, heq, hnil.2 hlast, List.nil_append,
    List.cons_append, addText_reverse_append, List.reverse_reverse,
    metadata_of_not_known (not_known_semicolon hcut)]

end EndsGroup

/-! ### Headers -/

variable {lead before line after body : List Char}

theorem isTagged_semicolon (htagged : Header.IsTagged lead (before ++ (line ++ after)) body) :
    Header.IsTagged lead (before ++ (line ++ [';'] ++ after)) body := by
  rw [← List.append_assoc] at htagged
  rw [List.append_assoc, List.singleton_append, ← List.append_assoc]
  have hline : Without '*' '/' (before ++ line) :=
    htagged.inComment.part (List.prefix_append _ _).isInfix
  have hafter : Without '*' '/' after := htagged.inComment.part (List.suffix_append _ _).isInfix
  refine htagged.replace ?_ (fun hmark => ?_) body
  · have hsemicolon : Without '*' '/' (';' :: after) :=
      Without.append (List.isChain_singleton ';') hafter (.inl (by simp))
    exact hline.append hsemicolon (.inr (by simp))
  · exact htagged.tagged ((Text.prefix_of_not_mem (by decide) hmark).trans (List.prefix_append _ _))

/-- A semicolon after the last line of a group makes no difference to how a header is read, whether
that is metadata or an error, unless the line is a tag that stands alone or has a semicolon before
its blanks already. A tag that stands alone is read as if it were not there. -/
theorem parse_semicolon (htagged : Header.IsTagged lead (before ++ (line ++ after)) body)
    (hgroup : EndsGroup before line after) (path : Path) :
    (isBareTag line = false → isClosed line = false →
      Header.parse (Header.enclosed lead (before ++ (line ++ [';'] ++ after)) body) path
        = Header.parse (Header.enclosed lead (before ++ (line ++ after)) body) path) ∧
    (isBareTag line = true →
      Header.parse (Header.enclosed lead (before ++ (line ++ [';'] ++ after)) body) path
        = Header.parse (Header.enclosed lead (before ++ after) body) path) := by
  rw [(isTagged_semicolon htagged).parse_eq, htagged.parse_eq,
    (hgroup.isTagged_emptied htagged).parse_eq]
  exact ⟨hgroup.metadata_semicolon, hgroup.metadata_semicolon_of_bareTag⟩

theorem parse_semicolon_name_and_negative :
    Header.parse (Header.enclosed []
        ("*\n".toList ++ (" * @name: S1".toList ++ [';'] ++ "\n * @negative\n ".toList)) [])
        (.ofText "a.js")
      = Header.parse (Header.enclosed []
        ("*\n".toList ++ (" * @name: S1".toList ++ "\n * @negative\n ".toList)) [])
        (.ofText "a.js") ∧
    Header.parse (Header.enclosed []
        ("*\n * @name: S1\n".toList ++ (" * @negative".toList ++ [';'] ++ "\n ".toList)) [])
        (.ofText "a.js")
      = Header.parse (Header.enclosed [] ("*\n * @name: S1\n".toList ++ "\n ".toList) [])
        (.ofText "a.js") :=
  ⟨(parse_semicolon (Header.isTagged_of_nil (by simp) (by decide) _)
      ⟨⟨.inl rfl, by decide, .inr (.inl ⟨rfl, by decide⟩)⟩, by decide, by decide⟩ _).1
      (by decide) (by decide),
    (parse_semicolon (Header.isTagged_of_nil (by simp) (by decide) _)
      ⟨⟨.inl rfl, by decide, .inr (.inl ⟨rfl, by decide⟩)⟩, by decide, by decide⟩ _).2
      (by decide)⟩

/-- The semicolon makes a negative case an ordinary one, and stays in a name. -/
theorem parse_semicolon_lost_and_kept :
    (Header.parse (Header.enclosed [] "*\n * @name: S1;\n * @negative\n ".toList [])
        (.ofText "a.js")).map (·.expectation?) = .ok (some .anyError) ∧
      (Header.parse (Header.enclosed [] "*\n * @name: S1;\n * @negative;\n ".toList [])
        (.ofText "a.js")).map (·.expectation?) = .ok none ∧
      (Header.parse (Header.enclosed [] "* @name: S2; ".toList []) (.ofText "a.js")).map (·.name)
        = .ok "S2" ∧
      (Header.parse (Header.enclosed [] "* @name: S2; ;".toList []) (.ofText "a.js")).map (·.name)
        = .ok "S2;" := by
  have hparse {block : List Char} (hblock : Without '*' '/' block)
      (hplain : ¬ ['-', '-', '-'] <+: block) :
      Header.parse (Header.enclosed [] block []) (.ofText "a.js") = metadata (tags block) :=
    (Header.isTagged_of_nil hblock hplain []).parse_eq _
  rw [hparse (by simp) (by decide), hparse (by simp) (by decide), hparse (by simp) (by decide),
    hparse (by simp) (by decide)]
  decide

end Conformance.TagHeader
