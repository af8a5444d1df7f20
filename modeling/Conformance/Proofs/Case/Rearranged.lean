import Conformance.Proofs.Case.Effects
import Conformance.Proofs.Case.Enclosed

/-!
# The order of entries does not matter

If no entry that sets a field is given twice, the entries of a header can be put in any order, with
the same metadata or the same error. Entries of no known name, lines that say nothing and lines
before the first tag can be put in anywhere.
-/

namespace Conformance.TagHeader

open Text (Without)

/-! ### Known entries -/

theorem eq_of_count_le_one {entries : List Entry} {e e' : Entry}
    (h : entries.countP (·.name == e.name) ≤ 1) (he : e ∈ entries) (he' : e' ∈ entries)
    (hname : e.name = e'.name) : e = e' := by
  have hmem : e ∈ entries.filter (·.name == e.name) := List.mem_filter.2 ⟨he, beq_self_eq_true _⟩
  have hmem' : e' ∈ entries.filter (·.name == e.name) :=
    List.mem_filter.2 ⟨he', beq_iff_eq.2 hname.symm⟩
  rw [List.countP_eq_length_filter] at h
  generalize entries.filter (·.name == e.name) = same at h hmem hmem'
  match same, h with
  | [d], _ => rw [List.mem_singleton.1 hmem, List.mem_singleton.1 hmem']

/-- Entries known by their names make the metadata, in whatever order. -/
theorem metadata_map_tag_of_perm {entries entries' : List Entry}
    (honce : ∀ name ∈ fieldNames, entries.countP (·.name == name) ≤ 1)
    (h : (entries.filter Entry.known).Perm (entries'.filter Entry.known)) :
    metadata (entries.map Entry.tag) = metadata (entries'.map Entry.tag) := by
  have hfilter (entries : List Entry) :
      (entries.map Entry.tag).filter Tag.known = (entries.filter Entry.known).map Entry.tag := by
    rw [List.filter_map]
    exact congrArg (List.map _) (List.filter_congr fun e _ => e.known_tag)
  rw [← metadata_filter_known, hfilter, ← metadata_filter_known (entries'.map _), hfilter]
  refine metadata_perm (h.map Entry.tag) ?_
  intro t ht t' ht' hname hfield
  obtain ⟨e, he, rfl⟩ := List.mem_map.1 ht
  obtain ⟨e', he', rfl⟩ := List.mem_map.1 ht'
  rw [Entry.name_tag] at hname hfield
  rw [Entry.name_tag] at hname
  have hsame : e = e' := eq_of_count_le_one (honce e.name hfield) (List.mem_filter.1 he).1
    (List.mem_filter.1 he').1 hname
  rw [hsame]

/-! ### Headers -/

variable {block block' : List Char} {preface preface' : List (List Char)}
  {entries entries' : List Entry}

/-- Two tagged headers that are made of the same known entries are read alike, with the same
metadata or the same error: the entries may stand in any order, if no field is set twice, and
entries of no known name, lines that say nothing and lines before the first tag may stand anywhere
between. So are two sources with them, where a comment that opens with `---` is no tagged header. -/
theorem parse_rearranged (h : MadeOf block preface entries) (h' : MadeOf block' preface' entries')
    (honce : ∀ name ∈ fieldNames, entries.countP (·.name == name) ≤ 1)
    (hperm : (entries.filter Entry.known).Perm (entries'.filter Entry.known))
    (hblock : Without '*' '/' block) (hblock' : Without '*' '/' block') (body body' : List Char) :
    parse (block ++ '*' :: '/' :: body) = parse (block' ++ '*' :: '/' :: body') ∧
      ∀ (lead : List Char) (path : Path), Header.IsTagged lead block body →
        ¬ ['-', '-', '-'] <+: block' →
          Header.parse (Header.enclosed lead block body) path
            = Header.parse (Header.enclosed lead block' body') path := by
  have hmetadata : metadata (tags block) = metadata (tags block') := by
    rw [h.tags_eq, h'.tags_eq]
    exact metadata_map_tag_of_perm honce hperm
  constructor
  · rw [parse_enclosed hblock, parse_enclosed hblock', hmetadata]
  · intro lead path htagged hplain
    rw [htagged.parse_eq, (htagged.replace hblock' hplain body').parse_eq, hmetadata]

/-- The section stands on two lines. -/
def listedSection : Entry :=
  ⟨"section: 15.10.2.12,".toList, ["15.10.2.13;".toList], by decide⟩

/-- The same entries in another order, with an unknown one, a preface and lines that say nothing. -/
theorem parse_rearranged_reversed :
    Header.parse (Header.enclosed []
        "*\n * @name: S15_A1;\n * @negative\n * @section: 15.10.2.12,\n * 15.10.2.13;\n".toList
        "f();".toList) (.ofText "a.js")
      = Header.parse (Header.enclosed []
        ("***\n * preface\n * @section: 15.10.2.12,\n ***\n\n * 15.10.2.13;\r\n".toList
          ++ " * @path: a.js;\n * b.js\n @negative\r\n@name: S15_A1;\n".toList)
        "g();".toList) (.ofText "a.js") :=
  (@parse_rearranged _ _ [] ["preface".toList]
    [⟨"name: S15_A1;".toList, [], by decide⟩, ⟨"negative".toList, [], by decide⟩, listedSection]
    [listedSection, ⟨"path: a.js;".toList, ["b.js".toList], by decide⟩,
      ⟨"negative".toList, [], by decide⟩, ⟨"name: S15_A1;".toList, [], by decide⟩]
    ⟨by decide, by decide⟩ ⟨by decide, by decide⟩ (by decide) (List.reverse_perm _).symm
    (by simp) (by simp) "f();".toList "g();".toList).2 [] (.ofText "a.js")
      (Header.isTagged_of_nil (by simp) (by decide) _) (by decide)

end Conformance.TagHeader
