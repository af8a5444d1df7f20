import Conformance.Proofs.FileTree
import Conformance.Proofs.Path

/-!
# A directory under any spelling

An empty segment or a dot stays where it is, but only in a directory that can be entered. What is
passed on the way to something else is such a directory, and so is what the path leads to if it can
be listed. So slashes at the end, doubled slashes and dots lead to the same directory as a path
without them.
-/

namespace Conformance

namespace Path

/-- The segment leads somewhere else: it is neither empty nor a dot. -/
def leads (segment : List UInt8) : Bool := segment ≠ [] && segment ≠ [dot]

/-- Two spellings that differ in empty segments and in dots, and not in where they start. -/
structure Respelled (p q : Path) : Prop where
  leading : p.segments.filter leads = q.segments.filter leads
  absolute : p.isAbsolute = q.isAbsolute
  empty : p.octets.isEmpty = q.octets.isEmpty

instance (p q : Path) : Decidable (p.Respelled q) :=
  decidable_of_iff (p.segments.filter leads = q.segments.filter leads ∧
    p.isAbsolute = q.isAbsolute ∧ p.octets.isEmpty = q.octets.isEmpty)
    ⟨fun ⟨h1, h2, h3⟩ => ⟨h1, h2, h3⟩, fun h => ⟨h.1, h.2, h.3⟩⟩

theorem leads_eq_false_iff {segment : List UInt8} :
    leads segment = false ↔ segment = [] ∨ segment = [dot] := by
  rw [← Bool.not_eq_true, leads]
  simp only [Bool.and_eq_true, decide_eq_true_eq]
  tauto

/-- An octet other than a slash stands in the segments that lead somewhere, unless it is a dot. -/
theorem mem_octets_iff {p : Path} {b : UInt8} (hslash : b ≠ slash) (hdot : b ≠ dot) :
    b ∈ p.octets ↔ ∃ segment ∈ p.segments.filter leads, b ∈ segment := by
  have hmem (segments : List (List UInt8)) :
      b ∈ [slash].intercalate segments ↔ ∃ segment ∈ segments, b ∈ segment := by
    induction segments with
    | nil => simp [List.intercalate]
    | cons segment segments ih =>
      cases segments with
      | nil => simp [List.intercalate]
      | cons next segments =>
        rw [List.intercalate] at ih ⊢
        rw [List.intersperse_cons_cons, List.flatten_cons, List.flatten_cons]
        simp [ih, hslash]
  have hleads {segment : List UInt8} (hb : b ∈ segment) : leads segment = true := by
    by_contra hnot
    rcases leads_eq_false_iff.1 (Bool.eq_false_iff.2 hnot) with rfl | rfl
    · cases hb
    · exact hdot (List.mem_singleton.1 hb)
  have hsplit : [slash].intercalate p.segments = p.octets := List.intercalate_splitOn slash
  rw [← hsplit, hmem]
  constructor
  · rintro ⟨segment, hsegment, hb⟩
    exact ⟨segment, List.mem_filter.2 ⟨hsegment, hleads hb⟩, hb⟩
  · rintro ⟨segment, hsegment, hb⟩
    exact ⟨segment, (List.mem_filter.1 hsegment).1, hb⟩

theorem Respelled.contains_nul {p q : Path} (h : p.Respelled q) :
    p.octets.contains 0 = q.octets.contains 0 := by
  rw [Bool.eq_iff_iff, List.contains_iff_mem, List.contains_iff_mem,
    mem_octets_iff (by decide) (by decide), mem_octets_iff (by decide) (by decide), h.leading]

end Path

namespace FileTree

variable {t : FileTree} {segment : List UInt8} {segments : List (List UInt8)}
  {above above' : List FileName} {entries : List (FileName × FileTree)}

theorem step_of_not_leads (hat : t.at? above.reverse = some (.directory entries))
    (h : Path.leads segment = false) : t.step above segment = .ok above := by
  rw [step.eq_def, hat]
  exact if_pos (Path.leads_eq_false_iff.1 h)

/-- Every step is from a directory that can be entered. -/
theorem exists_directory_of_step (h : t.step above segment = .ok above') :
    ∃ entries, t.at? above.reverse = some (.directory entries) := by
  rw [step.eq_def] at h
  split at h
  · next entries hat => exact ⟨entries, hat⟩
  all_goals cases h

theorem exists_of_foldlM_step_cons (h : (segment :: segments).foldlM t.step above = .ok above') :
    ∃ next, t.step above segment = .ok next ∧ segments.foldlM t.step next = .ok above' := by
  rw [List.foldlM_cons] at h
  cases hstep : t.step above segment with
  | error e => rw [hstep] at h; cases h
  | ok next => rw [hstep] at h; exact ⟨next, rfl, h⟩

theorem foldlM_step_cons {next : List FileName} (hstep : t.step above segment = .ok next) :
    (segment :: segments).foldlM t.step above = segments.foldlM t.step next := by
  rw [List.foldlM_cons, hstep]
  rfl

/-- What leads nowhere can be left out. -/
theorem foldlM_filter_leads (h : segments.foldlM t.step above = .ok above') :
    (segments.filter Path.leads).foldlM t.step above = .ok above' := by
  induction segments generalizing above with
  | nil => exact h
  | cons segment segments ih =>
    obtain ⟨next, hstep, hrest⟩ := exists_of_foldlM_step_cons h
    cases hleads : Path.leads segment with
    | true => rw [List.filter_cons_of_pos hleads, foldlM_step_cons hstep, ih hrest]
    | false =>
      obtain ⟨entries, hat⟩ := exists_directory_of_step hstep
      rw [step_of_not_leads hat hleads] at hstep
      cases hstep
      rw [List.filter_cons_of_neg (Bool.eq_false_iff.1 hleads), ih hrest]

/-- What leads nowhere can be put in on the way to a directory that can be entered. -/
theorem foldlM_of_filter_leads (hat : t.at? above'.reverse = some (.directory entries))
    (h : (segments.filter Path.leads).foldlM t.step above = .ok above') :
    segments.foldlM t.step above = .ok above' := by
  induction segments generalizing above with
  | nil => exact h
  | cons segment segments ih =>
    cases hleads : Path.leads segment with
    | true =>
      rw [List.filter_cons_of_pos hleads] at h
      obtain ⟨next, hstep, hrest⟩ := exists_of_foldlM_step_cons h
      rw [foldlM_step_cons hstep, ih hrest]
    | false =>
      rw [List.filter_cons_of_neg (Bool.eq_false_iff.1 hleads)] at h
      -- the segment stands in the directory that the next step is from, or at the end of the path
      have hdirectory : ∃ entries, t.at? above.reverse = some (.directory entries) := by
        cases hrest : segments.filter Path.leads with
        | nil =>
          rw [hrest] at h
          cases h
          exact ⟨entries, hat⟩
        | cons first rest =>
          rw [hrest] at h
          obtain ⟨_, hstep, _⟩ := exists_of_foldlM_step_cons h
          exact exists_directory_of_step hstep
      obtain ⟨_, hat'⟩ := hdirectory
      rw [foldlM_step_cons (step_of_not_leads hat' hleads), ih h]

/-- A directory that can be listed is found under each of its spellings. -/
theorem find_of_respelled {p q : Path} (hpq : p.Respelled q)
    (h : t.find p = .ok (.directory entries)) : t.find q = .ok (.directory entries) := by
  obtain ⟨names, hresolve, hat⟩ := exists_resolve_of_find h
  obtain ⟨hnul, hrelative, hwalk⟩ := resolve_eq_ok_iff.1 hresolve
  have hat' : t.at? names.reverse.reverse = some (.directory entries) := by
    rwa [List.reverse_reverse]
  have hwalk' : q.segments.foldlM t.step [] = .ok names.reverse := by
    refine foldlM_of_filter_leads hat' ?_
    rw [← hpq.leading]
    exact foldlM_filter_leads hwalk
  have hresolve' : t.resolve q = .ok names :=
    resolve_eq_ok_iff.2 ⟨hpq.contains_nul ▸ hnul, by rwa [← hpq.empty, ← hpq.absolute], hwalk'⟩
  rw [find_eq_of_resolve hresolve', hat]

end FileTree

end Conformance
