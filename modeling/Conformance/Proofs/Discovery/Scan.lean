import Conformance.Proofs.Discovery.Walk
import Conformance.Proofs.Text.WellFormed

/-!
# What a scan finds

A scan makes one item of each case file it walks past, in the order of the walk, so in the order of
paths. What the item is depends on what reading the file gives, and reading it through its path
gives what is in the tree: a path that leads to a directory leads on to what is in it.
-/

namespace Conformance

/-! ### Paths on from a directory -/

namespace Path

theorem isAbsolute_join {p : Path} {name : FileName} (hname : IsFileName name)
    (h : p.isAbsolute = false) : (p.join name).isAbsolute = false := by
  rw [isAbsolute] at h
  rw [isAbsolute, parts_join p hname]
  cases hparts : p.parts with
  | nil => rfl
  | cons part parts =>
    rw [hparts] at h
    exact h

theorem mem_join {p : Path} {name : FileName} {b : UInt8} (h : b ∈ (p.join name).octets) :
    b ∈ p.octets ∨ b = slash ∨ b ∈ name := by
  rw [join] at h
  split_ifs at h
  · exact .inr (.inr h)
  · exact (List.mem_append.1 h).imp_right .inr
  · exact (List.mem_append.1 h).imp_right List.mem_cons.1

theorem octets_join_ne_nil (p : Path) {name : FileName} (h : name ≠ []) :
    (p.join name).octets ≠ [] := by
  rw [join]
  split_ifs <;> simp [h]

end Path

namespace FileTree

variable {t : FileTree} {entries : List (FileName × FileTree)}

/-- A slash at the end leads nowhere else. -/
theorem foldlM_of_concat_empty {front : List (List UInt8)} {start above : List FileName}
    (h : (front ++ [[]]).foldlM t.step start = .ok above) :
    front.foldlM t.step start = .ok above := by
  simp only [List.foldlM_append, List.foldlM_cons, List.foldlM_nil, bind_pure] at h
  cases hfront : front.foldlM t.step start with
  | error e => rw [hfront] at h; cases h
  | ok walked =>
    rw [hfront] at h
    have hstep : t.step walked [] = .ok above := h
    rw [step.eq_def] at hstep
    split at hstep
    · exact hstep
    all_goals cases hstep

/-- A path that leads to a directory leads on to the names in it. -/
theorem resolve_join {p : Path} {names : List FileName} (h : t.resolve p = .ok names)
    (hat : t.at? names = some (.directory entries)) {name : FileName} (hname : IsFileName name)
    (hin : (entries.lookup name).isSome) : t.resolve (p.join name) = .ok (names ++ [name]) := by
  obtain ⟨hnul, hrelative, hwalk⟩ := resolve_eq_ok_iff.1 h
  obtain ⟨front, hsegments, hp⟩ := p.exists_segments_join hname.no_slash
  -- with or without a slash at the end of `p`, what is in front of the name leads to the directory
  have hfront : front.foldlM t.step [] = .ok names.reverse := by
    rcases hp with hp | ⟨hp, _⟩
    · exact foldlM_of_concat_empty (hp ▸ hwalk)
    · rwa [hp] at hwalk
  have hat' : t.at? names.reverse.reverse = some (.directory entries) := by
    rwa [List.reverse_reverse]
  have hstep := step_name hat' (not_or.2 ⟨hname.nonempty, hname.not_here⟩) hname.not_up hin
  have hnul' : (p.join name).octets.contains 0 = false := by
    rw [List.contains_eq_mem, decide_eq_false_iff_not] at hnul ⊢
    intro hmem
    rcases Path.mem_join hmem with hmem | heq | hmem
    · exact hnul hmem
    · exact absurd heq (by decide)
    · exact hname.no_nul hmem
  have hrelative' : ((p.join name).octets.isEmpty || (p.join name).isAbsolute) = false := by
    rw [Bool.or_eq_false_iff] at hrelative ⊢
    exact ⟨by simpa using p.octets_join_ne_nil hname.nonempty,
      Path.isAbsolute_join hname hrelative.2⟩
  have hresolve := resolve_of_step hnul' hrelative' hsegments hfront hstep
  rwa [List.reverse_cons, List.reverse_reverse] at hresolve

/-- What a chain of names leads to below a directory is what the path that goes on with them
means. -/
theorem find_descend {p : Path} {node : FileTree} (h : t.find p = .ok node) (hproper : node.Proper)
    {names : List FileName} {node' : FileTree} (hat : node.at? names = some node') :
    t.find (p.descend names) = .ok node' := by
  induction names generalizing p node with
  | nil => rw [← Option.some.inj hat]; exact h
  | cons name names ih =>
    obtain ⟨entries, child, rfl, hlookup, hat⟩ := exists_of_at?_cons hat
    have hmem := hproper.mem_iff.2 hlookup
    obtain ⟨walked, hresolve, hnode⟩ := exists_resolve_of_find h
    have hresolve := resolve_join hresolve hnode ((hproper [] entries rfl).2 _ hmem)
      (by rw [hlookup]; rfl)
    refine ih (p := p.join name) ?_ (hproper.child hmem) hat
    rw [find_eq_of_resolve hresolve, at?_concat hnode, hlookup]

theorem read_of_find {p : Path} {node : FileTree} {content : Except FileError (List UInt8)}
    (h : t.find p = .ok node) (hcontent : node.content? = some content) : t.read p = content := by
  rw [read, h]
  cases node with
  | file octets => exact Option.some.inj hcontent
  | sealedFile => exact Option.some.inj hcontent
  | directory | sealedDirectory | special => cases hcontent

end FileTree

/-! ### Items -/

/-- What a file at a path is found to be: a case if it can be read, is UTF-8 and has a header that
can be parsed, and otherwise malformed, known by its path and by the stem of its name as it is
printed. -/
inductive Reported (path : Path) (stem : List UInt8) :
    Except FileError (List UInt8) → Discovered → Prop where
  | case {source : String} {metadata : Metadata}
      (h : Header.parse source.toList path = .ok metadata) :
      Reported path stem (.ok (Text.Utf8.octets source)) (.case ⟨path, source, metadata⟩)
  | malformed {content : Except FileError (List UInt8)} {detail : String}
      (h : ∀ source metadata, content = .ok (Text.Utf8.octets source) →
        Header.parse source.toList path ≠ .ok metadata) :
      Reported path stem content (.malformed ⟨path, Text.Utf8.lossyText stem, detail⟩)

theorem Reported.path_eq {path : Path} {stem : List UInt8} {content : Except FileError (List UInt8)}
    {d : Discovered} (h : Reported path stem content d) : d.path = path := by
  cases h <;> rfl

theorem Case.ofContent_eq_ok_iff {path : Path} {content : Except FileError (List UInt8)}
    {c : Case} : Case.ofContent path content = .ok c ↔ ∃ source metadata,
      content = .ok (Text.Utf8.octets source) ∧ Header.parse source.toList path = .ok metadata ∧
        c = ⟨path, source, metadata⟩ := by
  constructor
  · intro h
    cases content with
    | error error => cases h
    | ok octets =>
      rw [ofContent, ofOctets] at h
      split at h
      · cases h
      · next source htext =>
        rw [ofSource] at h
        cases hparse : Header.parse source.toList path with
        | error error => rw [hparse] at h; cases h
        | ok metadata =>
          rw [hparse] at h
          cases h
          exact ⟨source, metadata, congrArg _ (Text.Utf8.text?_eq_some_iff.1 htext), hparse, rfl⟩
  · rintro ⟨source, metadata, rfl, hparse, rfl⟩
    rw [ofContent, ofOctets, Text.Utf8.text?_octets]
    dsimp only
    rw [ofSource, hparse]
    rfl

/-- Loading a file gives what it is to be found as. -/
theorem reported_ofContent {path : Path} {stem : List UInt8} (hstem : path.stem? = some stem)
    (content : Except FileError (List UInt8)) :
    Reported path stem content (.ofResult path (Case.ofContent path content)) := by
  cases hload : Case.ofContent path content with
  | ok c =>
    obtain ⟨source, metadata, rfl, hparse, rfl⟩ := Case.ofContent_eq_ok_iff.1 hload
    exact .case hparse
  | error error =>
    rw [Discovered.ofResult, MalformedCase.ofError, hstem, Option.map_some, Option.getD_some]
    refine .malformed fun source metadata hcontent hparse => ?_
    rw [Case.ofContent_eq_ok_iff.2 ⟨source, metadata, hcontent, hparse, rfl⟩] at hload
    cases hload

namespace CaseRoot

variable {t : FileTree}

theorem path_ofContent (path : Path) (content : Except FileError (List UInt8)) :
    (Discovered.ofResult path (Case.ofContent path content)).path = path := by
  cases hload : Case.ofContent path content with
  | error error => rfl
  | ok c =>
    obtain ⟨_, _, _, _, rfl⟩ := Case.ofContent_eq_ok_iff.1 hload
    rfl

theorem visit_eq_ok_iff {r : CaseRoot} {path : Path} {node : FileTree} {d : Discovered} :
    r.visit path node = some (.ok d) ↔ r.isCandidate path = true ∧
      ∃ content, node.content? = some content ∧
        d = .ofResult path (Case.ofContent path content) := by
  cases hcandidate : r.isCandidate path <;> cases node <;>
    simp [visit, FileTree.content?, hcandidate, eq_comm]

theorem visit_eq_error_iff {r : CaseRoot} {path : Path} {node : FileTree} {a : Abort} :
    r.visit path node = some (.error a) ↔
      node = .sealedDirectory ∧ a = .walk path .permissionDenied := by
  cases hcandidate : r.isCandidate path <;> cases node <;>
    simp [visit, FileTree.content?, hcandidate, eq_comm]

/-- Nothing but a walk that breaks off is a fault of a scan. -/
theorem exists_walk_of_error_mem {files : FileTree} {r : CaseRoot} {a : Abort}
    (h : .error a ∈ r.items files) : ∃ path e, a = .walk path e := by
  rw [items] at h
  split at h
  · next e _ => exact ⟨r.path, e, Except.error.inj (List.mem_singleton.1 h)⟩
  · obtain ⟨⟨path, node⟩, _, hvisit⟩ := List.mem_filterMap.1 h
    exact ⟨path, _, (visit_eq_error_iff.1 hvisit).2⟩

/-- The items of a scan are in the order of their paths. -/
theorem pairwise_itemsIn (r : CaseRoot) (h : t.Proper) : (r.itemsIn t).Pairwise fun x y =>
    ∀ d d', x = .ok d → y = .ok d' → d.path.Before d'.path := by
  refine (FileTree.pairwise_walk h r.path).filterMap _ fun a b hab x hx y hy d d' hd hd' => ?_
  subst hd hd'
  obtain ⟨_, content, _, rfl⟩ := visit_eq_ok_iff.1 hx
  obtain ⟨_, content', _, rfl⟩ := visit_eq_ok_iff.1 hy
  rwa [path_ofContent, path_ofContent]

theorem pairwise_of_map_ok {found : List Discovered} {items : List (Except Abort Discovered)}
    (hfound : items = found.map .ok) (h : items.Pairwise fun x y =>
      ∀ d d', x = .ok d → y = .ok d' → d.path.Before d'.path) :
    found.Pairwise fun a b => a.path.Before b.path := by
  rw [hfound, List.pairwise_map] at h
  exact h.imp fun hab => hab _ _ rfl rfl

theorem beforeFault_map_ok (found : List Discovered) :
    beforeFault (found.map .ok) = (found, none) := by
  induction found with
  | nil => rfl
  | cons d found ih => rw [List.map_cons, beforeFault, ih]

theorem items_of_find {files : FileTree} {r : CaseRoot} (h : files.find r.path = .ok t) :
    r.items files = r.itemsIn t := by
  rw [items, h]

end CaseRoot

end Conformance
