import Conformance.Proofs.Discovery.Scan
import Mathlib.Data.Set.List

/-!
# Discovery is exact and ordered

In a directory that can be walked to its end a scan without exclusions finds one item for each case
file, whatever is around it, and nothing else. The items are in the order of paths, which is not the
order of their spellings: what is in `a` comes before what is in `a-b`.
-/

namespace Conformance

namespace CaseRoot

variable {t : FileTree}

/-- A file below a directory: the names of the directories that lead to it, the stem of its name,
and what reading it gives. -/
structure CaseFile where
  directories : List FileName
  stem : List UInt8
  content : Except FileError (List UInt8)

namespace CaseFile

/-- The names that lead to the file. -/
def names (f : CaseFile) : List FileName := f.directories ++ [f.stem ++ Text.Utf8.octets ".js"]

/-- The tree has the file, as a regular one with the name of a case. -/
def In (f : CaseFile) (t : FileTree) : Prop :=
  IsCaseName (f.stem ++ Text.Utf8.octets ".js") ∧
    ∃ node, t.at? f.names = some node ∧ node.content? = some f.content

variable {f f' : CaseFile}

theorem In.isFileName (h : f.In t) (hproper : t.Proper) : ∀ name ∈ f.names, IsFileName name := by
  obtain ⟨_, node, hat, _⟩ := h
  exact hproper.isFileName hat

theorem In.fileName? (h : f.In t) (hproper : t.Proper) (root : Path) :
    (root.descend f.names).fileName? = some (f.stem ++ Text.Utf8.octets ".js") := by
  rw [names, Path.descend_concat]
  exact Path.fileName?_join _ (h.isFileName hproper _ (List.mem_concat_self ..))

theorem In.stem? (h : f.In t) (hproper : t.Proper) (root : Path) :
    (root.descend f.names).stem? = some f.stem := by
  obtain ⟨⟨stem, hstem, heq⟩, _⟩ := h.1
  refine Path.stem?_of_case (h.fileName? hproper root) ?_
  rwa [List.append_cancel_right heq]

/-- A tree has one file at the end of a chain of names. -/
theorem In.eq_of_names (h : f.In t) (h' : f'.In t) (heq : f.names = f'.names) : f = f' := by
  obtain ⟨directories, stem, content⟩ := f
  obtain ⟨directories', stem', content'⟩ := f'
  obtain ⟨_, node, hat, hcontent⟩ := h
  obtain ⟨_, node', hat', hcontent'⟩ := h'
  obtain ⟨rfl, hlast⟩ := List.append_inj' heq rfl
  obtain rfl := List.append_cancel_right (List.singleton_inj.1 hlast)
  obtain rfl := Option.some.inj (hat.symm.trans hat')
  obtain rfl := Option.some.inj (hcontent.symm.trans hcontent')
  rfl

end CaseFile

/-- What a scan passes that is a case by its name is a case file below the root. -/
theorem exists_caseFile (hdirectory : t.isDirectory = true) (hproper : t.Proper) {root : Path}
    {names : List FileName} {node : FileTree} {content : Except FileError (List UInt8)}
    (hat : t.at? names = some node) (hcontent : node.content? = some content)
    (hname : isCaseName (root.descend names) = true) :
    ∃ f : CaseFile, f.In t ∧ f.names = names ∧ f.content = content := by
  rcases List.eq_nil_or_concat' names with rfl | ⟨directories, name, rfl⟩
  · obtain rfl := Option.some.inj hat
    cases t with
    | directory | sealedDirectory => cases hcontent
    | file | sealedFile | special => cases hdirectory
  · rw [Path.descend_concat] at hname
    have hlast := hproper.isFileName hat name (List.mem_concat_self ..)
    have hcase := (Path.isCaseName_iff (Path.fileName?_join _ hlast)).1 hname
    obtain ⟨stem, _, rfl⟩ := hcase.1
    exact ⟨⟨directories, stem, content⟩, ⟨hcase, node, hat, hcontent⟩, rfl, rfl⟩

/-- What a scan without exclusions finds is what its case files are found to be. -/
theorem ok_mem_itemsIn_iff (hdirectory : t.isDirectory = true) (hproper : t.Proper) {root : Path}
    {d : Discovered} : .ok d ∈ (CaseRoot.mk root []).itemsIn t ↔ ∃ f : CaseFile, f.In t ∧
      d = .ofResult (root.descend f.names) (Case.ofContent (root.descend f.names) f.content) := by
  rw [itemsIn, List.mem_filterMap]
  constructor
  · rintro ⟨⟨path, node⟩, hmem, hvisit⟩
    obtain ⟨names, hat, rfl⟩ := (FileTree.mem_walk hproper).1 hmem
    obtain ⟨hcandidate, content, hcontent, rfl⟩ := visit_eq_ok_iff.1 hvisit
    obtain ⟨f, hf, rfl, rfl⟩ :=
      exists_caseFile hdirectory hproper hat hcontent (Bool.and_eq_true_iff.1 hcandidate).1
    exact ⟨f, hf, rfl⟩
  · rintro ⟨f, hf, rfl⟩
    have hname := (Path.isCaseName_iff (hf.fileName? hproper root)).2 hf.1
    obtain ⟨node, hat, hcontent⟩ := hf.2
    refine ⟨(root.descend f.names, node), (FileTree.mem_walk hproper).2 ⟨f.names, hat, rfl⟩,
      visit_eq_ok_iff.2 ⟨?_, f.content, hcontent, rfl⟩⟩
    rw [isCandidate, hname]
    rfl

/-- A walk that no directory keeps from its end is a scan without faults. -/
theorem exists_found (hproper : t.Proper)
    (hlistable : ∀ names, t.at? names ≠ some .sealedDirectory) (r : CaseRoot) :
    ∃ found : List Discovered, r.itemsIn t = found.map .ok := by
  have hok : r.itemsIn t ∈ Set.range (List.map (Except.ok (ε := Abort) (α := Discovered))) := by
    rw [Set.range_list_map]
    intro item hitem
    obtain ⟨⟨path, node⟩, hmem, hvisit⟩ := List.mem_filterMap.1 hitem
    obtain ⟨names, hat, _⟩ := (FileTree.mem_walk hproper).1 hmem
    cases item with
    | ok d => exact ⟨d, rfl⟩
    | error a => exact absurd ((visit_eq_error_iff.1 hvisit).1 ▸ hat) (hlistable names)
  obtain ⟨found, hfound⟩ := hok
  exact ⟨found, hfound.symm⟩

/-- Paths are not in the order of their spellings. -/
theorem exists_before_and_lt : ∃ p q : Path, p.Before q ∧ q.octets < p.octets :=
  ⟨.ofText "a/x.js", .ofText "a-b/x.js", by decide, by decide⟩

/-- In a directory that can be walked to its end a scan without exclusions finds one item for each
case file, at any depth, and nothing else. Each item says what became of its file. The items are in
the order of paths, so that no path is repeated, and not in the order of spellings. -/
theorem discovers_in_order (root : Path) (hdirectory : t.isDirectory = true) (hproper : t.Proper)
    (hlistable : ∀ names, t.at? names ≠ some .sealedDirectory) :
    (∃ (caseFiles : List CaseFile) (found : List Discovered),
      (CaseRoot.mk root []).itemsIn t = found.map .ok ∧
      caseFiles.Nodup ∧ (∀ f, f ∈ caseFiles ↔ f.In t) ∧
      List.Forall₂ (fun f d => Reported (root.descend f.names) f.stem f.content d)
        caseFiles found ∧
      found.Pairwise (fun a b => a.path.Before b.path) ∧
      found.Pairwise (fun a b => ¬ a.path.Same b.path) ∧
      ∀ files : FileTree, files.find root = .ok t →
        ofPath files root = .ok ⟨root, []⟩ ∧ scan files ⟨root, []⟩ = .ok found ∧
          ∀ f ∈ caseFiles, files.read (root.descend f.names) = f.content) ∧
    ∃ p q : Path, p.Before q ∧ q.octets < p.octets := by
  obtain ⟨found, hfound⟩ := exists_found hproper hlistable ⟨root, []⟩
  have hincreasing := pairwise_of_map_ok hfound (pairwise_itemsIn _ hproper)
  have hmem (d : Discovered) : d ∈ found ↔ ∃ f : CaseFile, f.In t ∧
      d = .ofResult (root.descend f.names) (Case.ofContent (root.descend f.names) f.content) := by
    rw [← ok_mem_itemsIn_iff hdirectory hproper, hfound, List.mem_map_of_injective]
    exact fun _ _ => Except.ok.inj
  -- each item is paired with the file it was found in
  obtain ⟨pairs, rfl⟩ : found ∈ Set.range (List.map fun e : { e : CaseFile × Discovered //
      e.1.In t ∧ Reported (root.descend e.1.names) e.1.stem e.1.content e.2 } => e.1.2) := by
    rw [Set.range_list_map]
    intro d hd
    obtain ⟨f, hf, rfl⟩ := (hmem d).1 hd
    exact ⟨⟨(f, _), hf, reported_ofContent (hf.stem? hproper root) f.content⟩, rfl⟩
  refine ⟨⟨pairs.map fun e => e.1.1, _, hfound, ?_, fun f => ?_, ?_, hincreasing,
    hincreasing.imp Path.Before.not_same, fun files hfind => ⟨?_, ?_, fun f hf => ?_⟩⟩, ?_⟩
  · rw [List.pairwise_map] at hincreasing
    refine List.pairwise_map.2 (hincreasing.imp fun {a b} hab heq => hab.not_same ?_)
    rw [a.2.2.path_eq, b.2.2.path_eq, heq]
    rfl
  · rw [List.mem_map]
    constructor
    · rintro ⟨e, _, rfl⟩
      exact e.2.1
    · intro hf
      obtain ⟨e, he, heq⟩ := List.mem_map.1 ((hmem _).2 ⟨f, hf, rfl⟩)
      refine ⟨e, he, e.2.1.eq_of_names hf (root.eq_of_descend (e.2.1.isFileName hproper)
        (hf.isFileName hproper) ?_)⟩
      rw [← e.2.2.path_eq, heq, path_ofContent]
  · rw [List.forall₂_map_left_iff, List.forall₂_map_right_iff, List.forall₂_same]
    exact fun e _ => e.2.2
  · have hroot : files.hasDirectory root = true := by
      rw [FileTree.hasDirectory, hfind]
      exact hdirectory
    exact if_pos hroot
  · rw [scan, items_of_find (r := ⟨root, []⟩) hfind, hfound, beforeFault_map_ok]
  · obtain ⟨e, _, rfl⟩ := List.mem_map.1 hf
    obtain ⟨_, node, hat, hcontent⟩ := e.2.1
    exact FileTree.read_of_find (FileTree.find_descend hfind hproper hat) hcontent
  · exact exists_before_and_lt

/-- Two directories, one with a file that may not be read and one with a file that is not UTF-8. -/
def siblings : FileTree := .directory
  [(Text.Utf8.octets "a", .directory [(Text.Utf8.octets "x.js", .sealedFile)]),
    (Text.Utf8.octets "a-b", .directory [(Text.Utf8.octets "x.js", .file [0xff])])]

theorem walk_siblings : siblings.walk (.ofText "t") = [(.ofText "t", siblings),
    (.ofText "t/a", .directory [(Text.Utf8.octets "x.js", .sealedFile)]),
    (.ofText "t/a/x.js", .sealedFile),
    (.ofText "t/a-b", .directory [(Text.Utf8.octets "x.js", .file [0xff])]),
    (.ofText "t/a-b/x.js", .file [0xff])] := by
  rw [siblings, FileTree.walk, FileTree.inNameOrder, List.mergeSort_of_pairwise (by decide)]
  simp only [FileTree.walkEntries, FileTree.walk, FileTree.inNameOrder, List.mergeSort_singleton]
  rfl

theorem proper_siblings : siblings.Proper := by
  apply FileTree.proper_directory (by decide)
  intro e he
  rcases List.mem_pair.1 he with rfl | rfl
  · exact ⟨by decide, FileTree.proper_singleton (by decide) (FileTree.proper_of_leaf nofun)⟩
  · exact ⟨by decide, FileTree.proper_singleton (by decide) (FileTree.proper_of_leaf nofun)⟩

theorem discovers_in_order_siblings :
    siblings.isDirectory = true ∧ siblings.Proper ∧
      (∀ names, siblings.at? names ≠ some .sealedDirectory) ∧
      ∃ found : List Discovered, (CaseRoot.mk (.ofText "t") []).itemsIn siblings = found.map .ok ∧
        found.Pairwise (fun a b => a.path.Before b.path) ∧
        found.map (·.path.text) = ["t/a/x.js", "t/a-b/x.js"] := by
  have hlistable (names : List FileName) : siblings.at? names ≠ some .sealedDirectory := by
    intro hat
    have hmem : ((Path.ofText "t").descend names, .sealedDirectory) ∈ siblings.walk (.ofText "t") :=
      (FileTree.mem_walk proper_siblings).2 ⟨names, hat, rfl⟩
    rw [walk_siblings] at hmem
    simp [siblings] at hmem
  have hitems : (CaseRoot.mk (.ofText "t") []).itemsIn siblings
      = [.ok (.malformed ⟨.ofText "t/a/x.js", "x",
          (Case.LoadError.unreadable .permissionDenied).message⟩),
        .ok (.malformed ⟨.ofText "t/a-b/x.js", "x", Case.LoadError.notText.message⟩)] := by
    rw [itemsIn, walk_siblings]
    rfl
  obtain ⟨⟨_, found, hfound, _, _, _, hincreasing, _⟩, _⟩ :=
    discovers_in_order (.ofText "t") (t := siblings) rfl proper_siblings hlistable
  refine ⟨rfl, proper_siblings, hlistable, found, hfound, hincreasing, ?_⟩
  obtain rfl : found = [.malformed _, .malformed _] :=
    List.map_injective_iff.2 (fun _ _ => Except.ok.inj) (hfound.symm.trans hitems)
  rfl

end CaseRoot

end Conformance
