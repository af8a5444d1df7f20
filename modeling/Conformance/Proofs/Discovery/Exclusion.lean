import Conformance.Proofs.Discovery.Scan
import Conformance.Proofs.Discovery.Spelling

/-!
# Leaving files out

Patterns that are added to a root one list after the other act as one set of patterns. A scan with
them is the scan without them, less the items whose names below the root one of them matches. These
names do not depend on how the root is spelled: a walk goes through the same chains of names from
every root, and below the root a path has just the names of its chain as parts.
-/

namespace Conformance

namespace Path

variable {names : List FileName}

theorem below?_descend (root : Path) (h : ∀ name ∈ names, IsFileName name) :
    root.below? (root.descend names) = some (names.map .name) := by
  have hprefix : root.parts.isPrefixOf (root.parts ++ names.map .name) = true :=
    List.isPrefixOf_iff_prefix.2 (List.prefix_append _ _)
  rw [below?, parts_descend root h, if_pos hprefix, List.drop_left]

/-- Below the root a path is spelled by the names that lead to it. -/
theorem relative_descend (root : Path) (h : ∀ name ∈ names, IsFileName name) :
    root.relative (root.descend names) = ⟨[slash].intercalate names⟩ := by
  have hnames : (names.map Part.name).map Part.octets = names := by
    rw [List.map_map]
    exact List.map_id names
  rw [relative, below?_descend root h, Option.map_some, Option.getD_some, ofParts, hnames]

end Path

namespace FileTree

variable {t : FileTree}

theorem content?_of_isDirectory (h : t.isDirectory = true) : t.content? = none := by
  cases t with
  | directory | sealedDirectory => rfl
  | file | sealedFile | special => cases h

theorem inNameOrder_map {α β : Type} (g : α → β) (found : List (FileName × List α)) :
    inNameOrder (found.map fun e => (e.1, e.2.map g)) = (inNameOrder found).map g := by
  have hsort : (found.map fun e => (e.1, e.2.map g)).mergeSort (fun a b => decide (a.1 ≤ b.1))
      = (found.mergeSort fun a b => decide (a.1 ≤ b.1)).map fun e => (e.1, e.2.map g) :=
    (List.map_mergeSort (f := fun e : FileName × List α => (e.1, e.2.map g))
      fun _ _ _ _ => rfl).symm
  rw [inNameOrder, inNameOrder, hsort, List.flatMap_map, List.map_flatMap]

/-- The chains of names lead to these nodes, and from every root a walk goes through them. -/
def Chains (t : FileTree) (chains : List (List FileName × FileTree)) : Prop :=
  (∀ e ∈ chains, t.at? e.1 = some e.2) ∧
    ∀ root : Path, t.walk root = chains.map fun e => (root.descend e.1, e.2)

theorem exists_chains_below {entries : List (FileName × FileTree)}
    (h : ∀ e ∈ entries, ∃ chains, e.2.Chains chains) :
    ∃ found : List (FileName × List (List FileName × FileTree)),
      (∀ e ∈ found, ∀ x ∈ e.2, ∃ child names, (e.1, child) ∈ entries ∧ x.1 = e.1 :: names ∧
        child.at? names = some x.2) ∧
      ∀ root : Path, walkEntries root entries
        = found.map fun e => (e.1, e.2.map fun x => (root.descend x.1, x.2)) := by
  induction entries with
  | nil => exact ⟨[], nofun, fun _ => rfl⟩
  | cons entry entries ih =>
    obtain ⟨name, child⟩ := entry
    obtain ⟨hchild, hrest⟩ := List.forall_mem_cons.1 h
    obtain ⟨chains, hat, hwalk⟩ := hchild
    obtain ⟨found, hfound, hentries⟩ := ih hrest
    refine ⟨(name, chains.map fun x => (name :: x.1, x.2)) :: found, ?_, fun root => ?_⟩
    · refine List.forall_mem_cons.2 ⟨fun x hx => ?_, fun e he x hx => ?_⟩
      · obtain ⟨y, hy, rfl⟩ := List.mem_map.1 hx
        exact ⟨child, y.1, List.mem_cons_self, rfl, hat y hy⟩
      · obtain ⟨child', names, hmem, hx⟩ := hfound e he x hx
        exact ⟨child', names, List.mem_cons_of_mem _ hmem, hx⟩
    · rw [walkEntries, hentries root, hwalk, List.map_cons, List.map_map]
      rfl

/-- A walk goes through the same chains of names from every root. -/
theorem exists_chains (h : t.Proper) : ∃ chains, t.Chains chains := by
  induction t using inductionOn with
  | leaf t hleaf =>
    refine ⟨[([], t)], fun e he => ?_, fun root => walk_of_leaf hleaf root⟩
    rw [List.mem_singleton.1 he]
    rfl
  | directory entries ih =>
    obtain ⟨found, hfound, hentries⟩ := exists_chains_below fun e he => ih e he (h.child he)
    refine ⟨([], .directory entries) :: inNameOrder found, ?_, fun root => ?_⟩
    · refine List.forall_mem_cons.2 ⟨rfl, fun x hx => ?_⟩
      obtain ⟨e, he, hx⟩ := mem_inNameOrder.1 hx
      obtain ⟨child, names, hmem, hnames, hat⟩ := hfound e he x hx
      rw [hnames, at?_directory, h.mem_iff.1 hmem, Option.bind_some, hat]
    · rw [walk, hentries root, inNameOrder_map]
      rfl

end FileTree

namespace CaseRoot

/-! ### Patterns -/

/-- The text makes a pattern. -/
def ValidPattern (text : String) : Prop := (Pattern.ofText? text).isSome

instance (text : String) : Decidable (ValidPattern text) :=
  inferInstanceAs (Decidable ((Pattern.ofText? text).isSome = true))

/-- The first text that makes no pattern is reported, and without one all make theirs. -/
theorem mapM_pattern (texts : List String) : texts.mapM pattern =
    match texts.find? fun text => ¬ ValidPattern text with
    | some text => .error (.badPattern text)
    | none => .ok (texts.filterMap Pattern.ofText?) := by
  induction texts with
  | nil => rfl
  | cons text texts ih =>
    rw [List.mapM_cons, ih, pattern, List.find?_cons, List.filterMap_cons]
    cases hpattern : Pattern.ofText? text with
    | none =>
      have hbad : (decide ¬ ValidPattern text) = true := by simp [ValidPattern, hpattern]
      rw [hbad]
      rfl
    | some p =>
      have hgood : (decide ¬ ValidPattern text) = false := by simp [ValidPattern, hpattern]
      rw [hgood]
      cases texts.find? fun text => ¬ ValidPattern text <;> rfl

variable {texts : List String}

theorem exclude_eq_ok (r : CaseRoot) (h : ∀ text ∈ texts, ValidPattern text) :
    r.exclude texts
      = .ok { r with excludes := r.excludes ++ texts.filterMap Pattern.ofText? } := by
  have hnone : (texts.find? fun text => ¬ ValidPattern text) = none :=
    List.find?_eq_none.2 fun text htext => by simpa using h text htext
  rw [exclude, mapM_pattern, hnone]
  rfl

theorem exclude_exclude (root : Path) {ps qs : List String}
    (h : ∀ text ∈ ps ++ qs, ValidPattern text) :
    (CaseRoot.mk root []).exclude ps >>= (·.exclude qs)
      = .ok ⟨root, (ps ++ qs).filterMap Pattern.ofText?⟩ := by
  obtain ⟨hps, hqs⟩ := List.forall_mem_append.1 h
  rw [exclude_eq_ok _ hps, List.filterMap_append]
  exact exclude_eq_ok ⟨root, ps.filterMap Pattern.ofText?⟩ hqs

theorem exclude_eq_error (r : CaseRoot) (h : ∃ text ∈ texts, ¬ ValidPattern text) :
    ∃ text ∈ texts, ¬ ValidPattern text ∧ r.exclude texts = .error (.badPattern text) := by
  cases hfind : texts.find? fun text => ¬ ValidPattern text with
  | none =>
    obtain ⟨text, htext, hbad⟩ := h
    exact absurd hbad (by simpa using List.find?_eq_none.1 hfind text htext)
  | some text =>
    refine ⟨text, List.mem_of_find?_eq_some hfind, by simpa using List.find?_some hfind, ?_⟩
    rw [exclude, mapM_pattern, hfind]
    rfl

/-! ### Names below the root -/

/-- What patterns see of a chain of names: the names joined by slashes as they are printed, with a
slash for each backslash. -/
def spelling (names : List FileName) : List Char :=
  (Text.Utf8.lossyText ([Path.slash].intercalate names)).toList.map
    fun c => if c = '\\' then '/' else c

/-- One of the patterns matches the chain of names. -/
def hides (texts : List String) (names : List FileName) : Bool :=
  texts.any fun text => (Pattern.ofText? text).any (·.occursIn (spelling names))

/-- The names below the root under which an item was found. -/
def namesBelow (root : Path) (d : Discovered) : List FileName :=
  (d.path.parts.drop root.parts.length).map Path.Part.octets

/-- What patterns leave of a scan: the items whose names none of them matches, and all faults. -/
def leaves (root : Path) (texts : List String) : Except Abort Discovered → Bool
  | .ok d => !hides texts (namesBelow root d)
  | .error _ => true

/-- The names below the root of an item. -/
def namesOf? (root : Path) (item : Except Abort Discovered) : Option (List FileName) :=
  item.toOption.map (namesBelow root)

variable {t node : FileTree} {names : List FileName} {root : Path} {d : Discovered}

/-- What is left depends on which patterns there are and not on their order. -/
theorem leaves_congr {texts' : List String} (h : ∀ text, text ∈ texts ↔ text ∈ texts') :
    leaves root texts = leaves root texts' := by
  have hhides (names : List FileName) : hides texts names = hides texts' names := by
    rw [Bool.eq_iff_iff, hides, hides, List.any_eq_true, List.any_eq_true]
    simp only [h]
  funext item
  cases item with
  | error a => rfl
  | ok d => rw [leaves, leaves, hhides]

theorem namesBelow_eq (hnames : ∀ name ∈ names, IsFileName name)
    (hpath : d.path = root.descend names) : namesBelow root d = names := by
  rw [namesBelow, hpath, Path.parts_descend root hnames, List.drop_left, List.map_map]
  exact List.map_id names

theorem excludedText_descend (r : CaseRoot) (hnames : ∀ name ∈ names, IsFileName name) :
    r.excludedText (r.path.descend names) = spelling names := by
  rw [excludedText, Path.relative_descend r.path hnames, spelling, Path.text]

theorem excluded_descend (hnames : ∀ name ∈ names, IsFileName name) :
    (CaseRoot.mk root (texts.filterMap Pattern.ofText?)).excluded (root.descend names)
      = hides texts names := by
  have htext := excludedText_descend ⟨root, texts.filterMap Pattern.ofText?⟩ hnames
  rw [excluded, htext, hides, List.any_filterMap]
  rfl

theorem visit_of_ne (r : CaseRoot) (path : Path) (h : node ≠ .sealedDirectory) :
    r.visit path node = if r.isCandidate path then
      node.content?.map fun content => .ok (.ofResult path (Case.ofContent path content))
    else none := by
  cases node with
  | sealedDirectory => exact absurd rfl h
  | file | directory | sealedFile | special => rfl

/-- Patterns take items out of a scan and leave faults in it. -/
theorem visit_descend (hnames : ∀ name ∈ names, IsFileName name) :
    (CaseRoot.mk root (texts.filterMap Pattern.ofText?)).visit (root.descend names) node
      = ((CaseRoot.mk root []).visit (root.descend names) node).filter (leaves root texts) := by
  by_cases hsealed : node = .sealedDirectory
  · subst hsealed
    rfl
  · have hall : (CaseRoot.mk root []).isCandidate (root.descend names)
        = isCaseName (root.descend names) := Bool.and_true _
    rw [visit_of_ne _ _ hsealed, visit_of_ne _ _ hsealed, hall, isCandidate,
      excluded_descend hnames]
    cases hcontent : node.content? with
    | none => simp
    | some content =>
      have hleaves : leaves root texts (.ok (.ofResult (root.descend names)
          (Case.ofContent (root.descend names) content))) = !hides texts names := by
        rw [leaves, namesBelow_eq hnames (path_ofContent _ _)]
      cases isCaseName (root.descend names) with
      | false => rfl
      | true => cases hhides : hides texts names <;> simp [hleaves, hhides, Option.filter]

/-- A scan with patterns is the scan without them, less what one of them matches. -/
theorem itemsIn_eq_filter (hproper : t.Proper) (root : Path) (texts : List String) :
    (CaseRoot.mk root (texts.filterMap Pattern.ofText?)).itemsIn t
      = ((CaseRoot.mk root []).itemsIn t).filter (leaves root texts) := by
  rw [itemsIn, itemsIn, List.filter_filterMap]
  refine List.filterMap_congr fun ⟨path, node⟩ hmem => ?_
  obtain ⟨names, hat, rfl⟩ := (FileTree.mem_walk hproper).1 hmem
  exact visit_descend (hproper.isFileName hat)

/-! ### Spellings of the root -/

/-- What a scan of a directory finds has names below the root, which lead to its content. -/
theorem exists_names_of_ok_mem (hdirectory : t.isDirectory = true) (hproper : t.Proper)
    {r : CaseRoot} (hd : .ok d ∈ r.itemsIn t) : ∃ names node, t.at? names = some node ∧
      node.content?.isSome ∧ names ≠ [] ∧ d.path = r.path.descend names ∧
      namesBelow r.path d = names := by
  obtain ⟨⟨path, node⟩, hmem, hvisit⟩ := List.mem_filterMap.1 hd
  obtain ⟨names, hat, rfl⟩ := (FileTree.mem_walk hproper).1 hmem
  obtain ⟨_, content, hcontent, rfl⟩ := visit_eq_ok_iff.1 hvisit
  have hpath := path_ofContent (r.path.descend names) content
  refine ⟨names, node, hat, hcontent ▸ rfl, ?_, hpath,
    namesBelow_eq (hproper.isFileName hat) hpath⟩
  rintro rfl
  obtain rfl : t = node := Option.some.inj hat
  rw [FileTree.content?_of_isDirectory hdirectory] at hcontent
  cases hcontent

/-- Whether a chain of names leads to a case does not depend on the root. -/
theorem isCandidate_descend (root root' : Path) (excludes : List Pattern)
    (hnames : ∀ name ∈ names, IsFileName name) (hne : names ≠ []) :
    (CaseRoot.mk root excludes).isCandidate (root.descend names)
      = (CaseRoot.mk root' excludes).isCandidate (root'.descend names) := by
  have htext := excludedText_descend ⟨root, excludes⟩ hnames
  have htext' := excludedText_descend ⟨root', excludes⟩ hnames
  obtain ⟨front, last, rfl⟩ := (List.eq_nil_or_concat' names).resolve_left hne
  have hlast := hnames last (List.mem_concat_self ..)
  have hcase : isCaseName (root.descend (front ++ [last]))
      = isCaseName (root'.descend (front ++ [last])) := by
    rw [isCaseName, isCaseName, Path.extension?, Path.extension?, Path.descend_concat,
      Path.descend_concat, Path.fileName?_join _ hlast, Path.fileName?_join _ hlast]
  rw [isCandidate, isCandidate, excluded, excluded, htext, htext', hcase]

/-- What a scan makes of a chain of names below a directory is found under these names. -/
theorem namesOf?_visit (r : CaseRoot) (hnames : ∀ name ∈ names, IsFileName name) :
    (r.visit (r.path.descend names) node).bind (namesOf? r.path)
      = if r.isCandidate (r.path.descend names) ∧ node.content?.isSome then some names
        else none := by
  by_cases hsealed : node = .sealedDirectory
  · subst hsealed
    rw [if_neg fun h => absurd h.2 Bool.false_ne_true]
    rfl
  · rw [visit_of_ne _ _ hsealed]
    cases hcontent : node.content? with
    | none => simp
    | some content =>
      have hbelow := namesBelow_eq hnames (path_ofContent (r.path.descend names) content)
      cases r.isCandidate (r.path.descend names) with
      | false => rfl
      | true => simpa [namesOf?, Except.toOption] using hbelow

/-- The names of what a scan finds in a directory do not depend on how the directory is spelled. -/
theorem filterMap_namesOf?_itemsIn (hdirectory : t.isDirectory = true) (hproper : t.Proper)
    (root root' : Path) (excludes : List Pattern) :
    ((CaseRoot.mk root excludes).itemsIn t).filterMap (namesOf? root)
      = ((CaseRoot.mk root' excludes).itemsIn t).filterMap (namesOf? root') := by
  obtain ⟨chains, hat, hwalk⟩ := FileTree.exists_chains hproper
  rw [itemsIn, itemsIn, List.filterMap_filterMap, List.filterMap_filterMap, hwalk, hwalk,
    List.filterMap_map, List.filterMap_map]
  refine List.filterMap_congr fun ⟨names, node⟩ hmem => ?_
  have hnames := hproper.isFileName (hat _ hmem)
  refine (namesOf?_visit ⟨root, excludes⟩ hnames).trans
    (Eq.trans ?_ (namesOf?_visit ⟨root', excludes⟩ hnames).symm)
  by_cases hne : names = []
  · subst hne
    obtain rfl : t = node := Option.some.inj (hat _ hmem)
    rw [FileTree.content?_of_isDirectory hdirectory]
    simp
  · rw [isCandidate_descend root root' excludes hnames hne]

/-- Added one list after the other, valid patterns take out of a scan what one of them matches, and
nothing else. What they see of a file are its names below the root. So neither their grouping and
order nor the spelling of the root changes which files are found. With a pattern that is not valid
there is no root with more patterns. -/
theorem excludes_filter (hdirectory : t.isDirectory = true) (hproper : t.Proper) (root : Path) :
    (∀ ps qs : List String, (∀ text ∈ ps ++ qs, ValidPattern text) → ∃ r : CaseRoot,
      (CaseRoot.mk root []).exclude ps >>= (·.exclude qs) = .ok r ∧ r.path = root ∧
      r.itemsIn t = ((CaseRoot.mk root []).itemsIn t).filter (leaves root (ps ++ qs)) ∧
      ∀ (root' : Path) (ps' qs' : List String) (r' : CaseRoot),
        (∀ text, text ∈ ps' ++ qs' ↔ text ∈ ps ++ qs) →
        (CaseRoot.mk root' []).exclude ps' >>= (·.exclude qs') = .ok r' →
        (r'.itemsIn t).filterMap (namesOf? root') = (r.itemsIn t).filterMap (namesOf? root)) ∧
    (∀ d, .ok d ∈ (CaseRoot.mk root []).itemsIn t → ∃ names node,
      t.at? names = some node ∧ node.content?.isSome ∧ names ≠ [] ∧
      d.path = root.descend names ∧ namesBelow root d = names) ∧
    (∀ files : FileTree, files.find root = .ok t → ofPath files root = .ok ⟨root, []⟩ ∧
      (∀ r : CaseRoot, r.path = root → r.items files = r.itemsIn t) ∧
      ∀ root', root.Respelled root' → t ≠ .sealedDirectory → files.find root' = .ok t) ∧
    ∀ (r : CaseRoot) (texts : List String), (∃ text ∈ texts, ¬ ValidPattern text) →
      ∃ text ∈ texts, ¬ ValidPattern text ∧ r.exclude texts = .error (.badPattern text) := by
  refine ⟨fun ps qs hvalid => ?_, fun d => exists_names_of_ok_mem hdirectory hproper,
    fun files hfind => ?_, fun r texts => exclude_eq_error r⟩
  · have hfilter := itemsIn_eq_filter hproper root (ps ++ qs)
    refine ⟨_, exclude_exclude root hvalid, rfl, hfilter, fun root' ps' qs' r' hmem hr' => ?_⟩
    rw [exclude_exclude root' fun text htext => hvalid text ((hmem text).1 htext)] at hr'
    obtain rfl := Except.ok.inj hr'
    rw [filterMap_namesOf?_itemsIn hdirectory hproper root' root, hfilter,
      itemsIn_eq_filter hproper root (ps' ++ qs'), leaves_congr hmem]
  · refine ⟨?_, fun r hr => items_of_find (hr ▸ hfind), fun root' hroot' hopen => ?_⟩
    · have hroot : files.hasDirectory root = true := by
        rw [FileTree.hasDirectory, hfind]
        exact hdirectory
      exact if_pos hroot
    · cases t with
      | directory entries => exact FileTree.find_of_respelled hroot' hfind
      | sealedDirectory => exact absurd rfl hopen
      | file | sealedFile | special => cases hdirectory

/-- Three files, one of them in a directory and one with a backslash in its name. -/
def assorted : FileTree := .directory
  [(Text.Utf8.octets "b.js", .file []),
    (Text.Utf8.octets "skip", .directory [(Text.Utf8.octets "a.js", .file [])]),
    (Text.Utf8.octets "w\\z.js", .file [])]

theorem walk_assorted : assorted.walk (.ofText "./t//") = [(.ofText "./t//", assorted),
    (.ofText "./t//b.js", .file []),
    (.ofText "./t//skip", .directory [(Text.Utf8.octets "a.js", .file [])]),
    (.ofText "./t//skip/a.js", .file []), (.ofText "./t//w\\z.js", .file [])] := by
  rw [assorted, FileTree.walk, FileTree.inNameOrder, List.mergeSort_of_pairwise (by decide)]
  simp only [FileTree.walkEntries, FileTree.walk, FileTree.inNameOrder, List.mergeSort_singleton]
  rfl

theorem proper_assorted : assorted.Proper := by
  apply FileTree.proper_directory (by decide)
  intro e he
  rcases List.mem_cons.1 he with rfl | he
  · exact ⟨by decide, FileTree.proper_of_leaf nofun⟩
  · rcases List.mem_pair.1 he with rfl | rfl
    · exact ⟨by decide, FileTree.proper_singleton (by decide) (FileTree.proper_of_leaf nofun)⟩
    · exact ⟨by decide, FileTree.proper_of_leaf nofun⟩

theorem excludes_filter_assorted : assorted.isDirectory = true ∧ assorted.Proper ∧
    (∀ text ∈ ["^skip/"] ++ ["w/z"], ValidPattern text) ∧
    ∃ r : CaseRoot,
      (CaseRoot.mk (.ofText "./t//") []).exclude ["^skip/"] >>= (·.exclude ["w/z"]) = .ok r ∧
        (r.itemsIn assorted).filterMap (namesOf? (.ofText "./t//"))
          = [[Text.Utf8.octets "b.js"]] := by
  have hvalid : ∀ text ∈ ["^skip/"] ++ ["w/z"], ValidPattern text := by decide +kernel
  obtain ⟨hfilter, -⟩ := excludes_filter (t := assorted) rfl proper_assorted (.ofText "./t//")
  obtain ⟨r, hr, -, hitems, -⟩ := hfilter ["^skip/"] ["w/z"] hvalid
  refine ⟨rfl, proper_assorted, hvalid, r, hr, ?_⟩
  rw [hitems, itemsIn, walk_assorted]
  decide +kernel

end CaseRoot

end Conformance
