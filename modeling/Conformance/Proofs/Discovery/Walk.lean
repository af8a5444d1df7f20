import Conformance.Proofs.FileTree
import Conformance.Proofs.Path

/-!
# What a walk comes to

A walk comes to every node of a tree once, each at the path that its names make, and in the order of
paths: a directory is before what is in it, and of two entries that with the smaller name is before
the other with everything in it. That takes names that may stand in a directory and that are not
used twice, which is what `Proper` says.
-/

namespace Conformance.FileTree

/-- Every directory of the tree has names that may stand in one, and each of them once. -/
def Proper (t : FileTree) : Prop :=
  ∀ names entries, t.at? names = some (.directory entries) →
    (entries.map (·.1)).Nodup ∧ ∀ e ∈ entries, IsFileName e.1

/-- A tree is an open directory with entries, or has nothing below it. -/
@[elab_as_elim]
theorem inductionOn {motive : FileTree → Prop} (t : FileTree)
    (directory : ∀ entries, (∀ e ∈ entries, motive e.2) → motive (.directory entries))
    (leaf : ∀ t : FileTree, (∀ entries, t ≠ .directory entries) → motive t) : motive t :=
  @FileTree.rec motive (fun entries => ∀ e ∈ entries, motive e.2) (fun e => motive e.2)
    (fun octets => leaf (.file octets) nofun) directory (leaf .sealedFile nofun)
    (leaf .sealedDirectory nofun) (leaf .special nofun) nofun
    (fun _ _ hhead hrest => List.forall_mem_cons.2 ⟨hhead, hrest⟩) (fun _ _ h => h) t

variable {t : FileTree} {entries : List (FileName × FileTree)}

theorem entries_of_leaf (h : ∀ entries, t ≠ .directory entries) : t.entries = [] := by
  cases t with
  | directory entries => exact absurd rfl (h entries)
  | file | sealedFile | sealedDirectory | special => rfl

theorem at?_directory (name : FileName) (names : List FileName) :
    (directory entries).at? (name :: names) = (entries.lookup name).bind (·.at? names) := rfl

/-- Names go on below an open directory only. -/
theorem exists_of_at?_cons {name : FileName} {names : List FileName} {node : FileTree}
    (h : t.at? (name :: names) = some node) : ∃ entries child, t = .directory entries ∧
      entries.lookup name = some child ∧ child.at? names = some node := by
  obtain ⟨child, hchild, hat⟩ := Option.bind_eq_some_iff.1 h
  by_cases hleaf : ∃ entries, t = .directory entries
  · obtain ⟨entries, rfl⟩ := hleaf
    exact ⟨entries, child, rfl, hchild, hat⟩
  · rw [ entry?, entries_of_leaf (not_exists.1 hleaf)] at hchild
    cases hchild

theorem Proper.of_at? (h : t.Proper) {names : List FileName} {node : FileTree}
    (hat : t.at? names = some node) : node.Proper := fun names' entries hat' =>
  h (names ++ names') entries (by rw [at?_append, hat, Option.bind_some, hat'])

theorem Proper.mem_iff (h : Proper (.directory entries)) {name : FileName} {child : FileTree} :
    (name, child) ∈ entries ↔ entries.lookup name = some child :=
  (Table.lookup_eq_some_iff_mem_of_nodup (h [] entries rfl).1).symm

theorem Proper.child (h : Proper (.directory entries)) {e : FileName × FileTree}
    (he : e ∈ entries) : e.2.Proper :=
  h.of_at? ((at?_directory e.1 []).trans (by rw [h.mem_iff.1 he]; rfl))

/-- A chain of names that leads somewhere is made of names that may stand in a directory. -/
theorem Proper.isFileName (h : t.Proper) {names : List FileName} {node : FileTree}
    (hat : t.at? names = some node) : ∀ name ∈ names, IsFileName name := by
  induction names generalizing t with
  | nil => nofun
  | cons name names ih =>
    obtain ⟨entries, child, rfl, hlookup, hat⟩ := exists_of_at?_cons hat
    have hmem := h.mem_iff.2 hlookup
    exact List.forall_mem_cons.2 ⟨(h [] entries rfl).2 _ hmem, ih (h.child hmem) hat⟩

theorem proper_of_leaf (h : ∀ entries, t ≠ .directory entries) : t.Proper := by
  intro names entries hat
  cases names with
  | nil => exact absurd (Option.some.inj hat) (h entries)
  | cons name names =>
    obtain ⟨entries', _, rfl, _⟩ := exists_of_at?_cons hat
    exact absurd rfl (h entries')

theorem proper_directory (hnodup : (entries.map (·.1)).Nodup)
    (hentries : ∀ e ∈ entries, IsFileName e.1 ∧ e.2.Proper) : Proper (.directory entries) := by
  intro names entries' hat
  cases names with
  | nil =>
    cases Option.some.inj hat
    exact ⟨hnodup, fun e he => (hentries e he).1⟩
  | cons name names =>
    obtain ⟨_, child, heq, hlookup, hat⟩ := exists_of_at?_cons hat
    cases heq
    exact (hentries _ ((Table.lookup_eq_some_iff_mem_of_nodup hnodup).1 hlookup)).2 _ _ hat

theorem proper_singleton {name : FileName} {node : FileTree} (hname : IsFileName name)
    (hnode : node.Proper) : Proper (.directory [(name, node)]) := by
  refine proper_directory (List.nodup_singleton name) fun e he => ?_
  obtain rfl := List.mem_singleton.1 he
  exact ⟨hname, hnode⟩

/-! ### The order of names -/

section InNameOrder

variable {α : Type} {found : List (FileName × List α)}

theorem mem_inNameOrder {x : α} : x ∈ inNameOrder found ↔ ∃ e ∈ found, x ∈ e.2 := by
  simp only [inNameOrder, List.mem_flatMap, List.mem_mergeSort]

/-- What is in order under each name is in order, if what is under a smaller name is before what is
under a greater one. -/
theorem pairwise_inNameOrder {R : α → α → Prop} (hnodup : (found.map (·.1)).Nodup)
    (hwithin : ∀ e ∈ found, e.2.Pairwise R)
    (hacross : ∀ a ∈ found, ∀ b ∈ found, a.1 < b.1 → ∀ x ∈ a.2, ∀ y ∈ b.2, R x y) :
    (inNameOrder found).Pairwise R := by
  have htotal (a b : FileName × List α) : (decide (a.1 ≤ b.1) || decide (b.1 ≤ a.1)) = true := by
    rw [Bool.or_eq_true, decide_eq_true_eq, decide_eq_true_eq]
    exact List.le_total a.1 b.1
  have hsorted : (found.mergeSort fun a b => decide (a.1 ≤ b.1)).Pairwise
      fun a b => decide (a.1 ≤ b.1) = true := by
    refine List.pairwise_mergeSort (fun a b c hab hbc => ?_) htotal found
    exact decide_eq_true (List.le_trans (of_decide_eq_true hab) (of_decide_eq_true hbc))
  have hdistinct : (found.mergeSort fun a b => decide (a.1 ≤ b.1)).Pairwise (·.1 ≠ ·.1) :=
    List.pairwise_map.1 (((List.mergeSort_perm ..).map _).nodup_iff.2 hnodup)
  rw [inNameOrder, List.pairwise_flatMap]
  refine ⟨fun e he => hwithin e (List.mem_mergeSort.1 he),
    (hsorted.and hdistinct).imp_of_mem fun {a b} ha hb hab => ?_⟩
  refine hacross a (List.mem_mergeSort.1 ha) b (List.mem_mergeSort.1 hb) ?_
  by_contra hlt
  exact hab.2 (List.le_antisymm (of_decide_eq_true hab.1) (List.not_lt.1 hlt))

end InNameOrder

/-! ### Walks -/

theorem walkEntries_eq_map (path : Path) (entries : List (FileName × FileTree)) :
    walkEntries path entries = entries.map fun e => (e.1, e.2.walk (path.join e.1)) := by
  induction entries with
  | nil => rfl
  | cons e entries ih => rw [walkEntries, ih, List.map_cons]

theorem walk_of_leaf (h : ∀ entries, t ≠ .directory entries) (path : Path) :
    t.walk path = [(path, t)] := by
  cases t with
  | directory entries => exact absurd rfl (h entries)
  | file | sealedFile | sealedDirectory | special => rfl

theorem mem_walk_directory {path : Path} {x : Path × FileTree} :
    x ∈ (directory entries).walk path ↔
      x = (path, .directory entries) ∨ ∃ e ∈ entries, x ∈ e.2.walk (path.join e.1) := by
  rw [walk, walkEntries_eq_map, List.mem_cons, mem_inNameOrder]
  simp only [List.mem_map, exists_exists_and_eq_and]

/-- A walk comes to what chains of names lead to. -/
theorem mem_walk (h : t.Proper) {path p : Path} {node : FileTree} :
    (p, node) ∈ t.walk path ↔ ∃ names, t.at? names = some node ∧ p = path.descend names := by
  induction t using inductionOn generalizing path with
  | leaf t hleaf =>
    rw [walk_of_leaf hleaf, List.mem_singleton, Prod.mk.injEq]
    constructor
    · rintro ⟨rfl, rfl⟩
      exact ⟨[], rfl, rfl⟩
    · rintro ⟨names, hat, rfl⟩
      cases names with
      | nil => exact ⟨rfl, (Option.some.inj hat).symm⟩
      | cons name names =>
        obtain ⟨entries, _, rfl, _⟩ := exists_of_at?_cons hat
        exact absurd rfl (hleaf entries)
  | directory entries ih =>
    rw [mem_walk_directory, Prod.mk.injEq]
    constructor
    · rintro (⟨rfl, rfl⟩ | ⟨⟨name, child⟩, he, hmem⟩)
      · exact ⟨[], rfl, rfl⟩
      · obtain ⟨names, hat, rfl⟩ := (ih _ he (h.child he)).1 hmem
        refine ⟨name :: names, ?_, rfl⟩
        rw [at?_directory, h.mem_iff.1 he, Option.bind_some, hat]
    · rintro ⟨names, hat, rfl⟩
      cases names with
      | nil => exact .inl ⟨rfl, (Option.some.inj hat).symm⟩
      | cons name names =>
        obtain ⟨_, child, heq, hlookup, hat⟩ := exists_of_at?_cons hat
        cases heq
        have he := h.mem_iff.2 hlookup
        exact .inr ⟨_, he, (ih _ he (h.child he)).2 ⟨names, hat, rfl⟩⟩

/-- The parts of what is walked below a directory. -/
theorem exists_parts_of_mem_walk (h : t.Proper) {path p : Path} {node : FileTree}
    (hmem : (p, node) ∈ t.walk path) : ∃ parts, p.parts = path.parts ++ parts := by
  obtain ⟨names, hat, rfl⟩ := (mem_walk h).1 hmem
  exact ⟨_, path.parts_descend (h.isFileName hat)⟩

/-- A walk goes in the order of paths. -/
theorem pairwise_walk (h : t.Proper) (path : Path) :
    (t.walk path).Pairwise fun a b => a.1.Before b.1 := by
  induction t using inductionOn generalizing path with
  | leaf t hleaf =>
    rw [walk_of_leaf hleaf]
    exact List.pairwise_singleton _ _
  | directory entries ih =>
    -- whatever is below an entry goes on with the name of the entry
    have hparts : ∀ e ∈ entries, ∀ x ∈ e.2.walk (path.join e.1),
        ∃ parts, x.1.parts = path.parts ++ .name e.1 :: parts := by
      intro e he x hx
      obtain ⟨parts, hx⟩ := exists_parts_of_mem_walk (h.child he) hx
      rw [Path.parts_join path ((h [] entries rfl).2 e he), List.append_assoc] at hx
      exact ⟨parts, hx⟩
    rw [walk, walkEntries_eq_map, List.pairwise_cons]
    constructor
    · intro x hx
      obtain ⟨_, hmem, hx⟩ := mem_inNameOrder.1 hx
      obtain ⟨e, he, rfl⟩ := List.mem_map.1 hmem
      obtain ⟨parts, hx⟩ := hparts e he x hx
      exact Path.before_of_parts_append hx
    · refine pairwise_inNameOrder ?_ ?_ ?_
      · rw [List.map_map]
        exact (h [] entries rfl).1
      · intro found hfound
        obtain ⟨e, he, rfl⟩ := List.mem_map.1 hfound
        exact ih e he (h.child he) _
      · intro a ha b hb hab x hx y hy
        obtain ⟨e, he, rfl⟩ := List.mem_map.1 ha
        obtain ⟨e', he', rfl⟩ := List.mem_map.1 hb
        obtain ⟨_, hx⟩ := hparts e he x hx
        obtain ⟨_, hy⟩ := hparts e' he' y hy
        exact Path.before_of_name_lt hab hx hy

end Conformance.FileTree
