import Conformance.FileTree
import Conformance.Proofs.Text.Table
import Conformance.Proofs.Text.Utf8

/-!
# Reading back what was written

A path is walked through directories, and a file is written where there is none. So every directory
stays a directory and keeps the names it has, and a path that could be walked before leads to the
same place after. What is read there is what was written.
-/

namespace Conformance.FileTree

variable {t t' : FileTree}

/-! ### Trees with one node set -/

theorem lookup_setEntry (name : FileName) (node : FileTree) (entries : List (FileName × FileTree))
    (key : FileName) : (setEntry name (some node) entries).lookup key
      = if key = name then some node else entries.lookup key := by
  induction entries with
  | nil => exact Table.lookup_cons_eq_ite key name node []
  | cons entry rest ih =>
    obtain ⟨n, t⟩ := entry
    rw [setEntry]
    split
    · next hn =>
      subst hn
      rw [Option.toList_some, List.map_singleton, List.singleton_append,
        Table.lookup_cons_eq_ite, Table.lookup_cons_eq_ite]
      split <;> rfl
    · next hn =>
      rw [Table.lookup_cons_eq_ite, Table.lookup_cons_eq_ite, ih]
      by_cases hkey : key = n
      · rw [if_pos hkey, if_pos hkey, if_neg (hkey ▸ hn)]
      · rw [if_neg hkey, if_neg hkey]

theorem set_cons (node : FileTree) (name : FileName) (names : List FileName) (t : FileTree) :
    set (some node) (name :: names) t = .directory (setEntry name
      (some (set (some node) names ((t.entry? name).getD empty))) t.entries) := by
  cases names <;> rfl

theorem entry?_set_cons (node : FileTree) (name : FileName) (names : List FileName) (t : FileTree)
    (key : FileName) : entry? (set (some node) (name :: names) t) key
      = if key = name then some (set (some node) names ((t.entry? name).getD empty))
        else t.entry? key := by
  rw [set_cons]
  exact lookup_setEntry name _ t.entries key

theorem at?_append (t : FileTree) (names names' : List FileName) :
    t.at? (names ++ names') = (t.at? names).bind (·.at? names') := by
  induction names generalizing t with
  | nil => rfl
  | cons name names ih =>
    rw [List.cons_append, at?, at?, Option.bind_assoc]
    exact congrArg _ (funext ih)

theorem at?_set (node : FileTree) (names : List FileName) (t : FileTree) :
    (set (some node) names t).at? names = some node := by
  induction names generalizing t with
  | nil => rfl
  | cons name names ih => rw [at?, entry?_set_cons, if_pos rfl, Option.bind_some, ih]

/-! ### Walks -/

/-- Every directory of `t` is one of `t'` and has the names there that it has in `t`. -/
def Within (t t' : FileTree) : Prop :=
  ∀ walked entries, t.at? walked = some (.directory entries) →
    ∃ entries', t'.at? walked = some (.directory entries') ∧
      ∀ key, (entries.lookup key).isSome → (entries'.lookup key).isSome

/-- Nothing is lost where something other than a directory is set. -/
theorem within_set {names : List FileName} (node : FileTree)
    (hnot : ∀ entries, t.at? names ≠ some (.directory entries)) :
    t.Within (set (some node) names t) := by
  intro walked entries h
  induction names generalizing t walked with
  | nil =>
    cases t with
    | directory entries => exact absurd rfl (hnot entries)
    | file | sealedFile | sealedDirectory | special => cases walked <;> cases h
  | cons name names ih =>
    cases walked with
    | nil =>
      cases Option.some.inj h
      refine ⟨_, congrArg some (set_cons node name names _), fun key hkey => ?_⟩
      rw [lookup_setEntry]
      split
      · rfl
      · exact hkey
    | cons key walked =>
      rw [at?, entry?_set_cons]
      by_cases hkey : key = name
      · subst hkey
        obtain ⟨child, hchild, h⟩ := Option.bind_eq_some_iff.1 h
        rw [if_pos rfl, hchild, Option.getD_some, Option.bind_some]
        refine ih (fun entries hdirectory => hnot entries ?_) walked h
        rw [at?, hchild, Option.bind_some, hdirectory]
      · rw [if_neg hkey]
        exact ⟨entries, h, fun _ => id⟩

theorem step_name {above : List FileName} {segment : List UInt8}
    {entries : List (FileName × FileTree)} (hat : t.at? above.reverse = some (.directory entries))
    (hstay : ¬ (segment = [] ∨ segment = [Path.dot])) (hup : segment ≠ [Path.dot, Path.dot])
    (hin : (entries.lookup segment).isSome) : t.step above segment = .ok (segment :: above) := by
  rw [step.eq_def, hat]
  dsimp only
  rw [if_neg hstay, if_neg hup, if_pos hin]

theorem Within.step (h : t.Within t') {above above' : List FileName} {segment : List UInt8}
    (hstep : t.step above segment = .ok above') : t'.step above segment = .ok above' := by
  rw [FileTree.step.eq_def] at hstep ⊢
  split at hstep
  · next entries hat =>
    obtain ⟨entries', hat', hkeys⟩ := h _ _ hat
    rw [hat']
    dsimp only
    split_ifs at hstep ⊢ with hstay hup hin
    · exact hstep
    · exact hstep
    · exact hstep
    · exact hin (hkeys _ ‹_›)
  all_goals cases hstep

theorem Within.foldlM_step (h : t.Within t') {segments above above' : List FileName}
    (hwalk : segments.foldlM t.step above = .ok above') :
    segments.foldlM t'.step above = .ok above' := by
  induction segments generalizing above with
  | nil => exact hwalk
  | cons segment segments ih =>
    rw [List.foldlM_cons] at hwalk ⊢
    cases hstep : t.step above segment with
    | error e => rw [hstep] at hwalk; cases hwalk
    | ok next =>
      rw [hstep] at hwalk
      rw [h.step hstep]
      exact ih hwalk

/-! ### Files -/

theorem resolve_eq_ok_iff {p : Path} {names : List FileName} : t.resolve p = .ok names ↔
    p.octets.contains 0 = false ∧ (p.octets.isEmpty || p.isAbsolute) = false ∧
      p.segments.foldlM t.step [] = .ok names.reverse := by
  rw [resolve]
  cases hnul : p.octets.contains 0 with
  | true => simp
  | false =>
    cases hrelative : p.octets.isEmpty || p.isAbsolute with
    | true => simp
    | false =>
      cases hwalk : p.segments.foldlM t.step [] with
      | error e => simp [Except.map]
      | ok above => simp [Except.map, List.reverse_eq_iff]

theorem Within.resolve (h : t.Within t') {p : Path} {names : List FileName}
    (hresolve : t.resolve p = .ok names) : t'.resolve p = .ok names := by
  obtain ⟨hnul, hrelative, hwalk⟩ := resolve_eq_ok_iff.1 hresolve
  exact resolve_eq_ok_iff.2 ⟨hnul, hrelative, h.foldlM_step hwalk⟩

theorem find_eq_of_resolve {p : Path} {names : List FileName} (h : t.resolve p = .ok names) :
    t.find p = match t.at? names with
      | some node => .ok node
      | none => .error .notFound := by
  rw [find, h]
  rfl

theorem exists_resolve_of_find {p : Path} {node : FileTree} (h : t.find p = .ok node) :
    ∃ names, t.resolve p = .ok names ∧ t.at? names = some node := by
  cases hresolve : t.resolve p with
  | error e => rw [find, hresolve] at h; cases h
  | ok names =>
    refine ⟨names, rfl, ?_⟩
    rw [find_eq_of_resolve hresolve] at h
    split at h
    · next hat => rw [hat, Except.ok.inj h]
    · cases h

theorem read_of_resolve {p : Path} {names : List FileName} {octets : List UInt8}
    (h : t.resolve p = .ok names) (hat : t.at? names = some (.file octets)) :
    t.read p = .ok octets := by
  rw [read, find_eq_of_resolve h, hat]
  rfl

/-- A new file gets a name in a directory that the path leads to. -/
theorem exists_of_newFile {p : Path} {names : List FileName} {name : FileName}
    (h : t.newFile p = .ok (names, name)) : ∃ (front : List FileName) (entries : _),
      (p.octets.isEmpty || p.isAbsolute) = false ∧ p.segments = front ++ [name] ∧
        front.foldlM t.step [] = .ok names.reverse ∧ t.at? names = some (.directory entries) ∧
        name ≠ [] ∧ name ≠ [Path.dot, Path.dot] := by
  rw [newFile] at h
  split at h
  · cases h
  · next hrelative =>
    dsimp only at h
    cases hwalk : (p.segments.reverse.dropWhile (·.isEmpty)).tail.reverse.foldlM t.step [] with
    | error e => rw [hwalk] at h; cases h
    | ok above =>
      rw [hwalk] at h
      dsimp only [bind, Except.bind] at h
      split at h
      · next entries last front hat hreversed =>
        split at h
        · cases h
        · next hname =>
          cases h
          have hfront : p.segments = front.reverse ++ [name] :=
            List.reverse_eq_cons_iff.1 hreversed
          have hempty : ¬ name.isEmpty := fun hempty => hname (.inl (List.isEmpty_iff.1 hempty))
          rw [hreversed, List.dropWhile_cons_of_neg hempty, List.tail_cons] at hwalk
          exact ⟨front.reverse, entries, by simpa using hrelative, hfront,
            by rw [hwalk, List.reverse_reverse], hat, not_or.1 hname⟩
      all_goals cases h

theorem resolve_of_step {p : Path} {front walked above : List FileName} {name : FileName}
    (hnul : p.octets.contains 0 = false)
    (hrelative : (p.octets.isEmpty || p.isAbsolute) = false)
    (hsegments : p.segments = front ++ [name])
    (hwalk : front.foldlM t.step [] = .ok walked) (hstep : t.step walked name = .ok above) :
    t.resolve p = .ok above.reverse := by
  rw [resolve_eq_ok_iff, List.reverse_reverse, hsegments, List.foldlM_append, hwalk]
  refine ⟨hnul, hrelative, ?_⟩
  show [name].foldlM t.step walked = .ok above
  rw [List.foldlM_cons, hstep]
  rfl

theorem at?_concat {names : List FileName} {entries : List (FileName × FileTree)}
    (hat : t.at? names = some (.directory entries)) (name : FileName) :
    t.at? (names ++ [name]) = entries.lookup name := by
  rw [at?_append, hat, Option.bind_some]
  exact Option.bind_fun_some (entries.lookup name)

/-- A file is new where a path leads to a directory, and its last name to nothing in it. -/
theorem read_set_of_newFile {p : Path} {names : List FileName} {name : FileName}
    (hfind : t.find p = .error .notFound) (hnew : t.newFile p = .ok (names, name))
    (octets : List UInt8) :
    (set (some (.file octets)) (names ++ [name]) t).read p = .ok octets := by
  obtain ⟨front, entries, hrelative, hsegments, hwalk, hat, hempty, hup⟩ := exists_of_newFile hnew
  have hat' : t.at? names.reverse.reverse = some (.directory entries) := by
    rwa [List.reverse_reverse]
  have hnul : p.octets.contains 0 = false := by
    by_contra hnul
    rw [find, resolve, if_pos (by simpa using hnul)] at hfind
    cases hfind
  have hmissing {above : List FileName} (hstep : t.step names.reverse name = .ok above) :
      t.at? above.reverse = none := by
    rw [find_eq_of_resolve (resolve_of_step hnul hrelative hsegments hwalk hstep)] at hfind
    split at hfind
    · cases hfind
    · assumption
  have hstay : ¬ (name = [] ∨ name = [Path.dot]) := fun hstay => by
    have hstep : t.step names.reverse name = .ok names.reverse := by
      rw [step.eq_def, hat']
      exact if_pos hstay
    rw [hmissing hstep] at hat'
    cases hat'
  have hnone : t.at? (names ++ [name]) = none := by
    rw [at?_concat hat]
    cases hin : entries.lookup name with
    | none => rfl
    | some node =>
      have hnone := hmissing (step_name hat' hstay hup (hin ▸ rfl))
      rwa [List.reverse_cons, List.reverse_reverse, at?_concat hat, hin] at hnone
  have hwithin : t.Within (set (some (.file octets)) (names ++ [name]) t) :=
    within_set _ fun entries hdirectory => by rw [hnone] at hdirectory; cases hdirectory
  have hset := at?_set (.file octets) (names ++ [name]) t
  obtain ⟨entries', hentries, -⟩ := hwithin _ _ hat'
  have hin : (entries'.lookup name).isSome := by
    rw [List.reverse_reverse] at hentries
    rw [← at?_concat hentries, hset]
    rfl
  have hresolve := resolve_of_step hnul hrelative hsegments (hwithin.foldlM_step hwalk)
    (step_name hentries hstay hup hin)
  rw [List.reverse_cons, List.reverse_reverse] at hresolve
  exact read_of_resolve hresolve hset

/-- A file that was written is read as what was written. -/
theorem read_of_write {p : Path} {octets : List UInt8} (h : t.write p octets = .ok t') :
    t'.read p = .ok octets := by
  rw [write] at h
  split at h
  case h_5 old hfind =>
    obtain ⟨names, hresolve, hat⟩ := exists_resolve_of_find hfind
    rw [hresolve] at h
    cases h
    have hwithin : t.Within (set (some (.file octets)) names t) :=
      within_set _ fun entries hdirectory => by rw [hat] at hdirectory; cases hdirectory
    exact read_of_resolve (hwithin.resolve hresolve) (at?_set _ _ _)
  case h_6 hfind =>
    cases hnew : t.newFile p with
    | error e => rw [hnew] at h; cases h
    | ok new =>
      rw [hnew] at h
      cases h
      exact read_set_of_newFile hfind hnew octets
  all_goals cases h

theorem readText_of_read {p : Path} {text : String} (h : t.read p = .ok (Text.Utf8.octets text)) :
    t.readText p = .ok text := by
  rw [readText, h]
  dsimp only [bind, Except.bind]
  rw [Text.Utf8.text?_octets]

end Conformance.FileTree
