import Conformance.Execution
import Conformance.Proofs.Discovery.Scan
import Conformance.Proofs.Pool.Finish
import Conformance.Proofs.Pool.Scheduled

/-!
# The runs of a command line

In which order feeder, workers and collector move is not said by the command line, nor is it when
somebody cancels. `RunArguments.Run` is any run that it may lead to once it is prepared. Carrying it
out leads to one of them, in which engine processes may have changed files if there were any.
-/

namespace Conformance

theorem exists_of_bind_eq_ok {ε α β : Type} {x : Except ε α} {f : α → Except ε β} {b : β}
    (h : x >>= f = .ok b) : ∃ a, x = .ok a ∧ f a = .ok b := by
  cases x with
  | error e => cases h
  | ok a => exact ⟨a, rfl, h⟩

theorem Finding.exitCode_ofBool (well : Bool) : (ofBool well).exitCode = if well then 0 else 1 := by
  cases well <;> rfl

namespace CaseRoot

theorem map_ok_of_beforeFault {items : List (Except Abort Discovered)} {found : List Discovered}
    (h : beforeFault items = (found, none)) : items = found.map .ok := by
  induction items generalizing found with
  | nil =>
    cases h
    rfl
  | cons item items ih =>
    cases item with
    | error a => cases h
    | ok d =>
      obtain ⟨rfl, hfault⟩ := Prod.mk.inj h
      rw [List.map_cons, ← ih (Prod.ext rfl hfault)]

/-- A scan that comes to its end yields what it finds and no fault. -/
theorem scan_eq_ok_iff {files : FileTree} {r : CaseRoot} {found : List Discovered} :
    r.scan files = .ok found ↔ r.items files = found.map .ok := by
  constructor
  · intro h
    rw [scan] at h
    split at h
    · next hbefore =>
      cases h
      exact map_ok_of_beforeFault hbefore
    · cases h
  · intro h
    rw [scan, h, beforeFault_map_ok]

/-- What a scan finds has distinct paths. -/
theorem distinct_of_items {files : FileTree} {r : CaseRoot} {found : List Discovered}
    (hproper : files.Proper) (h : r.items files = found.map .ok) :
    Path.Distinct (found.map Discovered.path) := by
  cases hfind : files.find r.path with
  | error e =>
    rw [items, hfind] at h
    cases found <;> cases h
  | ok t =>
    obtain ⟨names, _, hat⟩ := FileTree.exists_resolve_of_find hfind
    rw [items_of_find hfind] at h
    have hincreasing := pairwise_of_map_ok h (pairwise_itemsIn r (hproper.of_at? hat))
    exact List.pairwise_map.2 (hincreasing.imp Path.Before.not_same)

end CaseRoot

namespace RunArguments

/-- A run of the arguments: what was prepared for it, the moves that were made, and the state in
which all have stopped. -/
structure Run (a : RunArguments) (cores : Nat) (files : FileTree) where
  prepared : Preparation
  moves : List Pool.Move
  last : Pool.State
  prepare_eq : a.prepare cores files = .ok prepared
  follow_eq : (Pool.State.start prepared.options (prepared.root.items files) false).follow
    prepared.options moves = some last
  finished_eq : last.finished = true

variable {a : RunArguments} {cores : Nat} {files : FileTree}

/-- What happened in the run. -/
def Run.journal (r : a.Run cores files) : List Pool.Note :=
  (Pool.State.start r.prepared.options (r.prepared.root.items files) false).journal
    r.prepared.options r.moves

theorem Run.settled (r : a.Run cores files) :
    r.last.Settled r.prepared.options (r.prepared.root.items files) r.journal :=
  Pool.State.settled_of_follow r.follow_eq r.finished_eq

/-- Nothing is handed to the engine if no case is accepted. -/
theorem Run.history_eq_nil (r : a.Run cores files)
    (h : ∀ c, .case c ∉ r.prepared.options.scope (r.prepared.root.items files)) :
    r.last.history = [] := by
  have hsettled := r.settled
  have hhanded : r.journal.filterMap Pool.Note.handed? = [] := by
    rw [List.eq_nil_iff_forall_not_mem]
    intro c hc
    exact h c (hsettled.handed_subperm.subset (List.mem_map_of_mem hc))
  rw [hsettled.history, hhanded]
  rfl

/-- What is prepared is carried out as one of the runs. Files are left as they were if no engine
process was started. -/
theorem exists_run {p : Preparation} (h : a.prepare cores files = .ok p)
    (host : ProcessHost FileTree) : ∃ (r : a.Run cores files) (left : FileTree),
      r.prepared = p ∧ a.execute cores host files = a.conclude r.last left ∧
        (r.last.history = [] → left = files) := by
  obtain ⟨moves, hfollow, hfinished, hleft⟩ := Pool.State.exists_follow_run p.options
    (host.reply p.engine p.options.budget) files (p.root.items files) false
  refine ⟨⟨p, moves, _, h, hfollow, hfinished⟩, _, rfl, ?_, hleft⟩
  rw [execute, h]

theorem prepare_eq_ok {p : Preparation} (h : a.prepare cores files = .ok p) :
    ∃ settings root engine, Settings.discover files a.config? = .ok settings ∧
      CaseRoot.ofPath files a.root = .ok root ∧ root.exclude settings.exclude = .ok p.root ∧
      (settings.override a.overrides).engineCommand = .ok engine ∧
      p.options.filter? = a.filter? := by
  obtain ⟨settings, hsettings, h⟩ := exists_of_bind_eq_ok h
  obtain ⟨_, _, h⟩ := exists_of_bind_eq_ok h
  obtain ⟨root, hroot, h⟩ := exists_of_bind_eq_ok h
  obtain ⟨excluding, hexclude, h⟩ := exists_of_bind_eq_ok h
  obtain ⟨engine, hengine, h⟩ := exists_of_bind_eq_ok h
  cases h
  exact ⟨settings, root, engine, hsettings, hroot, hexclude, hengine, rfl⟩

/-- A run with a summary is over when it is stored and printed, or cannot be stored. -/
theorem conclude_of_outcome {t : Pool.State} {s : Summary} (h : t.outcome = .ok s)
    (left : FileTree) :
    (∃ files, a.stored s left = .ok files ∧
        a.conclude t left = ⟨.ok (.ofBool s.success), a.printed s, files, t.history⟩) ∨
      ∃ path e, a.report? = some path ∧
        a.conclude t left = ⟨.error (.report path e), "", left, t.history⟩ := by
  rw [conclude, h]
  dsimp only
  cases hstored : a.stored s left with
  | ok files => exact .inl ⟨files, rfl, rfl⟩
  | error abort =>
    right
    rw [stored] at hstored
    cases hreport : a.report? with
    | none => rw [hreport] at hstored; cases hstored
    | some path =>
      rw [hreport] at hstored
      dsimp only at hstored
      cases hwrite : left.write path (Text.Utf8.octets s.store) with
      | ok files => rw [hwrite] at hstored; cases hstored
      | error e =>
        rw [hwrite] at hstored
        cases hstored
        exact ⟨path, e, rfl, rfl⟩

end RunArguments

end Conformance
