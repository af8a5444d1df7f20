import Conformance.Proofs.Execution.Runs
import Conformance.Proofs.Pool.Accounting
import Conformance.Proofs.Pool.Success

/-!
# A listing shows what a run takes

A listing and a run with the same root, settings and filter look for cases in the same place and
accept the same items. So the lines of a listing are those of the items that the run takes up, and a
malformed file that is listed keeps the run from succeeding. The run then ends with the exit code of
failures like the listing, unless it has to store its report and cannot.
-/

namespace Conformance

namespace ListArguments

variable {l : ListArguments} {a : RunArguments} {cores : Nat} {files : FileTree}
  {root : CaseRoot} {p : Preparation}

theorem caseRoot_eq_ok (h : l.caseRoot files = .ok root) :
    ∃ settings root', Settings.discover files l.config? = .ok settings ∧
      CaseRoot.ofPath files l.root = .ok root' ∧ root'.exclude settings.exclude = .ok root := by
  obtain ⟨settings, hsettings, h⟩ := exists_of_bind_eq_ok h
  obtain ⟨_, _, h⟩ := exists_of_bind_eq_ok h
  obtain ⟨root', hroot, h⟩ := exists_of_bind_eq_ok h
  exact ⟨settings, root', hsettings, hroot, h⟩

/-- Both look for cases in the same place. -/
theorem root_eq (hroot : l.root = a.root) (hconfig : l.config? = a.config?)
    (hlist : l.caseRoot files = .ok root) (hrun : a.prepare cores files = .ok p) :
    p.root = root := by
  obtain ⟨settings, root₁, hsettings, hfound, hexclude⟩ := caseRoot_eq_ok hlist
  obtain ⟨settings', root₂, _, hsettings', hfound', hexclude', _, _⟩ :=
    RunArguments.prepare_eq_ok hrun
  rw [hconfig, hsettings'] at hsettings
  rw [hroot, hfound'] at hfound
  cases hsettings
  cases hfound
  exact Except.ok.inj (hexclude'.symm.trans hexclude)

/-- Both accept the same items. -/
theorem accepts_eq (hfilter : l.filter? = a.filter?) (hrun : a.prepare cores files = .ok p) :
    l.accepts = p.options.accepts := by
  obtain ⟨_, _, _, _, _, _, _, hoptions⟩ := RunArguments.prepare_eq_ok hrun
  funext d
  cases h : a.filter? with
  | none =>
    simp only [accepts, RunOptions.accepts, RunOptions.acceptsSection, hoptions, hfilter, h]
  | some start =>
    simp only [accepts, RunOptions.accepts, RunOptions.acceptsSection, hoptions, hfilter, h]

theorem execute_eq {found : List Discovered} (hlist : l.caseRoot files = .ok root)
    (hitems : root.items files = found.map .ok) :
    l.execute files = ⟨.ok (.ofBool !((found.filter l.accepts).any isMalformed)),
      String.join ((found.filter l.accepts).map fun d => line d ++ "\n"), files, []⟩ := by
  rw [execute, hlist]
  dsimp only
  rw [conclude, hitems, CaseRoot.beforeFault_map_ok]

theorem any_isMalformed_iff {ds : List Discovered} :
    ds.any isMalformed = true ↔ ∃ m, .malformed m ∈ ds := by
  rw [List.any_eq_true]
  constructor
  · rintro ⟨_ | m, hd, hm⟩
    · cases hm
    · exact ⟨m, hd⟩
  · rintro ⟨m, hm⟩
    exact ⟨_, hm, rfl⟩

end ListArguments

namespace RunArguments.Run

variable {a : RunArguments} {cores : Nat} {files : FileTree} {found : List Discovered}

theorem distinct_accepted (r : a.Run cores files) (hproper : files.Proper)
    (hitems : r.prepared.root.items files = found.map .ok) :
    Path.Distinct ((found.filter r.prepared.options.accepts).map Discovered.path) :=
  (CaseRoot.distinct_of_items hproper hitems).sublist
    (List.filter_sublist.map Discovered.path)

/-- In a run that was not cancelled every accepted item has its result. -/
theorem accounts_uncancelled (r : a.Run cores files) (hproper : files.Proper)
    (hitems : r.prepared.root.items files = found.map .ok) (hquiet : r.last.cancelled = false) :
    ∃ s, r.last.outcome = .ok s ∧ s.total = (found.filter r.prepared.options.accepts).length ∧
      ∀ d ∈ found.filter r.prepared.options.accepts,
        r.last.tally.recorded.countP (·.Same d.path) = 1 := by
  have hnodup : ((found.filter r.prepared.options.accepts).map (·.path.parts)).Nodup := by
    have hdistinct := r.distinct_accepted hproper hitems
    rwa [Path.distinct_iff_nodup, List.map_map] at hdistinct
  have hsettled := r.settled
  rw [hitems] at hsettled
  have hfault := Pool.firstFault?_map_ok found
  have houtcome := hsettled.outcome hfault
  have haccounts := hsettled.accounts houtcome
  have hpaths := haccounts.paths
  rw [hsettled.pending_eq_nil hquiet, ← RunOptions.scope_eq_accepted _ hfault, Pool.scope_map_ok,
    List.map_nil, List.nil_append, List.dedup_eq_self.2 hnodup] at hpaths
  have hlength := hpaths.length_eq
  rw [List.length_map, List.length_map] at hlength
  refine ⟨_, houtcome, haccounts.total.trans hlength, fun d hd => ?_⟩
  calc r.last.tally.recorded.countP (·.Same d.path)
      = (r.last.tally.recorded.map Path.parts).count d.path.parts := by
        rw [List.count, List.countP_map]
        refine List.countP_congr fun p _ => ?_
        rw [decide_eq_true_iff, Function.comp_apply, beq_iff_eq, Path.Same]
    _ = ((found.filter r.prepared.options.accepts).map (·.path.parts)).count d.path.parts :=
        hpaths.count_eq _
    _ = 1 := List.count_eq_one_of_mem hnodup (List.mem_map_of_mem hd)

/-- A run that accepts a malformed file is no success. -/
theorem not_success_of_malformed (r : a.Run cores files) (hproper : files.Proper)
    (hitems : r.prepared.root.items files = found.map .ok) {m : MalformedCase}
    (hm : .malformed m ∈ found.filter r.prepared.options.accepts) :
    ∃ s, r.last.outcome = .ok s ∧ s.success = false := by
  have hsettled := r.settled
  rw [hitems] at hsettled
  refine ⟨_, hsettled.outcome (Pool.firstFault?_map_ok found), Bool.eq_false_iff.2 fun hs => ?_⟩
  have hdistinct := r.distinct_accepted hproper hitems
  rw [hsettled.success_iff (by rwa [Pool.scope_map_ok]), Pool.scope_map_ok] at hs
  obtain ⟨c, hc⟩ := hs.cases _ hm
  cases hc

end RunArguments.Run

namespace ListArguments

variable {l : ListArguments} {a : RunArguments} {cores : Nat} {files : FileTree}
  {root : CaseRoot} {found : List Discovered}

/-- Of a listing and a run with the same root, settings and filter, where no fault keeps the scan
from its end, the listing prints one line for each item that the run accepts, in order. A run that
is not cancelled counts so many results, one for each of the paths. The listing has the exit code of
failures exactly if an accepted file is malformed, and then so has the run, unless it was to store a
report and could not. -/
theorem shows_what_runs (hproper : files.Proper) (hroot : l.root = a.root)
    (hconfig : l.config? = a.config?) (hfilter : l.filter? = a.filter?)
    (hlist : l.caseRoot files = .ok root) (hscan : root.scan files = .ok found)
    (r : a.Run cores files) :
    let accepted := found.filter r.prepared.options.accepts
    r.prepared.root = root ∧
      (l.execute files).output = String.join (accepted.map fun d => line d ++ "\n") ∧
      (r.last.cancelled = false → ∃ s, r.last.outcome = .ok s ∧ s.total = accepted.length ∧
        ∀ d ∈ accepted, r.last.tally.recorded.countP (·.Same d.path) = 1) ∧
      ((l.execute files).exitCode = 1 ↔ ∃ m, .malformed m ∈ accepted) ∧
      ((l.execute files).exitCode = 1 → ∀ left : FileTree, (a.conclude r.last left).exitCode = 1 ∨
        ∃ path e, a.report? = some path ∧
          (a.conclude r.last left).outcome = .error (.report path e)) := by
  intro accepted
  have hitems := CaseRoot.scan_eq_ok_iff.1 hscan
  have hsame := root_eq hroot hconfig hlist r.prepare_eq
  have hruns : r.prepared.root.items files = found.map .ok := by rw [hsame, hitems]
  have hexecute := execute_eq hlist hitems
  rw [accepts_eq hfilter r.prepare_eq] at hexecute
  have hmalformed : (l.execute files).exitCode = 1 ↔ ∃ m, .malformed m ∈ accepted := by
    rw [← any_isMalformed_iff, hexecute, Execution.exitCode]
    dsimp only
    rw [Finding.exitCode_ofBool]
    cases accepted.any isMalformed <;> simp
  refine ⟨hsame, by rw [hexecute], fun hquiet => ?_, hmalformed, fun hcode left => ?_⟩
  · exact r.accounts_uncancelled hproper hruns hquiet
  · obtain ⟨m, hm⟩ := hmalformed.1 hcode
    obtain ⟨s, houtcome, hsuccess⟩ := r.not_success_of_malformed hproper hruns hm
    rcases RunArguments.conclude_of_outcome houtcome left with
      ⟨_, _, heq⟩ | ⟨path, e, hreport, heq⟩
    · rw [heq, hsuccess]
      exact .inl rfl
    · exact .inr ⟨path, e, hreport, by rw [heq]⟩

/-- A directory with a malformed file, and next to it an empty one. -/
def undecodable : FileTree :=
  .directory [(Text.Utf8.octets "cases", .directory [(Text.Utf8.octets "a.js", .file [0xff])]),
    (Text.Utf8.octets "out", .directory [])]

def listing : ListArguments := ⟨.ofText "cases", none, none⟩

/-- The same with an engine, and with a report if there is a path for it. -/
def running (report? : Option Path) : RunArguments :=
  ⟨.ofText "cases", none, none, ⟨none, none, some "engine", [], none⟩, false, report?⟩

theorem proper_undecodable : undecodable.Proper := by
  apply FileTree.proper_directory (by decide)
  intro e he
  rcases List.mem_pair.1 he with rfl | rfl
  · exact ⟨by decide, FileTree.proper_singleton (by decide) (FileTree.proper_of_leaf nofun)⟩
  · exact ⟨by decide, FileTree.proper_directory List.nodup_nil nofun⟩

theorem items_undecodable : (CaseRoot.mk (.ofText "cases") []).items undecodable
    = [.malformed ⟨.ofText "cases/a.js", "a", Case.LoadError.notText.message⟩].map .ok := by
  have hfind : undecodable.find (.ofText "cases")
      = .ok (.directory [(Text.Utf8.octets "a.js", .file [0xff])]) := rfl
  have hwalk : (FileTree.directory [(Text.Utf8.octets "a.js", .file [0xff])]).walk (.ofText "cases")
      = [(.ofText "cases", .directory [(Text.Utf8.octets "a.js", .file [0xff])]),
        (.ofText "cases/a.js", .file [0xff])] := by
    simp only [FileTree.walk, FileTree.walkEntries, FileTree.inNameOrder, List.mergeSort_singleton]
    rfl
  rw [CaseRoot.items_of_find (r := ⟨.ofText "cases", []⟩) hfind, CaseRoot.itemsIn, hwalk]
  rfl

theorem shows_what_runs_undecodable :
    ∃ r : (running none).Run 1 undecodable,
      (listing.execute undecodable).output
        = "MALFORMED\tcases/a.js\tfile is not valid UTF-8\n" ∧
      (listing.execute undecodable).exitCode = 1 ∧
      ((running none).conclude r.last undecodable).exitCode = 1 := by
  have hprepare : (running none).prepare 1 undecodable = .ok _ := rfl
  obtain ⟨r, -⟩ := RunArguments.exists_run hprepare ⟨fun _ _ _ files => (.notStarted "", files), id⟩
  obtain ⟨-, houtput, -, hmalformed, hexit⟩ := shows_what_runs (l := listing) proper_undecodable
    rfl rfl rfl rfl (CaseRoot.scan_eq_ok_iff.2 items_undecodable) r
  rw [← accepts_eq (l := listing) rfl r.prepare_eq] at houtput hmalformed
  have hone : (listing.execute undecodable).exitCode = 1 :=
    hmalformed.2 ⟨_, List.mem_singleton_self _⟩
  refine ⟨r, houtput.trans rfl, hone, (hexit hone undecodable).resolve_right ?_⟩
  rintro ⟨path, _, hreport, _⟩
  cases hreport

/-- Where the report is to be stored in place of a directory, the exit code of the listing is that
of failures and the one of the run is not. -/
theorem exit_codes_differ_undecodable :
    listing.root = (running (some (.ofText "out"))).root ∧
      listing.config? = (running (some (.ofText "out"))).config? ∧
      listing.filter? = (running (some (.ofText "out"))).filter? ∧
      (∃ root found, listing.caseRoot undecodable = .ok root ∧ root.scan undecodable = .ok found) ∧
      (∃ p, (running (some (.ofText "out"))).prepare 1 undecodable = .ok p) ∧
      (listing.execute undecodable).exitCode = 1 ∧
      ∀ host : ProcessHost FileTree,
        ((running (some (.ofText "out"))).execute 1 host undecodable).exitCode = 2 := by
  have hscan := CaseRoot.scan_eq_ok_iff.2 items_undecodable
  refine ⟨rfl, rfl, rfl, ⟨_, _, rfl, hscan⟩, ⟨_, rfl⟩, ?_, fun host => ?_⟩
  · rw [execute_eq rfl items_undecodable]
    rfl
  · have hprepare : (running (some (.ofText "out"))).prepare 1 undecodable = .ok _ := rfl
    obtain ⟨r, left, -, hexecute, hleft⟩ := RunArguments.exists_run hprepare host
    have hitems : r.prepared.root.items undecodable = _ :=
      root_eq (l := listing) rfl rfl rfl r.prepare_eq ▸ items_undecodable
    have hfilter : listing.accepts = r.prepared.options.accepts := accepts_eq rfl r.prepare_eq
    obtain ⟨s, houtcome, _⟩ := r.not_success_of_malformed proper_undecodable hitems
      (by rw [← hfilter]; exact List.mem_singleton_self _)
    have hhistory : r.last.history = [] := r.history_eq_nil fun c hc => by
      rw [hitems, Pool.scope_map_ok, ← hfilter] at hc
      cases List.mem_singleton.1 hc
    rw [hexecute, hleft hhistory, RunArguments.conclude, houtcome]
    have hstored : (running (some (.ofText "out"))).stored s undecodable
        = .error (.report (.ofText "out") .isDirectory) := rfl
    dsimp only
    rw [hstored]
    rfl

end ListArguments

end Conformance
