import Conformance.Execution
import Conformance.Proofs.FileTree
import Conformance.Proofs.Json.RoundTrip
import Conformance.Proofs.Json.Shape
import Conformance.Proofs.Text.Table
import Conformance.Proofs.Text.Utf8

/-!
# A stored report is the summary it was made of

The parts of a summary are restored one by one from the records that they are stored as: counts,
reasons, entries, and the table of sections, whose keys are stored in order. A count has to be a
word, because none above is read, and this is all that a summary is asked for. What is restored
decides the summary, so two summaries are never stored alike, and a report read from the file in
which it was stored is the summary of the run.
-/

namespace Conformance

namespace Reason

/-- The time budget in it is a word. -/
def InWords : Reason → Prop
  | .timeout milliseconds => milliseconds < Word.size
  | _ => True

-- apart from its record, because a count in place of `field` would be compared by computation
theorem ofJson?_of_timeout {outer milliseconds : Nat} {value rest field : Json}
    (htag : value.tagged? "type" outer = some ("timeout", rest))
    (hfields : rest.fields? ["timeout_ms"] = some [some field])
    (h : field.count? = some milliseconds) :
    ofJson? outer value = some (.timeout milliseconds) := by
  rw [ofJson?, htag]
  simp only [Option.bind_eq_bind, Option.bind_some, hfields, Json.required?, h]
  rfl

theorem ofJson?_toJson {r : Reason} (h : r.InWords) {outer : Nat}
    (houter : outer + 1 < Json.depthLimit) : ofJson? outer r.toJson = some r := by
  cases r with
  | malformed detail | engineFault detail =>
    have hfields : (Json.record [("detail", .text detail)]).fields? ["detail"]
        = some [some (.text detail)] := Json.fields?_record rfl (by decide)
    rw [toJson, ofJson?, Json.tagged?_record (by simp) (by simp) houter]
    simp only [Option.bind_eq_bind, Option.bind_some, hfields]
    rfl
  | assertionFailed primitive message =>
    have hfields : (Json.record [("primitive", .text primitive),
          ("message", .text message)]).fields? ["primitive", "message"]
        = some [some (.text primitive), some (.text message)] :=
      Json.fields?_record rfl (by decide)
    rw [toJson, ofJson?, Json.tagged?_record (by simp) (by simp) houter]
    simp only [Option.bind_eq_bind, Option.bind_some, hfields]
    rfl
  | unexpectedError kind message expected =>
    have hfields : (Json.record [("kind", .text kind), ("message", .text message),
          ("expected", (expected.map Json.text).getD .null)]).fields?
            ["kind", "message", "expected"]
        = some [some (.text kind), some (.text message),
            some ((expected.map Json.text).getD .null)] := Json.fields?_record rfl (by decide)
    have hexpected : ((expected.map Json.text).getD .null).Scalar := by
      cases expected with
      | none => exact Json.scalar_null
      | some expected => exact Json.scalar_text expected
    rw [toJson, ofJson?, Json.tagged?_record (by simp) (by simp [hexpected]) houter]
    simp only [Option.bind_eq_bind, Option.bind_some, hfields]
    cases expected with
    | none => rfl
    | some expected => rfl
  | expectedErrorMissing expected =>
    have hfields : (Json.record [("expected", .text expected)]).fields? ["expected"]
        = some [some (.text expected)] := Json.fields?_record rfl (by decide)
    rw [toJson, ofJson?, Json.tagged?_record (by simp) (by simp) houter]
    simp only [Option.bind_eq_bind, Option.bind_some, hfields]
    rfl
  | timeout milliseconds =>
    have hfields : (Json.record [("timeout_ms", .count milliseconds)]).fields? ["timeout_ms"]
        = some [some (.count milliseconds)] := Json.fields?_record rfl (by decide)
    exact ofJson?_of_timeout (Json.tagged?_record (by simp) (by simp [Json.scalar_count h]) houter)
      hfields (Json.count?_count h)
  | notExecuted =>
    rw [toJson, ofJson?, Json.tagged?_record (by simp) (by simp) houter]
    rfl

end Reason

namespace Verdict

theorem ofName?_name (v : Verdict) : ofName? v.name = some v := by
  cases v <;> rfl

end Verdict

namespace Counts

/-- Every count is a word. -/
structure InWords (c : Counts) : Prop where
  pass : c.pass < Word.size
  fail : c.fail < Word.size
  crash : c.crash < Word.size

theorem ofJson?_of_fields {c : Counts} {value pass fail crash : Json}
    (hfields : value.fields? ["pass", "fail", "crash"] = some [some pass, some fail, some crash])
    (hpass : pass.count? = some c.pass) (hfail : fail.count? = some c.fail)
    (hcrash : crash.count? = some c.crash) : ofJson? value = some c := by
  rw [ofJson?, hfields]
  simp only [Option.bind_eq_bind, Option.bind_some, Json.required?, hpass, hfail, hcrash]
  rfl

theorem ofJson?_toJson {c : Counts} (h : c.InWords) : ofJson? c.toJson = some c :=
  ofJson?_of_fields (Json.fields?_record rfl (by decide)) (Json.count?_count h.pass)
    (Json.count?_count h.fail) (Json.count?_count h.crash)

end Counts

namespace Failure

/-- The time budget in its reason is a word. -/
def InWords (f : Failure) : Prop := ∀ r ∈ f.reason?, r.InWords

theorem ofJson?_toJson {f : Failure} (h : f.InWords) : ofJson? f.toJson = some f := by
  have hfields : f.toJson.fields? ["id", "path", "section", "outcome", "message", "reason"]
      = some [some (.text f.id), some (.text f.path), some (.text f.sectionKey),
          some (.text f.verdict.name), some (.text f.message),
          some ((f.reason?.map Reason.toJson).getD .null)] :=
    Json.fields?_record rfl (by decide)
  have hreason : Json.absent? (Reason.ofJson? 3) (some ((f.reason?.map Reason.toJson).getD .null))
      = some f.reason? :=
    Json.optional?_getD_map (fun r => by cases r <;> exact Json.noConfusion) f.reason?
      fun r hr => Reason.ofJson?_toJson (h r hr) (by decide)
  have hchoice : (Json.text f.verdict.name).choice? = some f.verdict.name := rfl
  rw [ofJson?, hfields]
  simp only [Option.bind_eq_bind, Option.bind_some, hreason, hchoice, Verdict.ofName?_name]
  rfl

end Failure

namespace Summary

/-- Every number in it is a word. -/
structure InWords (s : Summary) : Prop where
  total : s.total < Word.size
  passed : s.passed < Word.size
  failed : s.failed < Word.size
  crashed : s.crashed < Word.size
  sections : ∀ e ∈ s.sections.entries, e.2.InWords
  failures : ∀ f ∈ s.failures, f.InWords

theorem sectionsOfJson?_record {sections : Table Counts}
    (h : ∀ e ∈ sections.entries, e.2.InWords) :
    sectionsOfJson? (.record (sections.entries.map fun e => (e.1, e.2.toJson)))
      = some sections := by
  have hentries : (sections.entries.map fun e => (e.1, e.2.toJson)).mapM
      (fun e => (Counts.ofJson? e.2).map (e.1, ·)) = some sections.entries := by
    refine mapM_map_eq_some fun e he => ?_
    rw [Counts.ofJson?_toJson (h e he), Option.map_some]
  rw [sectionsOfJson?, Json.members_record]
  simp only [Option.bind_eq_bind, Option.bind_some]
  rw [hentries, Option.bind_some, Table.ofList_entries]
  rfl

theorem ofJson?_of_fields {s : Summary}
    {value total passed failed crashed sections failures notRun : Json}
    (hfields : value.fields?
        ["total", "passed", "failed", "crashed", "sections", "failures", "not_run"]
      = some [some total, some passed, some failed, some crashed, some sections, some failures,
          some notRun])
    (htotal : total.count? = some s.total) (hpassed : passed.count? = some s.passed)
    (hfailed : failed.count? = some s.failed) (hcrashed : crashed.count? = some s.crashed)
    (hsections : sectionsOfJson? sections = some s.sections)
    (hfailures : Json.list? Failure.ofJson? failures = some s.failures)
    (hnotRun : Json.list? Json.text? notRun = some s.notRun) : ofJson? value = some s := by
  rw [ofJson?]
  simp only [Option.bind_eq_bind, Option.bind_some, hfields, Json.required?, htotal, hpassed,
    hfailed, hcrashed, hsections, hfailures, hnotRun]
  rfl

theorem ofJson?_toJson {s : Summary} (h : s.InWords) : ofJson? s.toJson = some s :=
  ofJson?_of_fields (Json.fields?_record rfl (by decide)) (Json.count?_count h.total)
    (Json.count?_count h.passed) (Json.count?_count h.failed) (Json.count?_count h.crashed)
    (sectionsOfJson?_record h.sections)
    (Json.list?_map fun f hf => Failure.ofJson?_toJson (h.failures f hf))
    (Json.list?_map fun _ _ => rfl)

theorem restore?_store {s : Summary} (h : s.InWords) : restore? s.store = some s := by
  rw [restore?, store, Json.pretty, String.toList_ofList, Json.read_render, Option.bind_some,
    ofJson?_toJson h]

/-- A report read from where it was stored is the summary that was stored. -/
theorem load_of_stored {s : Summary} (h : s.InWords) {a : RunArguments} {path : Path}
    {files files' : FileTree} (hpath : a.report? = some path)
    (hstored : a.stored s files = .ok files') : DiffArguments.load files' path = .ok s := by
  have hread : files'.read path = .ok (Text.Utf8.octets s.store) := by
    rw [RunArguments.stored, hpath] at hstored
    dsimp only at hstored
    cases hwrite : files.write path (Text.Utf8.octets s.store) with
    | error e => rw [hwrite] at hstored; cases hstored
    | ok written =>
      rw [hwrite] at hstored
      cases hstored
      exact FileTree.read_of_write hwrite
  rw [DiffArguments.load, FileTree.readText_of_read hread]
  dsimp only
  rw [restore?_store h]

/-- What is stored of a summary is read as that summary, is stored of no other one, and can be
loaded from the file it was written to. -/
theorem stored_faithfully {s : Summary} (h : s.InWords) :
    restore? s.store = some s ∧
      (∀ s' : Summary, s'.InWords → s'.store = s.store → s' = s) ∧
      ∀ (a : RunArguments) (path : Path) (files files' : FileTree), a.report? = some path →
        a.stored s files = .ok files' → DiffArguments.load files' path = .ok s := by
  refine ⟨restore?_store h, fun s' h' hstore => ?_,
    fun a path files files' hpath hstored => load_of_stored h hpath hstored⟩
  have hrestore := restore?_store h'
  rw [hstore, restore?_store h] at hrestore
  exact (Option.some.inj hrestore).symm

/-- A case that ran into its deadline, and one that was left out. -/
def overrun : Summary where
  total := 1
  passed := 0
  failed := 0
  crashed := 1
  sections := .ofList [("8.1", ⟨0, 0, 1⟩)]
  failures := [.ofResult (.make "S8.1" (.ofText "a.js") "8.1" .crash (some (.timeout 5000)) ⟨0⟩)]
  notRun := ["S8.2"]

theorem inWords_overrun : overrun.InWords where
  total := by decide
  passed := by decide
  failed := by decide
  crashed := by decide
  sections := by
    rintro e he
    cases List.mem_singleton.1 he
    exact ⟨by decide, by decide, by decide⟩
  failures := by
    rintro f hf r hr
    cases List.mem_singleton.1 hf
    cases hr
    show 5000 < Word.size
    decide

/-- A run that stores its report. -/
def reporting : RunArguments :=
  ⟨.ofText "cases", none, none, ⟨none, none, none, [], none⟩, false, some (.ofText "report.json")⟩

theorem stored_faithfully_overrun :
    let files : FileTree :=
      .directory [(Text.Utf8.octets "report.json", .file (Text.Utf8.octets overrun.store))]
    reporting.stored overrun .empty = .ok files ∧
      DiffArguments.load files (.ofText "report.json") = .ok overrun := by
  have hstored : reporting.stored overrun .empty
      = .ok (.directory
          [(Text.Utf8.octets "report.json", .file (Text.Utf8.octets overrun.store))]) := by
    rw [RunArguments.stored]
    generalize Text.Utf8.octets overrun.store = octets
    rfl
  obtain ⟨-, -, hload⟩ := stored_faithfully inWords_overrun
  exact ⟨hstored, hload reporting _ _ _ rfl hstored⟩

end Summary

end Conformance
