import Conformance.Engine.Process
import Conformance.Proofs.Engine.Deadline
import Conformance.Proofs.Engine.ResultLine

/-!
# The outcome comes through whatever surrounds it

A process that exits by itself is judged by its output alone, neither by its exit status nor by what
a case has printed before the script's own result line. The output need not be text: it is read
apart at the line feeds on the two sides of that line.
-/

namespace Conformance

/-! ### What is concluded from the output -/

namespace ResultLine

open Text.Utf8

theorem lines_lossy_append {before : List UInt8} (h : Ended before) (rest : List UInt8) :
    Text.lines (lossy (before ++ rest)) = Text.lines (lossy before) ++ Text.lines (lossy rest) := by
  rcases h with rfl | ⟨u, rfl⟩
  · rfl
  · rw [List.append_assoc, List.singleton_append, lossy_append_lf, lossy_append_lf,
      Text.lines_append_lf]
    rfl

/-- The line of an outcome, ended as lines are, is one line of an output. -/
theorem lines_lossy_line (o : Outcome) {ending : List UInt8}
    (hending : ending = [0x0a] ∨ ending = [0x0d, 0x0a]) (rest : List UInt8) :
    Text.lines (lossy (octets (line o) ++ (ending ++ rest)))
      = (line o).toList :: Text.lines (lossy rest) := by
  have hlf : '\n' ∉ (line o).toList := fun h => absurd (plain_line o _ h) (by decide)
  have hcr : (line o).toList.getLast? ≠ some '\r' := fun h =>
    absurd (plain_line o _ (List.mem_of_getLast? h)) (by decide)
  rw [octets, lossy_encode_append]
  rcases hending with rfl | rfl
  · have hrest : lossy ([0x0a] ++ rest) = '\n' :: lossy rest := lossy_append_lf [] rest
    rw [hrest, Text.lines_line hlf hcr]
  · have hrest : lossy ([0x0d, 0x0a] ++ rest) = '\r' :: '\n' :: lossy rest :=
      lossy_append_lf [0x0d] rest
    rw [hrest, Text.lines_line_crlf hlf]

/-- An outcome is parsed from its line, whatever comes before and if no result line comes after. -/
theorem parse_line (complaint : String → String) {before : List UInt8} (hbefore : Ended before)
    (o : Outcome) {ending : List UInt8} (hending : ending = [0x0a] ∨ ending = [0x0d, 0x0a])
    {after : List UInt8} (hafter : ∀ line ∈ Text.lines (lossy after), ¬ marker.toList <+: line) :
    parse complaint (lossy (before ++ (octets (line o) ++ (ending ++ after)))) = some (.ok o) := by
  have hlines := lines_lossy_append hbefore (octets (line o) ++ (ending ++ after))
  rw [lines_lossy_line o hending, toList_line] at hlines
  have hpayload : Text.dropEndWhile (· == '\r') (o.toJson.render .compact 0)
      = o.toJson.render .compact 0 := by
    refine Text.dropEndWhile_eq_self fun c hc => beq_eq_false_iff_ne.2 ?_
    rintro rfl
    exact absurd (Json.plain_render 0 o.toJson _ (List.mem_of_getLast? hc)) (by decide)
  rw [parse, lastPayload?_of_lines hlines hafter, hpayload, Option.map_some, outcome?_render]

end ResultLine

namespace ProcessHost

open Text.Utf8

variable {σ : Type} {host : ProcessHost σ} {e : EngineCommand} {timeout : Duration} {p : Program}
  {memory : σ} {child : Child} {output errors : List UInt8} {status : ExitStatus}

theorem answer_reply_of_exit
    (hlaunch : (host.launch e (HostScript.script p) timeout memory).1
      = .started child output errors)
    (hpaced : child.Paced) (hexit : child.ExitsInTime timeout status) :
    (host.reply e timeout p memory).1.answer
      = Launch.conclude host.complaint status output errors := by
  obtain ⟨contacts, hwatch⟩ := hexit.watch?_eq hpaced
  show Launch.answer host.complaint e.command timeout
    (host.launch e (HostScript.script p) timeout memory).1 = _
  rw [hlaunch, Launch.answer, hwatch]

/-- A process that exits in time answers with the outcome of its own result line, whatever octets it
printed before and if no result line comes after. Without a result line it has no result, and if the
last one cannot be read then no earlier one is taken for it: the decoder's complaint about it is
reported. -/
theorem answer_by_last_line
    (hlaunch : (host.launch e (HostScript.script p) timeout memory).1
      = .started child output errors)
    (hpaced : child.Paced) (hexit : child.ExitsInTime timeout status) :
    let answer := (host.reply e timeout p memory).1.answer
    let lines := Text.lines (lossy output)
    let marked (line : List Char) := ResultLine.marker.toList <+: line
    (∀ (before ending after : List UInt8) (o : Outcome),
        output = before ++ octets (ResultLine.line o) ++ ending ++ after → Ended before →
        ending = [0x0a] ∨ ending = [0x0d, 0x0a] →
        (∀ line ∈ Text.lines (lossy after), ¬ marked line) → answer = .outcome o) ∧
      ((∀ line ∈ lines, ¬ marked line) →
        answer = .fault (.noResult status.describe
          (String.ofList (Launch.excerpt (lossy errors))))) ∧
      ∀ (earlier later : List (List Char)) (payload : List Char),
        lines = earlier ++ (ResultLine.marker.toList ++ payload) :: later →
        (∀ line ∈ later, ¬ marked line) →
        ResultLine.outcome? (Text.dropEndWhile (· == '\r') payload) = none →
          answer = .fault (.protocol (ResultLine.detail host.complaint
            (String.ofList (Text.dropEndWhile (· == '\r') payload)))) := by
  intro answer lines marked
  have hanswer : answer = Launch.conclude host.complaint status output errors :=
    answer_reply_of_exit hlaunch hpaced hexit
  rw [hanswer, Launch.conclude]
  refine ⟨?_, ?_, ?_⟩
  · rintro before ending after o rfl hbefore hending hafter
    rw [List.append_assoc, List.append_assoc, ResultLine.parse_line _ hbefore o hending hafter]
  · intro hnone
    rw [ResultLine.parse_eq_none _ hnone]
  · intro earlier later payload hlines hlater hpayload
    rw [ResultLine.parse, ResultLine.lastPayload?_of_lines hlines hlater, Option.map_some, hpayload]

/-- A process that ends after seven milliseconds, with an exit code that does not matter. -/
def brief : Child := .ofEnding (some (.ofMilliseconds 7, .code 3))

theorem paced_brief : brief.Paced := fun k => by
  show k * 5000000 + 5000000 ≤ (k + 1) * 5000000
  omega

theorem exitsInTime_brief : brief.ExitsInTime (.ofMilliseconds 1000) (.code 3) := by
  refine ⟨2, rfl, fun j hj => ?_⟩
  obtain rfl | rfl : j = 0 ∨ j = 1 := by omega
  · exact ⟨rfl, by decide⟩
  · exact ⟨rfl, by decide⟩

/-- An octet that is no text, and a result line that a case has printed. -/
def disturbance : List UInt8 :=
  0xff :: 0x0a :: octets (ResultLine.line (.reported .fail "not so")) ++ [0x0a]

/-- The process prints its result line between a disturbance and something else. -/
def disturbed : ProcessHost Unit where
  launch _ _ _ memory :=
    (.started brief (disturbance ++ octets (ResultLine.line .completed) ++ [0x0d, 0x0a] ++
      octets "done") [], memory)
  complaint _ := "expected value at line 1 column 1"

theorem answer_by_last_line_disturbed :
    (disturbed.reply ⟨"js", []⟩ (.ofMilliseconds 1000) ⟨"a", "", false⟩ ()).1.answer
      = .outcome .completed := by
  have hlaunch : (disturbed.launch ⟨"js", []⟩ (HostScript.script ⟨"a", "", false⟩)
      (.ofMilliseconds 1000) ()).1 = .started brief (disturbance ++
        octets (ResultLine.line .completed) ++ [0x0d, 0x0a] ++ octets "done") [] := rfl
  obtain ⟨hline, -, -⟩ := answer_by_last_line hlaunch paced_brief exitsInTime_brief
  exact hline disturbance [0x0d, 0x0a] (octets "done") .completed rfl (.inr ⟨_, rfl⟩) (.inr rfl)
    (by decide)

end ProcessHost

end Conformance
