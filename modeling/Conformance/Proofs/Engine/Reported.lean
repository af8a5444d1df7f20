import Conformance.Engine.Process
import Conformance.Proofs.Engine.ResultLine
import Conformance.Proofs.Json.Units
import Conformance.Proofs.Verdict

/-!
# What becomes of a report

A case reports by calling a primitive with a message, which is any string of a script, and the
script prints it as the literal in a result line. If the string is the encoding of a text then the
line is read as a report with that text, and the case fails. If it is not, because a surrogate in it
has no partner, the line cannot be read at all: the case has reported and yet it crashes, as if its
engine were at fault.
-/

namespace Conformance.ResultLine

open Json.Literal (units decode? writeUnits)

/-- The record that a script reports with, up to the name of the primitive. -/
def reportOpening : String := "\x7b\"status\":\"reported\",\"primitive\":\""

/-- What stands between that name and the message. -/
def reportMiddle : String := "\",\"message\":"

/-- What a script prints after the marker when a case has called a primitive with a string. -/
def reportPayload (p : Primitive) (m : List UInt16) : List Char :=
  reportOpening.toList ++ p.name.toList ++ reportMiddle.toList ++ writeUnits m ++ ['\x7d']

/-- The result line of that script. -/
def reportLine (p : Primitive) (m : List UInt16) : List Char :=
  marker.toList ++ reportPayload p m

/-- The record of a report, whose message need not have a text. -/
def reportJson (p : Primitive) (message : Option String) : Json :=
  .object [(some "status", .text "reported"), (some "primitive", .text p.name),
    (some "message", .string message)]

/-! ### Reading the record -/

section

open Json

theorem members?_string (fuel : Nat) {inside inside' : List Char} {name t : Option String}
    (hname : ∀ rest, Literal.read (inside ++ rest) = some (name, rest))
    (ht : ∀ rest, Literal.read (inside' ++ rest) = some (t, rest)) (rest : List Char) :
    members? (fuel + 2) ('"' :: (inside ++ ':' :: '"' :: (inside' ++ rest)))
      = (moreMembers? (fuel + 1) rest).map
        fun (members, rest) => ((name, .string t) :: members, rest) := by
  have hquote : skip ('"' :: (inside' ++ rest)) = '"' :: (inside' ++ rest) := skip_cons rfl _
  have hvalue : value? (fuel + 1) ('"' :: (inside' ++ rest)) = some (.string t, rest) := by
    rw [value?, hquote]
    simp only [ht, Option.map_some]
  have hmembers := members?_render .compact (fuel + 1) hname ('"' :: (inside' ++ rest))
  rw [hvalue] at hmembers
  exact hmembers

/-- A string after its opening quote. -/
def afterQuote (s : String) : List Char := s.toList.flatMap Literal.escape ++ ['"']

theorem read_afterQuote (s : String) (rest : List Char) :
    Literal.read (afterQuote s ++ rest) = some (some s, rest) := by
  rw [afterQuote, List.append_assoc, List.singleton_append, Literal.read_flatMap_escape,
    String.ofList_toList]

theorem read_reportPayload (p : Primitive) (m : List UInt16) :
    Json.read (reportPayload p m) = some (reportJson p ((decode? m).map String.ofList)) := by
  generalize hliteral : (Literal.pieces m).flatMap Literal.Piece.write ++ ['"'] = literal
  have hmessage (rest : List Char) :
      Literal.read (literal ++ rest) = some ((decode? m).map String.ofList, rest) := by
    rw [← hliteral, List.append_assoc, List.singleton_append, Literal.read_writeUnits]
  have hpayload : reportPayload p m = '\x7b' :: '"' :: (afterQuote "status" ++ ':' :: '"' ::
      (afterQuote "reported" ++ ',' :: '"' :: (afterQuote "primitive" ++ ':' :: '"' ::
        (afterQuote p.name ++ ',' :: '"' :: (afterQuote "message" ++ ':' :: '"' ::
          (literal ++ ['\x7d'])))))) := by
    have hopening : reportOpening.toList = '\x7b' :: '"' :: (afterQuote "status" ++ ':' :: '"' ::
        (afterQuote "reported" ++ ',' :: '"' :: (afterQuote "primitive" ++ [':', '"']))) := by
      decide
    have hname : afterQuote p.name = p.name.toList ++ ['"'] := by cases p <;> decide
    have hmiddle : reportMiddle.toList = '"' :: ',' :: '"' :: (afterQuote "message" ++ [':']) := by
      decide
    rw [reportPayload, writeUnits, hliteral, hopening, hname, hmiddle]
    simp only [List.append_assoc, List.cons_append, List.nil_append]
  obtain ⟨fuel, hfuel⟩ : ∃ fuel, 2 * (reportPayload p m).length + 2 = fuel + 7 := by
    apply Nat.exists_eq_add_of_le'
    simp only [hpayload, List.length_cons, List.length_append]
    omega
  have hcomma (fuel : Nat) (text : List Char) :
      moreMembers? fuel (',' :: text) = members? fuel text :=
    moreMembers?_comma .compact 0 fuel text
  have hclose (fuel : Nat) : moreMembers? fuel ['\x7d'] = some ([], []) :=
    moreMembers?_close .compact 0 fuel []
  have hvalue : value? (fuel + 7) (reportPayload p m)
      = some (reportJson p ((decode? m).map String.ofList), []) := by
    rw [hpayload]
    refine (value?_object .compact 0 (fuel + 6) _).trans ?_
    rw [members?_string _ (read_afterQuote _) (read_afterQuote _), hcomma,
      members?_string _ (read_afterQuote _) (read_afterQuote _), hcomma,
      members?_string _ (read_afterQuote _) hmessage, hclose]
    rfl
  rw [Json.read, hfuel, hvalue]
  rfl

end

theorem ofJson?_reportJson (p : Primitive) (message : Option String) :
    Outcome.ofJson? (reportJson p message) = message.map (.reported p) := by
  cases message with
  | none => cases p <;> rfl
  | some message => exact Outcome.ofJson?_toJson (.reported p message)

theorem outcome?_reportPayload (p : Primitive) (m : List UInt16) :
    outcome? (reportPayload p m)
      = ((decode? m).map String.ofList).map (.reported p) := by
  rw [outcome?, read_reportPayload, Option.bind_some, ofJson?_reportJson]

/-! ### What is concluded -/

/-- The last result line of the output is that of a report. -/
def EndsInReport (p : Primitive) (m : List UInt16) (output : List Char) : Prop :=
  ∃ earlier later, Text.lines output = earlier ++ reportLine p m :: later ∧
    ∀ line ∈ later, ¬ marker.toList <+: line

variable (complaint : String → String) {p : Primitive} {m : List UInt16} {output : List Char}

theorem EndsInReport.lastPayload?_eq (h : EndsInReport p m output) :
    lastPayload? output = some (reportPayload p m) := by
  obtain ⟨earlier, later, hlines, hlater⟩ := h
  have hend : Text.dropEndWhile (· == '\r') (reportPayload p m) = reportPayload p m :=
    Text.dropEndWhile_eq_self (by simp [reportPayload])
  rw [lastPayload?_of_lines hlines hlater, hend]

theorem EndsInReport.parse_of_text (h : EndsInReport p m output) {message : String}
    (hm : units message.toList = m) :
    parse complaint output = some (.ok (.reported p message)) := by
  have hdecode : decode? m = some message.toList := Json.Literal.decode?_eq_some_iff.2 hm
  rw [parse, h.lastPayload?_eq, Option.map_some, outcome?_reportPayload, hdecode, Option.map_some,
    String.ofList_toList]
  rfl

theorem EndsInReport.parse_of_no_text (h : EndsInReport p m output)
    (hm : ∀ message : String, units message.toList ≠ m) :
    parse complaint output
      = some (.error (detail complaint (String.ofList (reportPayload p m)))) := by
  have hdecode : decode? m = none := by
    rw [Option.eq_none_iff_forall_ne_some]
    intro text htext
    apply hm (String.ofList text)
    rw [String.toList_ofList]
    exact Json.Literal.decode?_eq_some_iff.1 htext
  rw [parse, h.lastPayload?_eq, Option.map_some, outcome?_reportPayload, hdecode]
  rfl

/-- A report is judged by the text of its message: the case fails with it, for whatever was
expected. If the message is not the encoding of a text, the report is lost and the case crashes. -/
theorem report_judged (h : EndsInReport p m output) :
    (∀ message : String, units message.toList = m →
      parse complaint output = some (.ok (.reported p message)) ∧
        ∀ (c : Case) (budget elapsed : Duration) (status : ExitStatus) (octets errors : List UInt8),
          Text.Utf8.lossy octets = output →
            let r := c.resultOf budget (Launch.conclude complaint status octets errors) elapsed
            r.verdict = .fail ∧ r.reason? = some (.assertionFailed p.name message)) ∧
      ((∀ message : String, units message.toList ≠ m) →
        parse complaint output
            = some (.error (detail complaint (String.ofList (reportPayload p m)))) ∧
          ∀ (c : Case) (budget elapsed : Duration) (status : ExitStatus)
            (octets errors : List UInt8), Text.Utf8.lossy octets = output →
              let r := c.resultOf budget (Launch.conclude complaint status octets errors) elapsed
              r.verdict = .crash ∧ r.reason? = some (.engineFault (EngineFault.protocol
                (detail complaint (String.ofList (reportPayload p m)))).message)) := by
  refine ⟨fun message hm => ?_, fun hm => ?_⟩
  · have hparse := h.parse_of_text complaint hm
    refine ⟨hparse, fun c budget elapsed status octets errors houtput => ?_⟩
    rw [Launch.conclude, houtput, hparse]
    exact ⟨rfl, rfl⟩
  · have hparse := h.parse_of_no_text complaint hm
    refine ⟨hparse, fun c budget elapsed status octets errors houtput => ?_⟩
    rw [Launch.conclude, houtput, hparse]
    exact ⟨rfl, rfl⟩

/-- An output with a line of another kind, an outcome that a case has printed, and a report of a
message with a surrogate pair. -/
def pairReported : List Char :=
  "ready\n".toList ++ (line .completed).toList ++ '\n' :: reportLine .fail [0x61, 0xd83d, 0xde00] ++
    "\ndone".toList

theorem endsInReport_pairReported :
    EndsInReport .fail [0x61, 0xd83d, 0xde00] pairReported :=
  ⟨["ready".toList, (line .completed).toList], ["done".toList], by decide, by decide⟩

theorem report_judged_pairReported :
    parse (fun _ => "") pairReported = some (.ok (.reported .fail "a😀")) :=
  ((report_judged _ endsInReport_pairReported).1 "a😀" (by decide)).1

/-- A report with half of a surrogate pair. -/
def halfReported : List Char := reportLine .error [0xd83d]

theorem endsInReport_halfReported : EndsInReport .error [0xd83d] halfReported :=
  ⟨[], [], by decide, by decide⟩

/-- A case has reported, the line of its report is not read as one, and the case crashes. -/
theorem report_lost_halfReported :
    EndsInReport .error [0xd83d] halfReported ∧
      ∀ complaint : String → String,
        (∀ message, parse complaint halfReported ≠ some (.ok (.reported .error message))) ∧
        ((Case.plain "a.js" none).resultOf ⟨0⟩
          (Launch.conclude complaint (.code 0) (Text.Utf8.encode halfReported) []) ⟨0⟩).verdict
            = .crash := by
  have hno_text : ∀ message : String, units message.toList ≠ [0xd83d] := by
    intro message hm
    have hdecode := Json.Literal.decode?_eq_some_iff.2 hm
    cases hdecode
  have hlossy : Text.Utf8.lossy (Text.Utf8.encode halfReported) = halfReported :=
    Text.Utf8.lossy_encode halfReported
  refine ⟨endsInReport_halfReported, fun complaint => ?_⟩
  have hparse := endsInReport_halfReported.parse_of_no_text complaint hno_text
  refine ⟨fun message => ?_, ?_⟩
  · rw [hparse]
    simp
  · rw [Launch.conclude, hlossy, hparse]
    rfl

end Conformance.ResultLine
