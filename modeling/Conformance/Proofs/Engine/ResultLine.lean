import Conformance.Engine.ResultLine
import Conformance.Proofs.Json.Compact
import Conformance.Proofs.Json.RoundTrip
import Conformance.Proofs.Json.Shape
import Conformance.Proofs.Text.Blank
import Conformance.Proofs.Text.Utf8

/-!
# The last result line decides

An outcome is read back from the record that reports it, and the line with that record is one line
of an output, wherever it stands in it. Of all lines of an output only those that start with the
marker count, and of these only the last.
-/

namespace Conformance

theorem Outcome.ofJson?_toJson (o : Outcome) : ofJson? o.toJson = some o := by
  cases o with
  | completed | timedOut =>
    rw [toJson, ofJson?, Json.tagged?_record (by simp) (by simp) (by decide)]
    rfl
  | reported primitive message =>
    have hfields : (Json.record [("primitive", .text primitive.name),
          ("message", .text message)]).fields? ["primitive", "message"]
        = some [some (.text primitive.name), some (.text message)] :=
      Json.fields?_record rfl (by decide)
    rw [toJson, ofJson?, Json.tagged?_record (by simp) (by simp) (by decide)]
    simp only [Option.bind_eq_bind, Option.bind_some, hfields]
    cases primitive <;> rfl
  | threw kind message =>
    have hfields : (Json.record [("kind", .text kind), ("message", .text message)]).fields?
        ["kind", "message"] = some [some (.text kind), some (.text message)] :=
      Json.fields?_record rfl (by decide)
    rw [toJson, ofJson?, Json.tagged?_record (by simp) (by simp) (by decide)]
    simp only [Option.bind_eq_bind, Option.bind_some, hfields]
    rfl

namespace ResultLine

/-! ### Payloads -/

theorem payload?_eq_none {line : List Char} (h : ¬ marker.toList <+: line) :
    payload? line = none := by
  have hnot : ¬ marker.toList.isPrefixOf (Text.dropEndWhile (· == '\r') line) := fun hstart =>
    h ((List.isPrefixOf_iff_prefix.1 hstart).trans (List.rdropWhile_prefix _ line))
  rw [payload?, Text.after?, if_neg hnot]

theorem payload?_marker_append (payload : List Char) :
    payload? (marker.toList ++ payload) = some (Text.dropEndWhile (· == '\r') payload) := by
  have hmarker : ∀ c ∈ marker.toList.getLast?, (c == '\r') = false := by
    rintro c ⟨⟩
    rfl
  rw [payload?, Text.dropEndWhile_append hmarker, Text.after?,
    if_pos (List.isPrefixOf_iff_prefix.2 (List.prefix_append _ _)), List.drop_left]

theorem findSome?_payload?_eq_none {lines : List (List Char)}
    (h : ∀ line ∈ lines, ¬ marker.toList <+: line) : lines.reverse.findSome? payload? = none := by
  rw [List.findSome?_eq_none_iff]
  exact fun line hline => payload?_eq_none (h line (List.mem_reverse.1 hline))

theorem parse_eq_none {output : List Char} (complaint : String → String)
    (h : ∀ line ∈ Text.lines output, ¬ marker.toList <+: line) : parse complaint output = none := by
  rw [parse, lastPayload?, findSome?_payload?_eq_none h]
  rfl

/-- The lines before the last one with the marker do not matter. -/
theorem lastPayload?_of_lines {output payload : List Char} {earlier later : List (List Char)}
    (hlines : Text.lines output = earlier ++ (marker.toList ++ payload) :: later)
    (h : ∀ line ∈ later, ¬ marker.toList <+: line) :
    lastPayload? output = some (Text.dropEndWhile (· == '\r') payload) := by
  rw [lastPayload?, hlines, List.reverse_append, List.reverse_cons, List.append_assoc,
    List.findSome?_append, findSome?_payload?_eq_none h, Option.none_or, List.singleton_append,
    List.findSome?_cons, payload?_marker_append]

/-! ### The line of an outcome -/

theorem toList_line (o : Outcome) :
    (line o).toList = marker.toList ++ o.toJson.render .compact 0 := by
  rw [line, String.toList_append, Json.compact, String.toList_ofList]

theorem plain_line (o : Outcome) : Json.Plain (line o).toList := by
  rw [toList_line]
  exact Json.Plain.append (by decide) (Json.plain_render 0 o.toJson)

theorem outcome?_render (o : Outcome) : outcome? (o.toJson.render .compact 0) = some o := by
  rw [outcome?, Json.read_render, Option.bind_some, Outcome.ofJson?_toJson]

end ResultLine

end Conformance
