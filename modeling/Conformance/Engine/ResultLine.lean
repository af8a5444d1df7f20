import Conformance.Engine.Outcome
import Conformance.Json.Reader
import Conformance.Json.Writer
import Conformance.Text.Blank

/-!
# Result lines

A script reports by printing a line that starts with the marker, with the outcome's record after it.
A case can print such lines too, but the script prints its own after all of them, so the last one
counts, and it counts also when it cannot be read. Then it is reported together with what the JSON
decoder complains of.
-/

namespace Conformance.ResultLine

def marker : String := "@@conformance-result "

/-- The line that reports an outcome, without its end. -/
def line (o : Outcome) : String := marker ++ o.toJson.compact

/-- What stands after the marker of a result line. -/
def payload? (line : List Char) : Option (List Char) :=
  Text.after? marker.toList (Text.dropEndWhile (· == '\r') line)

/-- What stands after the marker of the last result line of a text. -/
def lastPayload? (output : List Char) : Option (List Char) :=
  (Text.lines output).reverse.findSome? payload?

def outcome? (payload : List Char) : Option Outcome := (Json.read payload).bind Outcome.ofJson?

/-- What is said of a payload that cannot be read, about which the decoder has a complaint. -/
def detail (complaint : String → String) (payload : String) : String :=
  complaint payload ++ ": " ++ payload

/-- What an output reports: nothing, an outcome, or that the payload cannot be read. -/
def parse (complaint : String → String) (output : List Char) : Option (Except String Outcome) :=
  (lastPayload? output).map fun payload =>
    match outcome? payload with
    | some o => .ok o
    | none => .error (detail complaint (String.ofList payload))

end Conformance.ResultLine
