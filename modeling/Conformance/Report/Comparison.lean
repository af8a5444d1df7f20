import Conformance.Report.Summary
import Conformance.Word

/-!
# Comparisons

Two summaries are compared by the names of the cases that did not pass, taken as sets, and by the
counts of each section, where a section that is missing counts zero. Changes of counts are signed
64-bit words.
-/

namespace Conformance

/-- How the counts of a section changed. -/
structure Change where
  pass : Int
  fail : Int
  crash : Int
  deriving DecidableEq, Repr, Inhabited

namespace Change

/-- The difference of two counts as a signed 64-bit word. -/
def between (old new : Nat) : Int := Word.signed ((new : Int) - old)

/-- The change from one count of a section to another. -/
def ofCounts (old new : Counts) : Change :=
  ⟨between old.pass new.pass, between old.fail new.fail, between old.crash new.crash⟩

/-- A number with its sign, also if it is zero. -/
def signed (n : Int) : String := if n < 0 then toString n else "+" ++ toString n

/-- The change of a section in words. -/
def describe (c : Change) : String :=
  "pass " ++ signed c.pass ++ " fail " ++ signed c.fail ++ " crash " ++ signed c.crash

end Change

/-- What a newer summary has changed. -/
structure Comparison where
  /-- Failing in the newer summary only. -/
  newFailures : List String
  /-- Failing in the older summary only. -/
  fixed : List String
  /-- How many fail in both. -/
  stillFailing : Nat
  sectionChanges : Table Change
  deriving DecidableEq, Repr

namespace Comparison

/-- The counts of a section, zero if it is missing. -/
def countsOf (s : Summary) (key : String) : Counts := (s.sections.find? key).getD .zero

/-- The changes of the sections of `keys` whose counts differ. -/
def changes (old new : Summary) (keys : List String) : List (String × Change) :=
  keys.filterMap fun key =>
    if countsOf old key = countsOf new key then none
    else some (key, .ofCounts (countsOf old key) (countsOf new key))

/-- The comparison of an older with a newer summary. -/
def between (old new : Summary) : Comparison :=
  let oldIds := Text.setOf old.failingIds
  let newIds := Text.setOf new.failingIds
  { newFailures := newIds.filter fun id => !oldIds.contains id
    fixed := oldIds.filter fun id => !newIds.contains id
    stillFailing := (newIds.filter oldIds.contains).length
    sectionChanges := .ofList (changes old new (old.sections.keys ++ new.sections.keys)) }

/-- Something fails that did not fail before. -/
def regressed (c : Comparison) : Bool := !c.newFailures.isEmpty

/-- The lines of the printed comparison. -/
def reportLines (c : Comparison) : List String :=
  ("New failures: " ++ toString c.newFailures.length ++ "  Fixed: " ++ toString c.fixed.length ++
    "  Still failing: " ++ toString c.stillFailing) ::
  (c.newFailures.map ("  - " ++ ·) ++ c.fixed.map ("  + " ++ ·) ++
    if c.sectionChanges.entries.isEmpty then []
    else "" :: "Section changes:" ::
      c.sectionChanges.entries.map fun (key, change) => "  " ++ key ++ ": " ++ change.describe)

def report (c : Comparison) : String := String.join (c.reportLines.map (· ++ "\n"))

/-- The record of a change. -/
def changeJson (c : Change) : Json :=
  .record [("pass", .number (.integer c.pass)), ("fail", .number (.integer c.fail)),
    ("crash", .number (.integer c.crash))]

/-- The record of a comparison. -/
def toJson (c : Comparison) : Json :=
  .record [("new_failures", .array (c.newFailures.map Json.text)),
    ("fixed", .array (c.fixed.map Json.text)), ("still_failing", .count c.stillFailing),
    ("section_deltas",
      .record (c.sectionChanges.entries.map fun (key, change) => (key, changeJson change)))]

end Comparison

end Conformance
