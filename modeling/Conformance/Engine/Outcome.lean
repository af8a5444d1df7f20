import Conformance.Json.Shape

/-!
# Outcomes

What a case did when an engine evaluated it: it ran to its end, it called one of the two reporting
primitives, it raised something that nothing caught, or it did not end in time. An outcome is
written as a record tagged by its status.
-/

namespace Conformance

/-- A reporting primitive that cases may call. -/
inductive Primitive where
  | error
  | fail
  deriving DecidableEq, Repr

/-- The name of a primitive in case code. -/
def Primitive.name : Primitive → String
  | .error => "$ERROR"
  | .fail => "$FAIL"

/-- The primitive of a name. -/
def Primitive.ofName? (name : String) : Option Primitive :=
  if name = Primitive.error.name then some .error
  else if name = Primitive.fail.name then some .fail
  else none

/-- What a case did. -/
inductive Outcome where
  | completed
  | reported (primitive : Primitive) (message : String)
  | threw (kind message : String)
  | timedOut
  deriving DecidableEq, Repr

namespace Outcome

/-- The record of an outcome. -/
def toJson : Outcome → Json
  | .completed => .record [("status", .text "completed")]
  | .reported primitive message =>
    .record [("status", .text "reported"), ("primitive", .text primitive.name),
      ("message", .text message)]
  | .threw kind message =>
    .record [("status", .text "threw"), ("kind", .text kind), ("message", .text message)]
  | .timedOut => .record [("status", .text "timed_out")]

/-- The outcome of a record. -/
def ofJson? (value : Json) : Option Outcome := do
  let (status, rest) ← value.tagged? "status" 0
  match status with
  | "completed" => (rest.noContent?).map fun _ => .completed
  | "timed_out" => (rest.noContent?).map fun _ => .timedOut
  | "reported" =>
    match ← rest.fields? ["primitive", "message"] with
    | [primitive, message] =>
      let primitive ← Primitive.ofName? (← (← primitive).heldChoice?)
      return .reported primitive (← Json.required? Json.text? message)
    | _ => none
  | "threw" =>
    match ← rest.fields? ["kind", "message"] with
    | [kind, message] =>
      return .threw (← Json.required? Json.text? kind) (← Json.required? Json.text? message)
    | _ => none
  | _ => none

end Outcome

end Conformance
