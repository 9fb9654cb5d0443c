import Equate.Failure
import Equate.Json.Record

/-!
# Faults and failures as documents

Both are tagged records. Reading gives back what was written, with any strings, any
line and any list of categories.
-/
namespace Equate

/-- The largest line number. -/
def Fault.lineLimit : Nat := Nat.pow 2 64 - 1

namespace Fault

/-- The details of a fault that points at a line. -/
def placed (line : Nat) (text reason : Text) : Json :=
  Json.ofFields
    [("line", Json.ofNat line), ("text", Json.ofText text), ("reason", Json.ofText reason)]

/-- The fault as a document. -/
def toJson : Fault → Json
  | unitNotFound source target =>
    Json.ofTagged "UnitNotFound"
      (Json.ofFields [("from", Json.ofText source), ("to", Json.ofText target)])
  | ambiguousUnit source target categories =>
    Json.ofTagged "AmbiguousUnit"
      (Json.ofFields [("from", Json.ofText source), ("to", Json.ofText target),
        ("categories", Json.ofList Json.ofText categories)])
  | parameter line text reason => Json.ofTagged "ParameterEval" (placed line text reason)
  | directive line text reason => Json.ofTagged "MalformedDirective" (placed line text reason)
  | equation line text reason => Json.ofTagged "MalformedEquation" (placed line text reason)
  | nameConflict name reason =>
    Json.ofTagged "NameConflict"
      (Json.ofFields [("name", Json.ofText name), ("reason", Json.ofText reason)])

/-- The line, text and reason of details. -/
def placed? (details : Json) : Option (Nat × Text × Text) := do
  let fields ← Json.details? ["line", "text", "reason"] details
  let line ← Json.field? fields "line" (Json.toNat? lineLimit)
  let text ← Json.field? fields "text" Json.toText?
  let reason ← Json.field? fields "reason" Json.toText?
  return (line, text, reason)

/-- The fault of a kind with its details. -/
def ofDetails? (kind : Text) (details : Json) : Option Fault :=
  if kind = ("UnitNotFound" : Text) then do
    let fields ← Json.details? ["from", "to"] details
    let source ← Json.field? fields "from" Json.toText?
    let target ← Json.field? fields "to" Json.toText?
    return unitNotFound source target
  else if kind = ("AmbiguousUnit" : Text) then do
    let fields ← Json.details? ["from", "to", "categories"] details
    let source ← Json.field? fields "from" Json.toText?
    let target ← Json.field? fields "to" Json.toText?
    let categories ← Json.field? fields "categories" (Json.toList? Json.toText?)
    return ambiguousUnit source target categories
  else if kind = ("ParameterEval" : Text) then do
    let (line, text, reason) ← placed? details
    return parameter line text reason
  else if kind = ("MalformedDirective" : Text) then do
    let (line, text, reason) ← placed? details
    return directive line text reason
  else if kind = ("MalformedEquation" : Text) then do
    let (line, text, reason) ← placed? details
    return equation line text reason
  else if kind = ("NameConflict" : Text) then do
    let fields ← Json.details? ["name", "reason"] details
    let name ← Json.field? fields "name" Json.toText?
    let reason ← Json.field? fields "reason" Json.toText?
    return nameConflict name reason
  else none

/-- The kinds of faults, in the order of their numbers. -/
def kinds : List Text :=
  ["UnitNotFound", "AmbiguousUnit", "ParameterEval", "MalformedDirective", "MalformedEquation",
    "NameConflict"]

/-- The fault that a document describes, inside a failure. -/
def ofJson? (held : Bool) (document : Json) : Option Fault := do
  let found ← Json.tagged? (Json.depthLimit - 2) held kinds document
  ofDetails? found.kind found.details

end Fault

namespace Failure

/-- The failure as a document. -/
def toJson : Failure → Json
  | configuration reason =>
    Json.ofTagged "Config" (Json.ofFields [("reason", Json.ofText reason)])
  | source fault => Json.ofTagged "Preprocess" fault.toJson
  | solver text => Json.ofTagged "Solve" (Json.ofFields [("message", Json.ofText text)])
  | file operation path reason =>
    Json.ofTagged "FileError"
      (Json.ofFields [("operation", Json.ofText operation), ("path", Json.ofText path),
        ("reason", Json.ofText reason)])
  | document reason =>
    Json.ofTagged "SerializationError" (Json.ofFields [("reason", Json.ofText reason)])

/-- The only text of details. -/
def only? (name : Text) (details : Json) : Option Text := do
  Json.field? (← Json.details? [name] details) name Json.toText?

/-- The failure of a kind with its details. -/
def ofDetails? (kind : Text) (details : Json) (held : Bool) : Option Failure :=
  if kind = ("Config" : Text) then (only? "reason" details).map configuration
  else if kind = ("Preprocess" : Text) then (Fault.ofJson? held details).map source
  else if kind = ("Solve" : Text) then (only? "message" details).map solver
  else if kind = ("FileError" : Text) then do
    let fields ← Json.details? ["operation", "path", "reason"] details
    let operation ← Json.field? fields "operation" Json.toText?
    let path ← Json.field? fields "path" Json.toText?
    let reason ← Json.field? fields "reason" Json.toText?
    return file operation path reason
  else if kind = ("SerializationError" : Text) then (only? "reason" details).map document
  else none

/-- The failure that a document describes. -/
def ofJson? (d : Json) : Option Failure := do
  let found ← Json.tagged? (Json.depthLimit - 1) false [] d
  ofDetails? found.kind found.details found.held

/-- The failure that a text holds. -/
def read? (t : Text) : Option Failure := (Json.parse? t).bind ofJson?

end Failure
end Equate
