import ClassSkeleton.Json.Basic
import ClassSkeleton.Run.Paths

/-
  ClassSkeleton.Run.Report — how a run is reported.

  The report of a run is a JSON object; progress and failures are a line each.
-/

namespace ClassSkeleton

def UnitOutcome.toJson : UnitOutcome → JsonValue
  | dumped t digest => .object [("outcome", .string "dumped"), ("type", .string t.raw), ("digest", .string digest)]
  | skippedInner t => .object [("outcome", .string "skipped_inner"), ("type", .string t.raw)]
  | recovered t kind note =>
    .object [("outcome", .string "recovered"), ("type", .string t.raw), ("kind", .string kind.name), ("note", .string note)]
  | failed path kind message =>
    .object [("outcome", .string "failed"), ("path", .string path.text), ("kind", .string kind.name),
      ("message", .string message)]

def BatchReport.toJson (r : BatchReport) : JsonValue :=
  .object [("archive", .string r.archive.text), ("candidates", .ofNat r.candidates),
    ("units", .array (r.units.map (·.toJson)))]

def ExceptionRecord.toJson (r : ExceptionRecord) : JsonValue :=
  .object [("path", .string r.path.text), ("context", .ofOption r.context), ("kind", .string r.kind.name),
    ("message", .string r.message)]

def RunReport.toJson (r : RunReport) : JsonValue :=
  .object [("batches", .array (r.batches.map (·.toJson))), ("units", .array (r.units.map (·.toJson))),
    ("exceptions", .array (r.exceptions.map (·.toJson))), ("aborted", .bool r.aborted)]

def ExceptionRecord.line (r : ExceptionRecord) : String :=
  r.context.getD "Exception processing" ++ " " ++ r.path.text ++ ": " ++ r.message

/-- The line an event is worth to whoever watches the run. -/
def Event.line? : Event → Option String
  | progressPath p => some ("Processing " ++ p.text)
  | progressType t => some ("Processing " ++ t.raw)
  | exception r => some r.line
  | _ => none

/-- The lines of a trace. -/
def Event.lines (trace : List Event) : String := String.join ((trace.filterMap line?).map (· ++ "\n"))

end ClassSkeleton
