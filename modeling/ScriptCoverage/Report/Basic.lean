import ScriptCoverage.Report.Json
import ScriptCoverage.Report.Listing
import ScriptCoverage.Unit.Summary

/-!
# Coverage reports

A report presents the units of a run in one of four formats. All of them state the same two numbers:
how many units there are, and how many of them ran.

Specification: section 10, the reporters that are built in.
-/

namespace ScriptCoverage

/-- The formats that are always available. -/
inductive ReportFormat where
  | text
  | html
  | json
  | summary
  deriving DecidableEq, Repr

def ReportFormat.name : ReportFormat → String
  | text => "text"
  | html => "html"
  | json => "json"
  | summary => "summary"

/-- The record of a unit in a JSON report. -/
def CoverableUnit.toJson (u : CoverableUnit) : Json :=
  .record
    [("id", .int u.id), ("kind", .text u.kind.name), ("syntax", .text u.shape.name),
     ("range", .list [.int u.start, .int u.stop]), ("expression", .bool u.isExpression),
     ("execution_count", .int u.executionCount), ("code", .text (String.ofList u.code))]

namespace Summary

/-- The summary of a JSON report. -/
def toJson (s : Summary) : Json :=
  .record
    [("total_units", .int s.total), ("executed_units", .int s.executed),
     ("coverage_percentage", .number s.roundedPercentage)]

/-- The percentage to one decimal, as messages state it. -/
def percentText (s : Summary) : String := s.percentage.fixed 1

end Summary

namespace Report

/-- The listing, and the coverage in one line. -/
def text (source : Text) (units : List CoverableUnit) : Text :=
  let s := Summary.ofUnits units
  listing source units textStyle ++ "\n\n".toList ++
    s!"Units executed: {s.executed}/{s.total} ({s.percentText}%)\n".toList

/-- The listing as a fragment of an HTML page. -/
def html (source : Text) (units : List CoverableUnit) : Text :=
  listing source units htmlStyle ++ ['\n']

/-- The summary and the record of every unit. -/
def json (units : List CoverableUnit) : Text :=
  let document := Json.record
    [("schema_version", .text "1.0"), ("summary", (Summary.ofUnits units).toJson),
     ("units", .list (units.map CoverableUnit.toJson))]
  document.write 0 ++ ['\n']

/-- How many units of a kind there are and how many of them ran; nothing for a kind that does not occur. -/
def kindLine? (units : List CoverableUnit) (kind : UnitKind) : Option String :=
  let ofKind := units.filter (·.kind == kind)
  if ofKind.isEmpty then none
  else some s!"  {kind.name}: {ofKind.countP CoverableUnit.executed}/{ofKind.length}"

/-- The lines of a brief summary, with a breakdown by kind if there are units. -/
def summaryLines (units : List CoverableUnit) : List String :=
  let s := Summary.ofUnits units
  [s!"Total units: {s.total}", s!"Executed units: {s.executed}", s!"Coverage: {s.percentText}%"] ++
    if units.isEmpty then [] else "\nBy kind:" :: UnitKind.all.filterMap (kindLine? units)

/-- The numbers alone. -/
def summary (units : List CoverableUnit) : Text :=
  joinLines ((summaryLines units).map String.toList) ++ ['\n']

/-- The report of a run in a format. -/
def write (format : ReportFormat) (source : Text) (units : List CoverableUnit) : Text :=
  match format with
  | .text => text source units
  | .html => html source units
  | .json => json units
  | .summary => summary units

end Report

end ScriptCoverage
