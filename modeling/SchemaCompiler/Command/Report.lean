import SchemaCompiler.Json
import SchemaCompiler.Output

/-!
# Reports

What a run did, unit by unit, and what failed. A report is told as lines of text or as one JSON
value.
-/

namespace SchemaCompiler.Command

/-- What became of a unit. -/
structure UnitReport where
  /-- The name of the unit. -/
  unit : String
  /-- The file that it came from. -/
  source : String
  /-- What was reported while its schema was built. -/
  diagnostics : List Diagnostic
  /-- The files that were written. -/
  written : List String := []
  /-- How files differ from its artifacts. -/
  drift : List Drift := []

/-- What a run did. -/
structure Report where
  /-- The units, in order. -/
  units : List UnitReport := []
  /-- The texts of the failures, in order. -/
  failures : List String := []

namespace Report

/-- Adds a unit. -/
def addUnit (r : Report) (u : UnitReport) : Report :=
  { r with units := r.units ++ [u] }

/-- Adds failures. -/
def addFailures (r : Report) (texts : List String) : Report :=
  { r with failures := r.failures ++ texts }

/-- Whether nothing failed and nothing has drifted. -/
def isClean (r : Report) : Bool :=
  r.failures.isEmpty && r.units.all (fun u => u.drift.isEmpty)

/-! ### Text -/

/-- The lines of a drift. -/
def driftText : Drift → String
  | .missing path => "missing " ++ path ++ "\n"
  | .changed path difference => "out of date " ++ path ++ "\n" ++ difference

/-- The lines of a unit. -/
def unitText (u : UnitReport) : String :=
  (if u.diagnostics.isEmpty then "" else Diagnostics.display u.diagnostics) ++
    String.join (u.written.map (fun path => "wrote " ++ path ++ "\n")) ++
    String.join (u.drift.map driftText)

/-- The last line. -/
def summary (r : Report) (check : Bool) : String :=
  let units := Decimal.ofNat r.units.length
  let failures := Decimal.ofNat r.failures.length
  if check then
    let drifted := r.units.foldr (fun u n => u.drift.length + n) 0
    "\n" ++ units ++ " unit(s) checked, " ++ Decimal.ofNat drifted ++
      " artifact(s) out of date, " ++ failures ++ " failure(s)\n"
  else "\n" ++ units ++ " unit(s) compiled, " ++ failures ++ " failure(s)\n"

/-- The lines of the report, without those of failures. -/
def text (r : Report) (check : Bool) : String :=
  String.join (r.units.map unitText) ++ r.summary check

/-- The lines of failures. -/
def failureText (r : Report) : String :=
  String.join (r.failures.map (fun s => "error: " ++ s ++ "\n"))

/-! ### JSON -/

/-- A diagnostic. -/
def diagnosticJson (d : Diagnostic) : Json :=
  .object ([("unit", .text d.unit), ("code", .text d.code.name)] ++
    (d.path.map (fun path => ("path", Json.text path))).toList ++ [("message", .text d.message)])

/-- A drift. -/
def driftJson : Drift → Json
  | .missing path => .object [("status", .text "missing"), ("path", .text path)]
  | .changed path difference =>
    .object [("status", .text "changed"), ("path", .text path), ("diff", .text difference)]

/-- A unit. -/
def unitJson (u : UnitReport) : Json :=
  .object [("unit", .text u.unit), ("source", .text u.source),
    ("diagnostics", .list (u.diagnostics.map diagnosticJson)),
    ("written", .list (u.written.map Json.text)), ("drift", .list (u.drift.map driftJson))]

/-- The report. -/
def json (r : Report) : Json :=
  .object [("units", .list (r.units.map unitJson)), ("failures", .list (r.failures.map Json.text))]

end Report

end SchemaCompiler.Command
