import SchemaCompiler.Command.Options
import SchemaCompiler.Command.Report
import SchemaCompiler.Loading
import SchemaCompiler.Settings.Sources

/-!
# Runs

A run compiles schema files and writes their artifacts, or compares them with the files on disk. A
file that cannot be loaded and a unit that does not compile are failures of their own; the run goes
on with the rest.
-/

namespace SchemaCompiler.Command

/-- What a run looks at besides its arguments. -/
structure Surroundings where
  /-- The file system. -/
  files : FileSystem
  /-- The directory of the user. -/
  home : String
  /-- The environment variables. -/
  environment : List (String × String) := []

/-- What a run leaves behind. -/
structure Outcome where
  /-- The exit code. -/
  exitCode : Nat
  /-- What was printed. -/
  output : String := ""
  /-- What was printed about errors. -/
  errors : String := ""
  /-- The file system after the run. -/
  files : FileSystem

/-- A configuration with what the options ask for in place of its own parts. -/
def configured (o : Options) (c : Configuration) : Configuration where
  policy := if o.strict then .strict else c.policy
  inputDirectory := o.inputDir.getD c.inputDirectory
  output :=
    { record := o.recordOut.getD c.output.record
      storage := o.storageOut.getD c.output.storage
      table := o.ddlOut.getD c.output.table
      message := o.protoOut.getD c.output.message
      marshal := o.marshalOut.getD c.output.marshal }
  profile := c.profile

/-- The files of a run. -/
def sources (o : Options) (c : Configuration) (fs : FileSystem) : List String :=
  if o.files.isEmpty then fs.schemaFiles c.inputDirectory else o.files

/-- Compares or writes the artifacts of a compiled unit. -/
def emitUnit (check : Bool) (c : Configuration) (file : String) (unit : SchemaUnit)
    (compiled : Compiled) (fs : FileSystem) (r : Report) : FileSystem × Report :=
  let artifacts := unit.artifacts compiled c.profile
  let base : UnitReport :=
    { unit := unit.name, source := file, diagnostics := compiled.diagnostics }
  if check then
    match fs.drifts c.output artifacts with
    | .ok drift => (fs, r.addUnit { base with drift })
    | .error e => (fs, (r.addFailures [e.message]).addUnit base)
  else
    let (fs, outcomes) := fs.writeArtifacts c.output artifacts
    let written := (outcomes.filter (fun o => o.failure.isNone)).map WriteOutcome.path
    let failed := (outcomes.filterMap WriteOutcome.error?).map ArtifactError.message
    (fs, (r.addFailures failed).addUnit { base with written })

/-- Compiles a unit and goes on with its artifacts. A unit that does not compile is reported with
its diagnostics. -/
def runUnit (check : Bool) (c : Configuration) (file : String) (unit : SchemaUnit)
    (fs : FileSystem) (r : Report) : FileSystem × Report :=
  match unit.compile c.policy with
  | .ok compiled => emitUnit check c file unit compiled fs r
  | .error e =>
    (fs, (r.addFailures [file ++ ": " ++ e.message]).addUnit
      { unit := unit.name, source := file, diagnostics := e.diagnostics })

/-- Compiles the units of a file. -/
def runFile (check : Bool) (c : Configuration) (file : String) (fs : FileSystem) (r : Report) :
    FileSystem × Report :=
  match fs.units file with
  | .error e => (fs, r.addFailures [file ++ ": " ++ e.message])
  | .ok units =>
    units.foldl (fun state unit => runUnit check c file unit state.1 state.2) (fs, r)

/-- Compiles files one after another. -/
def runFiles (check : Bool) (c : Configuration) (files : List String) (fs : FileSystem) :
    FileSystem × Report :=
  files.foldl (fun state file => runFile check c file state.1 state.2) (fs, {})

/-- The paths of the artifacts of a unit, if it compiles. -/
def unitTargets (c : Configuration) (unit : SchemaUnit) : List String :=
  match unit.compile c.policy with
  | .ok compiled => (unit.artifacts compiled c.profile).map (fun a => a.path c.output)
  | .error _ => []

/-- The paths of all artifacts of a run. -/
def targets (o : Options) (c : Configuration) (fs : FileSystem) : List String :=
  (sources o c fs).flatMap (fun file =>
    match fs.units file with
    | .ok units => units.flatMap (unitTargets c)
    | .error _ => [])

/-- What a run prints. -/
def present (o : Options) (r : Report) (files : FileSystem) : Outcome :=
  let exitCode := if r.isClean then 0 else 1
  match o.format with
  | some .json => { exitCode, output := r.json.pretty ++ "\n", files }
  | _ => { exitCode, output := r.text o.check, errors := r.failureText, files }

/-- A run with options. -/
def runWith (o : Options) (s : Surroundings) : Outcome :=
  match Configuration.load? s.files s.home s.environment o.config with
  | none => { exitCode := 1, errors := "Error: failed to load configuration", files := s.files }
  | some loaded =>
    let c := configured o loaded
    let (files, report) := runFiles o.check c (sources o c s.files) s.files
    present o report files

/-- A run. Arguments that are no good end it with an exit code of two and do nothing. -/
def run (arguments : List String) (s : Surroundings) : Outcome :=
  match Options.read? arguments with
  | none => { exitCode := 2, files := s.files }
  | some o => runWith o s

end SchemaCompiler.Command
