import SchemaCompiler.Artifact
import SchemaCompiler.Policy
import SchemaCompiler.Unit

/-!
# Compilation

A unit is compiled in two steps. First its schema is built and its diagnostics are collected; this
fails if a key or index of a flat schema names a field that is not declared, and under the strict
policy if any error was reported. Then every kind of artifact that applies to the dialect is
rendered, with a header in front that names the unit and the checksum of its source.
-/

namespace SchemaCompiler

/-- A schema with what was reported while it was built. -/
structure Compiled where
  /-- The schema. -/
  schema : Schema
  /-- What was reported. -/
  diagnostics : List Diagnostic

/-- Why a unit does not compile. -/
inductive CompileError where
  /-- The schema refers to something that it does not have. The diagnostics end with the fault. -/
  | aborted (unit : String) (fault : SchemaFault) (diagnostics : List Diagnostic)
  /-- The policy refuses the unit. -/
  | rejected (unit : String) (diagnostics : List Diagnostic)

namespace CompileError

/-- What was reported up to the failure. -/
def diagnostics : CompileError → List Diagnostic
  | aborted _ _ ds => ds
  | rejected _ ds => ds

/-- The text of the error. -/
def message : CompileError → String
  | aborted unit fault _ => "schema unit '" ++ unit ++ "' aborted: " ++ fault.message
  | rejected unit ds =>
    "schema unit '" ++ unit ++ "' rejected with " ++ Decimal.ofNat (Diagnostics.errorCount ds) ++
      " error(s)"

end CompileError

/-- A rendered artifact. -/
structure Artifact where
  /-- Its kind. -/
  kind : ArtifactKind
  /-- The name of the file that it belongs in. -/
  fileName : String
  /-- The contents of that file. -/
  contents : String

namespace SchemaUnit

/-- The schema of a unit, without regard to its references or to a policy. -/
def build (unit : SchemaUnit) : Compiled :=
  match unit.source with
  | .flat flat =>
    let b := FlatSchema.build flat
    ⟨.flat b.schema, b.diagnostics⟩
  | .tree root =>
    let (type, ds) := ElementType.ofElement root
    ⟨.tree type, ds⟩

/-- The first name in a schema that refers to nothing. -/
def undeclared? : Schema → Option SchemaFault
  | .flat m => m.undeclared?
  | .tree _ => none

/-- Compiles a unit under a policy. -/
def compile (unit : SchemaUnit) (policy : Policy) : Except CompileError Compiled :=
  let compiled := unit.build
  match undeclared? compiled.schema with
  | some fault =>
    .error (.aborted unit.name fault (compiled.diagnostics ++ [Diagnostic.of unit.name fault]))
  | none =>
    if policy == .strict && Diagnostics.hasErrors compiled.diagnostics then
      .error (.rejected unit.name compiled.diagnostics)
    else .ok compiled

/-- The artifact of one kind, if the kind applies to the schema. -/
def artifact? (unit : SchemaUnit) (schema : Schema) (profile : Profile) (kind : ArtifactKind) :
    Option Artifact :=
  (Artifact.body? schema profile kind).map (fun body =>
    { kind
      fileName := kind.fileName unit.name
      contents := Artifact.header kind unit.name unit.checksum ++ "\n" ++ body })

/-- All artifacts of a compiled unit. -/
def artifacts (unit : SchemaUnit) (compiled : Compiled) (profile : Profile) : List Artifact :=
  (ArtifactKind.forDialect compiled.schema.dialect).filterMap
    (unit.artifact? compiled.schema profile)

end SchemaUnit

end SchemaCompiler
