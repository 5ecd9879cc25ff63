import SchemaCompiler.FileSystem
import SchemaCompiler.Unit

/-!
# Schema files

The units of a file. The dialect is told by the extension, before the file is looked at.
-/

namespace SchemaCompiler

/-- Why the units of a file cannot be had. -/
inductive LoadError where
  /-- The extension belongs to no dialect. -/
  | unknownExtension (path : String)
  /-- The file cannot be read. -/
  | file (cause : FileError)
  /-- The text cannot be read. -/
  | source (cause : SourceError)
deriving DecidableEq, Repr

/-- The text of an error in a source. -/
def SourceError.message : SourceError → String
  | markup => "XML error"
  | mapping => "YAML error"
  | document reason => "invalid schema document: " ++ reason

/-- The text of the error. -/
def LoadError.message : LoadError → String
  | unknownExtension path =>
    "invalid schema document: " ++ path ++ ": unknown schema file extension"
  | file cause => "IO error: " ++ cause.message
  | source cause => cause.message

/-- The units of a file. -/
def FileSystem.units (fs : FileSystem) (path : String) : Except LoadError (List SchemaUnit) :=
  match Path.dialect? path with
  | none => .error (.unknownExtension path)
  | some dialect =>
    match fs.readText path with
    | .error cause => .error (.file cause)
    | .ok text => (SchemaUnit.ofText dialect text).mapError LoadError.source

/-- The schema files at or below a path, in the order of their paths. -/
def FileSystem.schemaFiles (fs : FileSystem) (path : String) : List String :=
  ((fs.filesUnder path).filter (fun file => (Path.dialect? file).isSome)).mergeSort Path.precedes

end SchemaCompiler
