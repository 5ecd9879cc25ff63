import SchemaCompiler.Compilation
import SchemaCompiler.Configuration
import SchemaCompiler.Difference.Unified
import SchemaCompiler.FileSystem

/-!
# Artifacts on disk

Artifacts are written to the directories of a configuration, or they are compared with what stands
there. Writing tries every artifact and tells for each how it went. Comparing stops at the first
file that cannot be read; a file that is not there is no such case but a drift of its own.
-/

namespace SchemaCompiler

/-- A failure at the file of an artifact. -/
structure ArtifactError where
  /-- The path of the file. -/
  path : String
  /-- What went wrong. -/
  cause : FileError
deriving DecidableEq, Repr

/-- The text of the error. -/
def ArtifactError.message (e : ArtifactError) : String :=
  "cannot write artifact " ++ e.path ++ ": " ++ e.cause.message

/-- The path that an artifact belongs at. -/
def Artifact.path (a : Artifact) (directories : Directories) : String :=
  Path.join (directories.of a.kind) a.fileName

/-! ### Writing -/

/-- How the writing of an artifact went. -/
structure WriteOutcome where
  /-- The kind of the artifact. -/
  kind : ArtifactKind
  /-- The path that it belongs at. -/
  path : String
  /-- What went wrong, if something did. -/
  failure : Option FileError
deriving DecidableEq, Repr

/-- The error of an outcome. -/
def WriteOutcome.error? (o : WriteOutcome) : Option ArtifactError :=
  o.failure.map (fun cause => ⟨o.path, cause⟩)

namespace FileSystem

/-- Writes a file into a directory that is made if need be. -/
def writeInto (fs : FileSystem) (directory path : String) (bytes : List UInt8) :
    FileSystem × Option FileError :=
  match fs.makeDirectories directory with
  | (fs, some e) => (fs, some e)
  | (fs, none) =>
    match fs.write path bytes with
    | .ok written => (written, none)
    | .error e => (fs, some e)

/-- Writes one artifact. -/
def writeArtifact (fs : FileSystem) (directories : Directories) (a : Artifact) :
    FileSystem × WriteOutcome :=
  let path := a.path directories
  let (fs, failure) := fs.writeInto (directories.of a.kind) path (Text.encode a.contents)
  (fs, { kind := a.kind, path, failure })

/-- Writes artifacts one after another. -/
def writeArtifacts (fs : FileSystem) (directories : Directories) :
    List Artifact → FileSystem × List WriteOutcome
  | [] => (fs, [])
  | a :: rest =>
    let (fs, outcome) := fs.writeArtifact directories a
    let (fs, outcomes) := fs.writeArtifacts directories rest
    (fs, outcome :: outcomes)

end FileSystem

/-! ### Comparing -/

/-- How a file differs from its artifact. -/
inductive Drift where
  /-- There is no file. -/
  | missing (path : String)
  /-- The file has other contents; the difference leads from the file to the artifact. -/
  | changed (path difference : String)
deriving DecidableEq, Repr

/-- The path of the file. -/
def Drift.path : Drift → String
  | missing path => path
  | changed path _ => path

namespace FileSystem

/-- How the file of an artifact differs from it, if it does. -/
def driftOf (fs : FileSystem) (directories : Directories) (a : Artifact) :
    Except ArtifactError (Option Drift) :=
  let path := a.path directories
  match fs.readText path with
  | .error .notFound => .ok (some (.missing path))
  | .error cause => .error ⟨path, cause⟩
  | .ok found =>
    if found == a.contents then .ok none
    else .ok (some (.changed path (Difference.unified path "rendered" found a.contents)))

/-- All drifts of some artifacts. -/
def drifts (fs : FileSystem) (directories : Directories) :
    List Artifact → Except ArtifactError (List Drift)
  | [] => .ok []
  | a :: rest =>
    match fs.driftOf directories a with
    | .error e => .error e
    | .ok drift =>
      match fs.drifts directories rest with
      | .error e => .error e
      | .ok drifts => .ok (drift.toList ++ drifts)

end FileSystem

end SchemaCompiler
