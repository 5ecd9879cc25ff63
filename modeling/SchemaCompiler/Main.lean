import SchemaCompiler.Command

/-!
# The command line

The only module that touches the machine. It takes a picture of what a run can look at, lets the run
happen on the picture, and then makes the machine agree with the picture that the run leaves.

The picture grows in steps, since each step says what the next one needs: the files with settings
tell the input directory, the schema files tell which artifacts there are.
-/

namespace SchemaCompiler.Command

/-- The path of a place. -/
def machinePath (place : Location) : String :=
  "/" ++ "/".intercalate place

/-- Adds what stands at a place to a picture. -/
def seePlace (fs : FileSystem) (place : Location) : IO FileSystem := do
  let path := (← IO.currentDir) / machinePath place
  if ← path.isDir then
    return fs.put place .directory
  else if ← path.pathExists then
    return fs.put place (.file (← IO.FS.readBinFile path).toList)
  else
    return fs

/-- Adds the places that pieces lead through to a picture. -/
def seePieces (fs : FileSystem) (place : Location) : List String → IO FileSystem
  | [] => return fs
  | piece :: rest =>
    match FileSystem.step place piece with
    | .error _ => return fs
    | .ok next => do seePieces (← seePlace fs next) next rest

/-- Adds what a path leads through to a picture. -/
def seePath (fs : FileSystem) (path : String) : IO FileSystem :=
  seePieces fs (if Path.isAbsolute path then [] else fs.here) (Path.pieces path)

/-- Adds what paths lead through to a picture. -/
def seePaths (fs : FileSystem) (paths : List String) : IO FileSystem :=
  paths.foldlM seePath fs

/-- Adds a path and the directories and schema files below it to a picture. -/
partial def seeSchemas (fs : FileSystem) (path : String) : IO FileSystem := do
  let fs ← seePath fs path
  let directory := (← IO.currentDir) / path
  if ← directory.isDir then
    (← directory.readDir).foldlM
      (fun fs entry => do
        let below := Path.join path entry.fileName
        if (Path.dialect? below).isSome || (← entry.path.isDir) then seeSchemas fs below
        else return fs)
      fs
  else
    return fs

/-- The environment variables, as far as they can be had. -/
def readEnvironment : IO (List (String × String)) := do
  let bytes ← (IO.FS.readBinFile "/proc/self/environ").catchExceptions (fun _ => return .empty)
  let entries := (Text.decodeLossy bytes.toList).splitOn "\x00"
  return entries.filterMap (fun entry =>
    match entry.splitOn "=" with
    | name :: value@(_ :: _) => some (name, "=".intercalate value)
    | _ => none)

/-- Makes the machine agree with what a run has changed. -/
def carryOut (before after : FileSystem) : IO Unit := do
  for (place, entry) in after.entries do
    if before.entry? place != some entry then
      match entry with
      | .directory => IO.FS.createDirAll (machinePath place)
      | .file bytes => IO.FS.writeBinFile (machinePath place) (ByteArray.mk bytes.toArray)

/-- The picture for a run with options. -/
def picture (o : Options) (s : Surroundings) : IO FileSystem := do
  let names := Configuration.localFiles ++ [Configuration.userFile s.home] ++ o.config.toList
  let fs ← seePaths s.files (names.flatMap (Configuration.settingsFiles s.files))
  match Configuration.load? fs s.home s.environment o.config with
  | none => return fs
  | some loaded =>
    let c := configured o loaded
    let fs ← if o.files.isEmpty then seeSchemas fs c.inputDirectory else seePaths fs o.files
    seePaths fs (targets o c fs)

end SchemaCompiler.Command

open SchemaCompiler Command in
/-- Runs the command line. -/
def main (arguments : List String) : IO UInt32 := do
  match Options.read? arguments with
  | none =>
    IO.eprintln "error: invalid arguments"
    return 2
  | some o =>
    let environment ← readEnvironment
    let here := Path.pieces (← IO.currentDir).toString
    let s : Surroundings :=
      { files := { here }, home := (environment.lookup "HOME").getD "/", environment }
    let files ← picture o s
    let outcome := runWith o { s with files }
    carryOut files outcome.files
    IO.print outcome.output
    IO.eprint outcome.errors
    return UInt32.ofNat outcome.exitCode
