import SchemaCompiler.Path
import SchemaCompiler.Text.Utf8

/-!
# File systems

A file system is a set of places, each a regular file or a directory, and a place where relative
paths start. A path is walked piece by piece, so it fails where a piece is missing or is a file with
something below it, also if a later piece leads up again.
-/

namespace SchemaCompiler

/-- What stands at a place. -/
inductive FileEntry where
  /-- A regular file with its bytes. -/
  | file (bytes : List UInt8)
  /-- A directory. -/
  | directory
deriving DecidableEq, Repr

/-- Why an operation on files fails. -/
inductive FileError where
  /-- Nothing stands there. -/
  | notFound
  /-- Something that is not a directory has a piece below it. -/
  | notDirectory
  /-- A directory stands where a file is wanted. -/
  | isDirectory
  /-- Something stands where nothing should. -/
  | alreadyExists
  /-- A name or a path is longer than a file system allows. -/
  | nameTooLong
  /-- A path holds a character that no path can hold. -/
  | invalidPath
  /-- The bytes of a file are no text. -/
  | notText
deriving DecidableEq, Repr

/-- The text of an error. -/
def FileError.message : FileError → String
  | notFound => "No such file or directory (os error 2)"
  | notDirectory => "Not a directory (os error 20)"
  | isDirectory => "Is a directory (os error 21)"
  | alreadyExists => "File exists (os error 17)"
  | nameTooLong => "File name too long (os error 36)"
  | invalidPath => "file name contained an unexpected NUL byte"
  | notText => "stream did not contain valid UTF-8"

/-- A place: the names from the root down. -/
abbrev Location := List String

/-- A file system. -/
structure FileSystem where
  /-- What stands where. The root and what lies above the working directory are directories in any
  case. -/
  entries : List (Location × FileEntry) := []
  /-- The working directory. -/
  here : Location := []

namespace FileSystem

/-- What stands at a place. -/
def entry? (fs : FileSystem) (place : Location) : Option FileEntry :=
  if place.isPrefixOf fs.here then some .directory else fs.entries.lookup place

/-- Replaces what stands at a place, or adds it. -/
def putEntry (place : Location) (entry : FileEntry) :
    List (Location × FileEntry) → List (Location × FileEntry)
  | [] => [(place, entry)]
  | p :: rest => if p.1 == place then (place, entry) :: rest else p :: putEntry place entry rest

/-- Lets something stand at a place. -/
def put (fs : FileSystem) (place : Location) (entry : FileEntry) : FileSystem :=
  { fs with entries := putEntry place entry fs.entries }

/-! ### Walking -/

/-- The greatest number of bytes of a name. -/
def maxNameLength : Nat := 255

/-- The place that one piece leads to from a directory. -/
def step (place : Location) (piece : String) : Except FileError Location :=
  if piece == "." then .ok place
  else if piece == ".." then .ok place.dropLast
  else if maxNameLength < Text.byteLength piece.toList then .error .nameTooLong
  else .ok (place ++ [piece])

/-- The place that pieces lead to. What lies before the last piece must be directories; the last
place may be empty. -/
def walk (fs : FileSystem) (place : Location) : List String → Except FileError Location
  | [] => .ok place
  | piece :: rest =>
    match fs.entry? place with
    | none => .error .notFound
    | some (.file _) => .error .notDirectory
    | some .directory =>
      match step place piece with
      | .error e => .error e
      | .ok next => fs.walk next rest

/-- The greatest number of bytes of a path. -/
def maxPathLength : Nat := 4095

/-- Whether a path has more bytes than a file system allows. -/
def isTooLong (path : String) : Bool :=
  maxPathLength < Text.byteLength path.toList

/-- The place that a path leads to. -/
def locate (fs : FileSystem) (path : String) : Except FileError Location :=
  if path.isEmpty then .error .notFound
  else if path.toList.contains '\x00' then .error .invalidPath
  else if isTooLong path then .error .nameTooLong
  else fs.walk (if Path.isAbsolute path then [] else fs.here) (Path.pieces path)

/-- What a path leads to. -/
def find (fs : FileSystem) (path : String) : Except FileError FileEntry :=
  match fs.locate path with
  | .error e => .error e
  | .ok place =>
    match fs.entry? place with
    | none => .error .notFound
    | some .directory => .ok .directory
    | some (.file bytes) =>
      if Path.endsInSlash path then .error .notDirectory else .ok (.file bytes)

/-- Whether a path leads to a directory. -/
def isDirectory (fs : FileSystem) (path : String) : Bool :=
  match fs.find path with
  | .ok .directory => true
  | _ => false

/-- Whether a path leads to a regular file. -/
def isFile (fs : FileSystem) (path : String) : Bool :=
  match fs.find path with
  | .ok (.file _) => true
  | _ => false

/-- Whether a path leads to anything. -/
def has (fs : FileSystem) (path : String) : Bool :=
  match fs.find path with
  | .ok _ => true
  | .error _ => false

/-! ### Files -/

/-- The bytes of a file. -/
def read (fs : FileSystem) (path : String) : Except FileError (List UInt8) :=
  match fs.find path with
  | .error e => .error e
  | .ok .directory => .error .isDirectory
  | .ok (.file bytes) => .ok bytes

/-- The text of a file. -/
def readText (fs : FileSystem) (path : String) : Except FileError String :=
  match fs.read path with
  | .error e => .error e
  | .ok bytes =>
    match Text.decode? bytes with
    | some s => .ok s
    | none => .error .notText

/-- Writes a file, new or in place of an old one. -/
def write (fs : FileSystem) (path : String) (bytes : List UInt8) : Except FileError FileSystem :=
  match fs.locate path with
  | .error e => .error e
  | .ok place =>
    match fs.entry? place with
    | some .directory => .error .isDirectory
    | some (.file _) =>
      if Path.endsInSlash path then .error .notDirectory else .ok (fs.put place (.file bytes))
    | none =>
      if Path.endsInSlash path then .error .isDirectory else .ok (fs.put place (.file bytes))

/-! ### Directories -/

/-- Makes one directory. -/
def makeDirectory (fs : FileSystem) (path : String) : Except FileError FileSystem :=
  match fs.locate path with
  | .error e => .error e
  | .ok place =>
    match fs.entry? place with
    | some _ => .error .alreadyExists
    | none => .ok (fs.put place .directory)

/-- Makes the first directory of a list, after those that follow it if they are missing. Returns the
file system in any case, since a failure may come after some directories were made. -/
def makeChain (fs : FileSystem) : List String → FileSystem × Option FileError
  | [] => (fs, some .notFound)
  | path :: outer =>
    if path.isEmpty then (fs, none)
    else
      match fs.makeDirectory path with
      | .ok made => (made, none)
      | .error .notFound =>
        match fs.makeChain outer with
        | (fs, some e) => (fs, some e)
        | (fs, none) =>
          match fs.makeDirectory path with
          | .ok made => (made, none)
          | .error e => (fs, if fs.isDirectory path then none else some e)
      | .error e => (fs, if fs.isDirectory path then none else some e)

/-- Makes a directory and those that it lies in. -/
def makeDirectories (fs : FileSystem) (path : String) : FileSystem × Option FileError :=
  fs.makeChain (Path.ancestors path)

/-! ### Listing -/

/-- The places of all regular files. -/
def files (fs : FileSystem) : List (Location × List UInt8) :=
  fs.entries.filterMap (fun p =>
    match p.2 with
    | .file bytes => some (p.1, bytes)
    | .directory => none)

/-- The names of regular files at or below a place, each as the names that lead to it from
there. -/
def filesBelow (fs : FileSystem) (place : Location) : List (List String) :=
  fs.files.filterMap (fun p =>
    if place.isPrefixOf p.1 then some (p.1.drop place.length) else none)

/-- The paths of the regular files that lie at or below a path. A directory whose path is too long
is not looked into. -/
def filesUnder (fs : FileSystem) (path : String) : List String :=
  match fs.find path, fs.locate path with
  | .ok _, .ok place =>
    let seen := (fs.filesBelow place).filter (fun names =>
      !isTooLong (names.dropLast.foldl Path.join path))
    seen.map (fun names => names.foldl Path.join path)
  | _, _ => []

/-- Removes what a path leads to, with all that lies below it. -/
def remove (fs : FileSystem) (path : String) : FileSystem :=
  match fs.locate path with
  | .ok place => { fs with entries := fs.entries.filter (fun p => !place.isPrefixOf p.1) }
  | .error _ => fs

end FileSystem

end SchemaCompiler
