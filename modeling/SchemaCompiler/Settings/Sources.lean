import SchemaCompiler.Configuration
import SchemaCompiler.FileSystem
import SchemaCompiler.Settings.Layers
import SchemaCompiler.Toml.Marked

/-!
# Where configurations come from

A configuration is put together from several files, all of which may be missing but one that is
asked for, and from environment variables: files of the working directory, a file of the user, the
file that is asked for, and the variables. Later ones win.
-/

namespace SchemaCompiler.Configuration

/-- The files of the working directory. -/
def localFiles : List String :=
  ["schema-codegen.toml", ".schema-codegen.toml", "config/schema-codegen.toml"]

/-- The file of the user. -/
def userFile (home : String) : String :=
  Path.join home ".config/schema-codegen/schema-codegen.toml"

/-- The word that variables start with. -/
def variableWord : String := "SCHEMA_CODEGEN"

/-- The path from the root that a name stands for. -/
def fullPath (fs : FileSystem) (name : String) : String :=
  Path.join ("/" ++ "/".intercalate fs.here) name

/-- The files that a name may stand for: the one of that name, and the one with an extension
added. -/
def settingsFiles (fs : FileSystem) (name : String) : List String :=
  let path := fullPath fs name
  path :: (Path.addExtension? "toml" path).toList

/-- The file that a name stands for: the first one that is there. Its extension tells whether it is
one for settings. -/
def settingsFile? (fs : FileSystem) (name : String) : Option String :=
  ((settingsFiles fs name).find? fs.isFile).filter (fun path => Path.extension? path == some "toml")

/-- The layer of a file. A file that is not there or is no text is an empty layer, unless it is
asked for. -/
def fileLayer? (fs : FileSystem) (required : Bool) (name : String) :
    Option (List (String × Setting)) :=
  match (settingsFile? fs name).map fs.readText with
  | some (.ok s) =>
    match (Toml.read? s).bind Toml.unmark? with
    | some (.table pairs) => some pairs
    | _ => none
  | _ => if required then none else some []

/-- The layer of the user's file, which is looked for under its full name only. -/
def userLayer? (fs : FileSystem) (home : String) : Option (List (String × Setting)) :=
  if fs.has (userFile home) then fileLayer? fs false (userFile home) else some []

/-- The configuration of a working directory, a user and some variables, with a file that is asked
for. -/
def load? (fs : FileSystem) (home : String) (environment : List (String × String))
    (asked : Option String) : Option Configuration := do
  let shared ← localFiles.mapM (fileLayer? fs false)
  let own ← userLayer? fs home
  let explicit ← asked.toList.mapM (fileLayer? fs true)
  let layers := shared ++ [own] ++ explicit ++ [Settings.ofVariables variableWord environment]
  read? Settings.Rules.layered
    (layers.foldl (fun base layer => Settings.layOver layer base) (.table []))

end SchemaCompiler.Configuration
