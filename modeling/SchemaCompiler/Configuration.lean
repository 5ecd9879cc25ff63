import SchemaCompiler.Artifact.Kind
import SchemaCompiler.Policy
import SchemaCompiler.Profile
import SchemaCompiler.Settings.Decoding
import SchemaCompiler.Toml.Reading
import SchemaCompiler.Toml.Writing

/-!
# Configurations

A configuration says which policy applies, where schemas are looked for, where each kind of artifact
goes, and how code is rendered. It is read from settings, where every part may be left out, and it
is written with all its parts.
-/

namespace SchemaCompiler

open Settings (Rules FieldReader)

/-- The directories that artifacts go to. -/
structure Directories where
  /-- For record types and for the glue between records and messages. -/
  record : String := "generated/src"
  /-- For storage descriptors. -/
  storage : String := "generated/src"
  /-- For table definitions. -/
  table : String := "generated/sql"
  /-- For message definitions. -/
  message : String := "generated/proto"
  /-- For marshalling procedures. -/
  marshal : String := "generated/src"
deriving DecidableEq, Repr

/-- The directory for a kind of artifact. -/
def Directories.of (d : Directories) : ArtifactKind → String
  | .record | .messageGlue => d.record
  | .storage => d.storage
  | .table => d.table
  | .message => d.message
  | .marshal => d.marshal

/-- A configuration. -/
structure Configuration where
  /-- The policy for faults of single members. -/
  policy : Policy := .lenient
  /-- The directory that is searched for schemas. -/
  inputDirectory : String := "schemas"
  /-- The directories for artifacts. -/
  output : Directories := {}
  /-- How code is rendered. -/
  profile : Profile := {}
deriving DecidableEq

/-! ### Reading -/

/-- The fields of `Directories`. -/
def Directories.fields (rules : Rules) : List (FieldReader Directories) :=
  [.of "record" (Settings.text? rules) (fun s d => { d with record := s }),
   .of "storage" (Settings.text? rules) (fun s d => { d with storage := s }),
   .of "ddl" (Settings.text? rules) (fun s d => { d with table := s }),
   .of "proto" (Settings.text? rules) (fun s d => { d with message := s }),
   .of "marshal" (Settings.text? rules) (fun s d => { d with marshal := s })]

/-- Directories from settings. -/
def Directories.read? (rules : Rules) (v : Setting) : Option Directories :=
  Settings.structure? rules (fields rules) {} v

/-- The choices of a map type. -/
def MapType.choices : List (String × MapType) :=
  [MapType.ordered, MapType.hashed].map (fun m => (m.label, m))

/-- The fields of a profile. -/
def Profile.fields (rules : Rules) : List (FieldReader Profile) :=
  [.of "storage_runtime" (Settings.text? rules) (fun s p => { p with storageRuntime := s }),
   .of "document_runtime" (Settings.text? rules) (fun s p => { p with documentRuntime := s }),
   .of "record_module" (Settings.text? rules) (fun s p => { p with recordModule := s }),
   .of "proto_module" (Settings.text? rules) (fun s p => { p with protoModule := s }),
   .of "proto_package" (Settings.text? rules) (fun s p => { p with protoPackage := s }),
   .of "map_container" (Settings.choice? rules MapType.choices)
     (fun m p => { p with mapType := m }),
   .of "derives" (Settings.texts? rules) (fun names p => { p with derives := names }),
   .of "table_options" (Settings.text? rules) (fun s p => { p with tableOptions := s })]

/-- A profile from settings. -/
def Profile.read? (rules : Rules) (v : Setting) : Option Profile :=
  Settings.structure? rules (fields rules) {} v

/-- A policy from settings. -/
def Policy.read? (rules : Rules) (v : Setting) : Option Policy :=
  Settings.choice? rules (Policy.all.map (fun p => (p.label, p))) v

namespace Configuration

/-- The fields of the part about input. -/
def inputFields (rules : Rules) : List (FieldReader String) :=
  [.of "dir" (Settings.text? rules) (fun s _ => s)]

/-- The fields of a configuration. -/
def fields (rules : Rules) : List (FieldReader Configuration) :=
  [.of "policy" (Policy.read? rules) (fun p c => { c with policy := p }),
   .of "input" (Settings.structure? rules (inputFields rules) "schemas")
     (fun s c => { c with inputDirectory := s }),
   .of "output" (Directories.read? rules) (fun d c => { c with output := d }),
   .of "render" (Profile.read? rules) (fun p c => { c with profile := p })]

/-- A configuration from settings. -/
def read? (rules : Rules) (v : Setting) : Option Configuration :=
  Settings.structure? rules (fields rules) {} v

/-- The configuration that a text stands for. -/
def ofToml? (s : String) : Option Configuration :=
  (Toml.read? s).bind (read? Rules.file)

/-! ### Writing -/

/-- The settings that directories are read from. -/
def directorySettings (d : Directories) : List (String × Setting) :=
  [("record", .text d.record), ("storage", .text d.storage), ("ddl", .text d.table),
   ("proto", .text d.message), ("marshal", .text d.marshal)]

/-- The settings that a profile is read from. -/
def profileSettings (p : Profile) : List (String × Setting) :=
  [("storage_runtime", .text p.storageRuntime), ("document_runtime", .text p.documentRuntime),
   ("record_module", .text p.recordModule), ("proto_module", .text p.protoModule),
   ("proto_package", .text p.protoPackage), ("map_container", .text p.mapType.label),
   ("derives", .list (p.derives.map Setting.text)), ("table_options", .text p.tableOptions)]

/-- The settings that a configuration is read from. -/
def settings (c : Configuration) : List (String × Setting) :=
  [("policy", .text c.policy.label), ("input", .table [("dir", .text c.inputDirectory)]),
   ("output", .table (directorySettings c.output)), ("render", .table (profileSettings c.profile))]

/-- The text that a configuration is saved as. -/
def toToml (c : Configuration) : String :=
  Toml.write c.settings

end Configuration

end SchemaCompiler
