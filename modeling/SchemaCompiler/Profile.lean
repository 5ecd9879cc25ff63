import SchemaCompiler.Name
import SchemaCompiler.Text.Lines

/-!
# Render profiles

The choices that shape generated code without changing what it does: where it imports its runtime
and its sibling artifacts from, which map type it uses, what types derive, and what stands after a
table. A module path may hold a place for the name of the unit.
-/

namespace SchemaCompiler

/-- The map type of generated code. -/
inductive MapType where
  /-- A map that iterates in key order. -/
  | ordered
  /-- A map that iterates in no particular order. -/
  | hashed
deriving DecidableEq, Repr

/-- The name of a map type in generated code. -/
def MapType.typeName : MapType → String
  | ordered => "BTreeMap"
  | hashed => "HashMap"

/-- The name of a map type in configuration. -/
def MapType.label : MapType → String
  | ordered => "b_tree_map"
  | hashed => "hash_map"

/-- The map type with a name in configuration. -/
def MapType.ofLabel? (label : String) : Option MapType :=
  if label == "b_tree_map" then some .ordered
  else if label == "hash_map" then some .hashed
  else none

/-- The choices that shape generated code. -/
structure Profile where
  /-- The module of the storage runtime. -/
  storageRuntime : String := "storage_runtime"
  /-- The module of the document runtime. -/
  documentRuntime : String := "document_runtime"
  /-- The module of a unit's record types, as seen from its other artifacts. -/
  recordModule : String := "super::\x7bunit\x7d"
  /-- The module of a unit's messages. -/
  protoModule : String := "crate::proto::\x7bunit\x7d"
  /-- The package of message definitions. -/
  protoPackage : String := "schema"
  /-- The map type. -/
  mapType : MapType := .ordered
  /-- The traits that record types derive. -/
  derives : List String := ["Debug", "Clone", "PartialEq"]
  /-- What stands after the columns of a table. -/
  tableOptions : String := "ENGINE=InnoDB DEFAULT CHARSET=utf8mb4"
deriving DecidableEq, Repr

namespace Profile

/-- A module path with the name of the unit in its place. -/
def expand (template unit : String) : String :=
  Text.replaceAll "\x7bunit\x7d" (Name.snakeCase unit) template

/-- The module of a unit's record types. -/
def recordModuleFor (p : Profile) (unit : String) : String :=
  expand p.recordModule unit

/-- The module of a unit's messages. -/
def protoModuleFor (p : Profile) (unit : String) : String :=
  expand p.protoModule unit

/-- The attribute that derives the traits, if there are any. -/
def deriveAttribute? (p : Profile) : Option String :=
  if p.derives.isEmpty then none
  else some ("#[derive(" ++ ", ".intercalate p.derives ++ ")]")

end Profile

end SchemaCompiler
