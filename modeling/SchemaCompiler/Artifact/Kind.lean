import SchemaCompiler.Dialect
import SchemaCompiler.Name

/-!
# Kinds of artifacts

From one schema come several files. Each kind applies to one dialect or to both, has a file name
made from the name of the unit, and belongs to a language with its own line comments.
-/

namespace SchemaCompiler

/-- A kind of generated file. -/
inductive ArtifactKind where
  /-- The record types. -/
  | record
  /-- The storage descriptor of a record. -/
  | storage
  /-- The definition of the table that stores a record. -/
  | table
  /-- The definition of the message that carries a record. -/
  | message
  /-- The conversions between a record and its message. -/
  | messageGlue
  /-- The reading and writing of a tree. -/
  | marshal
deriving DecidableEq, Repr

namespace ArtifactKind

/-- All kinds, in the order in which they are made. -/
def all : List ArtifactKind :=
  [record, storage, table, message, messageGlue, marshal]

/-- The word for a kind. -/
def label : ArtifactKind → String
  | record => "record"
  | storage => "storage_descriptor"
  | table => "table_ddl"
  | message => "proto_schema"
  | messageGlue => "proto_glue"
  | marshal => "tree_marshal"

/-- The kind that a word stands for. -/
def ofLabel? (label : String) : Option ArtifactKind :=
  all.find? (fun kind => kind.label == label)

/-- Whether a kind is made from schemas of a dialect. -/
def appliesTo : ArtifactKind → Dialect → Bool
  | record, _ => true
  | marshal, dialect => dialect == .tree
  | _, dialect => dialect == .flat

/-- The kinds that are made from schemas of a dialect. -/
def forDialect (dialect : Dialect) : List ArtifactKind :=
  all.filter (fun kind => kind.appliesTo dialect)

/-- What follows the name of the unit in the file name. -/
def fileSuffix : ArtifactKind → String
  | record => ".rs"
  | storage => "_storage.rs"
  | table => ".sql"
  | message => ".proto"
  | messageGlue => "_proto.rs"
  | marshal => "_marshal.rs"

/-- The file name for a unit. -/
def fileName (kind : ArtifactKind) (unit : String) : String :=
  Name.snakeCase unit ++ kind.fileSuffix

/-- What starts a line comment. -/
def commentMark : ArtifactKind → String
  | table => "--"
  | _ => "//"

end ArtifactKind

end SchemaCompiler
