import SchemaCompiler.Artifact.Storage

/-!
# Table definitions

The statement that creates the table of a record: a line for each column in field order, the primary
key in key order, and a key for each index. Text and bytes of any length can only be indexed by how
they start.
-/

namespace SchemaCompiler.Artifact

/-- How much of an unbounded text or of bytes an index covers. -/
def indexedLength : Nat := 191

/-- A column as part of a key. -/
def keyPart (f : Field) : String :=
  match f.type.kind with
  | .text | .bytes => "`" ++ f.column ++ "`(" ++ Decimal.ofNat indexedLength ++ ")"
  | _ => "`" ++ f.column ++ "`"

/-- The columns of a key. -/
def keyParts (fields : List Field) : String :=
  ", ".intercalate (fields.map keyPart)

/-- The definition of a column. -/
def columnDefinition (f : Field) : String :=
  "  `" ++ f.column ++ "` " ++ f.type.storage

/-- The definition of the primary key, if there are key fields. -/
def primaryKeyDefinition (m : FlatSchema) : List String :=
  if m.keyFields.isEmpty then [] else ["  PRIMARY KEY (" ++ keyParts m.keyFields ++ ")"]

/-- The name of the key of an index. -/
def indexName (m : FlatSchema) (fields : List Field) : String :=
  "IDX_" ++ m.table ++ "_" ++ "_".intercalate (fields.map Field.column)

/-- The definition of the key of an index. -/
def indexDefinition (m : FlatSchema) (fields : List Field) : String :=
  "  KEY `" ++ indexName m fields ++ "` (" ++ keyParts fields ++ ")"

/-- The definitions between the parentheses of a table, in order. -/
def tableDefinitions (m : FlatSchema) : List String :=
  m.fields.map columnDefinition ++ primaryKeyDefinition m ++
    (indexFields m).map (indexDefinition m)

/-- The statement that creates the table of a record schema. -/
def tableStatement (m : FlatSchema) (profile : Profile) : String :=
  let options := Text.trim profile.tableOptions
  "CREATE TABLE IF NOT EXISTS `" ++ m.table ++ "` (\n" ++
    ",\n".intercalate (tableDefinitions m) ++ "\n" ++
    (if options.isEmpty then ");" else ") " ++ options ++ ";") ++ "\n"

end SchemaCompiler.Artifact
