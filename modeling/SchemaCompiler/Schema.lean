import SchemaCompiler.Dialect
import SchemaCompiler.Schema.Flat
import SchemaCompiler.Schema.Tree

/-!
# Schemas

A schema of either dialect, as the artifacts are made from it.
-/

namespace SchemaCompiler

/-- A schema of either dialect. -/
inductive Schema where
  /-- A record type. -/
  | flat (schema : FlatSchema)
  /-- A tree of element types. -/
  | tree (root : ElementType)

/-- The name of the unit: of the record, or the tag of the root. -/
def Schema.name : Schema → String
  | flat schema => schema.name
  | tree root => root.tag

/-- The dialect of a schema. -/
def Schema.dialect : Schema → Dialect
  | flat _ => .flat
  | tree _ => .tree

end SchemaCompiler
