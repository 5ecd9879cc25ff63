/-!
# Dialects

A schema is either a tree of element types, written as markup, or a list of record types, written
as mappings of entries.
-/

namespace SchemaCompiler

/-- The two ways to write a schema. -/
inductive Dialect where
  /-- Element types, one nested in another. -/
  | tree
  /-- Record types, each a list of fields. -/
  | flat
deriving DecidableEq, Repr

/-- The word for a dialect. -/
def Dialect.label : Dialect → String
  | tree => "tree"
  | flat => "flat"

end SchemaCompiler
