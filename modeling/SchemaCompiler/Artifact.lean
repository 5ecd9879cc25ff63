import SchemaCompiler.Artifact.Header
import SchemaCompiler.Artifact.Marshal
import SchemaCompiler.Artifact.Message
import SchemaCompiler.Artifact.Record
import SchemaCompiler.Artifact.Table
import SchemaCompiler.Schema

/-!
# Artifacts

The body of each kind of artifact that a schema has. All of them are items laid out on a page
(`SchemaCompiler.Artifact.items?`), except for the table of a record, which is one statement.
-/

namespace SchemaCompiler.Artifact

/-- The body of an artifact of a record schema. -/
def flatBody? (m : FlatSchema) (profile : Profile) : ArtifactKind → Option String
  | .record => some (Item.render (recordItems m profile))
  | .storage => some (Item.render (descriptorItems m profile))
  | .table => some (tableStatement m profile)
  | .message => some (Item.render (messageItems m profile))
  | .messageGlue => some (Item.render (messageGlueItems m profile))
  | .marshal => none

/-- The body of an artifact of a tree schema. -/
def treeBody? (root : ElementType) (profile : Profile) : ArtifactKind → Option String
  | .record => some (Item.render (treeItems root profile))
  | .marshal => some (Item.render (marshalItems root profile))
  | _ => none

/-- The body of an artifact, if its kind applies to the dialect of the schema. -/
def body? (schema : Schema) (profile : Profile) (kind : ArtifactKind) : Option String :=
  match schema with
  | .flat m => flatBody? m profile kind
  | .tree root => treeBody? root profile kind

/-- The items of an artifact, if its kind applies to the dialect and is laid out on a page. -/
def items? (schema : Schema) (profile : Profile) (kind : ArtifactKind) : Option (List Item) :=
  match schema, kind with
  | .flat m, .record => some (recordItems m profile)
  | .flat m, .storage => some (descriptorItems m profile)
  | .flat m, .message => some (messageItems m profile)
  | .flat m, .messageGlue => some (messageGlueItems m profile)
  | .tree root, .record => some (treeItems root profile)
  | .tree root, .marshal => some (marshalItems root profile)
  | _, _ => none

/-- The body of an artifact is made of its items. -/
theorem body?_of_items? {schema : Schema} {profile : Profile} {kind : ArtifactKind}
    {items : List Item} (h : items? schema profile kind = some items) :
    body? schema profile kind = some (Item.render items) := by
  cases schema <;> cases kind <;> cases h <;> rfl

/-- What is said when a kind does not apply to a dialect. -/
def unsupportedMessage (kind : ArtifactKind) (dialect : Dialect) : String :=
  "artifact '" ++ kind.label ++ "' does not apply to " ++ dialect.label ++ " schemas"

end SchemaCompiler.Artifact
