import SchemaCompiler.Artifact.Layout
import SchemaCompiler.Profile
import SchemaCompiler.Schema.Flat
import SchemaCompiler.Text.Quoted

/-!
# Storage descriptors

The descriptor of a record tells a storage runtime its table, key, indexes and columns, and carries
four conversions: the values of a record, its assignments, the assignments of its key, and the
record of a row. Text and bytes are pushed quoted, other values as they are, with integers of eight
bits widened first. A row is measured before any value of it is read.
-/

namespace SchemaCompiler.Artifact

/-- The name of the descriptor type. -/
def descriptorName (m : FlatSchema) : String :=
  m.name ++ "Descriptor"

/-- The declared fields of each index; an index without any is skipped. -/
def indexFields (m : FlatSchema) : List (List Field) :=
  (m.indexes.map m.fieldsNamed).filter (fun fields => !fields.isEmpty)

/-- The columns of fields as string literals. -/
def quotedColumns (fields : List Field) : String :=
  ", ".intercalate (fields.map (fun f => Text.quote f.column))

/-- The value of a field of `object`, widened if it is narrow. -/
def valueOf (f : Field) : String :=
  let access := "object." ++ Name.memberIdent f.name
  match f.type.widen? with
  | some wide => wide.repr ++ "::from(" ++ access ++ ")"
  | none => access

/-- The statement that pushes the value of a field. -/
def pushValue (f : Field) : String :=
  if f.type.isQuoted then "query.push_quoted(&object." ++ Name.memberIdent f.name ++ ");"
  else "query.push_value(" ++ valueOf f ++ ");"

/-- The statement that pushes the assignment of a field to its column. -/
def pushAssign (f : Field) : String :=
  let column := Text.quote f.column
  if f.type.isQuoted then
    "query.push_assign_quoted(" ++ column ++ ", &object." ++ Name.memberIdent f.name ++ ");"
  else "query.push_assign(" ++ column ++ ", " ++ valueOf f ++ ");"

/-- The name of a parameter, marked as unused if there is nothing to use it for. -/
def parameter (name : String) (fields : List Field) : String :=
  if fields.isEmpty then "_" ++ name else name

/-- Statements with a separator between each two. -/
def separated (separator : Item) : List Item → List Item
  | [] => []
  | [item] => [item]
  | item :: rest => item :: separator :: separated separator rest

/-- A conversion that pushes one statement for each field. -/
def pushItems (function record separator : String) (fields : List Field)
    (push : Field → String) : List Item :=
  Item.block
    ("fn " ++ function ++ "(" ++ parameter "object" fields ++ ": &" ++ record ++ ", " ++
      parameter "query" fields ++ ": &mut Query) \x7b")
    (separated (.line ("query." ++ separator ++ "();")) (fields.map (fun f => .line (push f))))
    "\x7d"

/-- The statement that reads a field from its place in a row. -/
def readStatement (f : Field) (index : Nat) : String :=
  let target := "object." ++ Name.memberIdent f.name
  let i := Decimal.ofNat index
  match f.type.kind with
  | .fixedText _ => target ++ ".copy_truncated(row.text_ref(" ++ i ++ ")?);"
  | .text => target ++ " = row.text(" ++ i ++ ")?;"
  | .bytes => target ++ " = row.bytes(" ++ i ++ ")?;"
  | .int _ _ | .float _ | .bool => target ++ " = row.parse(" ++ i ++ ")?;"

/-- The conversion of a row. -/
def rowItems (record : String) (fields : List Field) : List Item :=
  Item.block
    ("fn row_to_object(row: &Row, " ++ parameter "object" fields ++ ": &mut " ++ record ++
      ") -> Result<(), DecodeError> \x7b")
    (Item.block "if row.len() != Self::COLUMNS.len() \x7b"
      (Item.block "return Err(DecodeError::FieldCount \x7b"
        [.line "expected: Self::COLUMNS.len(),", .line "actual: row.len(),"] "\x7d);")
      "\x7d" ++
    fields.zipIdx.map (fun p => .line (readStatement p.1 p.2)) ++
    [.line "Ok(())"])
    "\x7d"

/-- The line that declares a column. -/
def columnLine (f : Field) : Item :=
  .line ("Column::new(" ++ Text.quote f.column ++ ", " ++ Text.quote f.type.storage ++ "),")

/-- The storage descriptor of a record schema. -/
def descriptorItems (m : FlatSchema) (profile : Profile) : List Item :=
  [ .line ("use " ++ profile.storageRuntime ++
      "::\x7bColumn, DecodeError, Query, Row, StorageDescriptor\x7d;"),
    .line ("use " ++ profile.recordModuleFor m.name ++ "::" ++ m.name ++ ";"),
    .gap,
    .line ("/// Storage descriptor for [`" ++ m.name ++ "`]"),
    .line ("pub struct " ++ descriptorName m ++ ";"),
    .gap ] ++
  Item.block ("impl StorageDescriptor for " ++ descriptorName m ++ " \x7b")
    ([ .line ("type Object = " ++ m.name ++ ";"),
       .gap,
       .line ("const TABLE: &'static str = " ++ Text.quote m.table ++ ";"),
       .line ("const KEYS: &'static [&'static str] = &[" ++ quotedColumns m.keyFields ++ "];"),
       .line ("const INDEXES: &'static [&'static [&'static str]] = &[" ++
         ", ".intercalate
           ((indexFields m).map (fun fields => "&[" ++ quotedColumns fields ++ "]")) ++
         "];") ] ++
     Item.block "const COLUMNS: &'static [Column] = &[" (m.fields.map columnLine) "];" ++
     [.gap] ++ pushItems "object_to_query" m.name "push_separator" m.fields pushValue ++
     [.gap] ++ pushItems "pairs_to_query" m.name "push_separator" m.fields pushAssign ++
     [.gap] ++ pushItems "keys_to_query" m.name "push_key_separator" m.keyFields pushAssign ++
     [.gap] ++ rowItems m.name m.fields)
    "\x7d"

end SchemaCompiler.Artifact
