import SchemaCompiler.Diagnostic
import SchemaCompiler.FlatUnit
import SchemaCompiler.Primitive
import SchemaCompiler.Text.CaseMap

/-!
# Flat schemas

A flat schema is a record type: fields in declaration order, the primary key, secondary indexes.
It is built from a flat unit entry by entry. An entry that is no good is recorded and dropped, and
the others go on; keys and indexes may name any field, declared before or after them, so whether
the names exist is settled at the end, by `FlatSchema.undeclared?`.
-/

namespace SchemaCompiler

/-- A declared field. -/
structure Field where
  /-- The name in the schema. -/
  name : String
  /-- The type of its values. -/
  type : Primitive
  /-- The capacity of a bounded text. -/
  size : Option Nat
  /-- What the schema says about it. -/
  comment : Option String
deriving DecidableEq, Repr

/-- The name of the table column that stores a field. -/
def Field.column (f : Field) : String :=
  Text.toUppercase f.name

/-- A record type. -/
structure FlatSchema where
  /-- The name of the unit. -/
  name : String
  /-- The fields in declaration order. -/
  fields : List Field := []
  /-- The names of the key fields in key order. -/
  keys : List String := []
  /-- The names of the fields of each index. -/
  indexes : List (List String) := []
  /-- What the schema says about the record. -/
  comment : Option String := none
deriving DecidableEq, Repr

namespace FlatSchema

/-- The field of a name. -/
def field? (m : FlatSchema) (name : String) : Option Field :=
  m.fields.find? (fun f => f.name == name)

/-- The fields that exist among the names. -/
def fieldsNamed (m : FlatSchema) (names : List String) : List Field :=
  names.filterMap m.field?

/-- The key fields in key order. -/
def keyFields (m : FlatSchema) : List Field :=
  m.fieldsNamed m.keys

/-- The name of the table that stores the records. -/
def table (m : FlatSchema) : String :=
  Text.toUppercase m.name

/-- The name of a directive's list in messages. -/
def listName (m : FlatSchema) (directive : String) : String :=
  directive ++ " of '" ++ m.name ++ "'"

/-- The names that keys and indexes use, each with the directive of its list. -/
def references (m : FlatSchema) : List (String × String) :=
  m.keys.map (fun name => ("$key", name)) ++
    m.indexes.flatMap (fun index => index.map (fun name => ("$index", name)))

/-- The first name of a key or index that is no field, as a fault. -/
def undeclared? (m : FlatSchema) : Option SchemaFault :=
  (m.references.find? (fun r => (m.field? r.2).isNone)).map
    (fun r => .undeclaredField (m.listName r.1) r.2)

/-! ### Fields -/

/-- What an entry says about a field before its type is resolved. -/
structure Declaration where
  /-- The type name, without blanks and with the size of a bounded text. -/
  typeName : String
  /-- What the entry says about the field. -/
  comment : Option String
  /-- Whether the field declares itself a key. -/
  isKey : Bool

/-- The type name that a field resolves: `char` takes its capacity from the size. -/
def effectiveType (typeName : String) (size : Option Nat) : String :=
  let name := Text.trim typeName
  match size with
  | some width => if name == "char" then "char" ++ Decimal.ofNat width else name
  | none => name

/-- The size that a mapping gives, if it gives one; a fault if it is no number. -/
def readSize (element : String) : Option String → Except SchemaFault (Option Nat)
  | none => .ok none
  | some raw =>
    match Decimal.naturalUpTo? Decimal.maxWord (Text.trim raw) with
    | some n => .ok (some n)
    | none =>
      .error (.malformedEntry element ("size '" ++ raw ++ "' is not a positive integer"))

/-- Reads the value of a field entry. -/
def readDeclaration (element : String) (value : EntryValue) : Except SchemaFault Declaration :=
  match value with
  | .scalar typeName => .ok ⟨effectiveType typeName none, none, false⟩
  | .list _ =>
    .error (.malformedEntry element "a field must be a type name or an attribute map")
  | .malformed reason => .error (.malformedEntry element reason)
  | .mapping _ =>
    match value.get? "type" with
    | none => .error (.malformedEntry element "field attributes have no 'type'")
    | some typeName =>
      match readSize element (value.get? "size") with
      | .error fault => .error fault
      | .ok size =>
        .ok ⟨effectiveType typeName size, value.get? "comment",
          value.get? "primary_key" == some "true"⟩

/-- Reads a field entry of a unit: the field, and whether it is a key. -/
def readField (unit : String) (entry : Entry) : Except SchemaFault (Field × Bool) :=
  let element := unit ++ "." ++ entry.key
  match readDeclaration element entry.value with
  | .error fault => .error fault
  | .ok d =>
    match Primitive.resolve? d.typeName with
    | none => .error (.unresolvedType element d.typeName (Primitive.suggest? d.typeName))
    | some type => .ok (⟨entry.key, type, type.capacity?, d.comment⟩, d.isKey)

/-! ### Building -/

/-- A schema under construction with the diagnostics so far. -/
structure Build where
  /-- What the entries so far declare. -/
  schema : FlatSchema
  /-- What was wrong with them, in order. -/
  diagnostics : List Diagnostic := []

namespace Build

/-- Records a fault. -/
def report (b : Build) (fault : SchemaFault) : Build :=
  { b with diagnostics := b.diagnostics ++ [.of b.schema.name fault] }

/-- Adds a key field; one that is listed already keeps its first place. -/
def addKey (b : Build) (name : String) : Build :=
  if b.schema.keys.contains name then
    b.report (.duplicateKeyField (b.schema.listName "$key") name)
  else { b with schema := { b.schema with keys := b.schema.keys ++ [name] } }

/-- The names without repetitions, each at its first place, and the names that repeat. -/
def distinct : List String → List String → List String × List String
  | _, [] => ([], [])
  | seen, name :: rest =>
    if seen.contains name then
      let (kept, repeated) := distinct seen rest
      (kept, name :: repeated)
    else
      let (kept, repeated) := distinct (name :: seen) rest
      (name :: kept, repeated)

/-- Adds an index; a field that it lists again keeps its first place, and an index of no fields is
a fault. -/
def addIndex (b : Build) (names : List String) : Build :=
  let (kept, repeated) := distinct [] names
  let reported := repeated.foldl
    (fun b name => b.report (.duplicateKeyField (b.schema.listName "$index") name)) b
  if kept.isEmpty then
    reported.report (.malformedEntry "$index" "an index needs at least one field")
  else
    { reported with
      schema := { reported.schema with indexes := reported.schema.indexes ++ [kept] } }

/-- Carries out a directive. -/
def applyDirective (b : Build) (entry : Entry) : Build :=
  if entry.key == "$comment" then
    match entry.value with
    | .scalar text => { b with schema := { b.schema with comment := some text } }
    | _ => malformed
  else if entry.key == "$key" then
    match entry.value with
    | .scalar name => b.addKey name
    | .list names => names.foldl addKey b
    | _ => malformed
  else if entry.key == "$index" then
    match entry.value with
    | .scalar name => b.addIndex [name]
    | .list names => b.addIndex names
    | _ => malformed
  else b.report (.unknownDirective entry.key)
where
  /-- The fault of a directive whose value has no meaning for it. -/
  malformed : Build :=
    b.report (.malformedEntry entry.key "unexpected value shape for directive")

/-- Adds a field; a second one of the same name is a fault. -/
def addField (b : Build) (field : Field) (isKey : Bool) : Build :=
  if b.schema.fields.any (fun f => f.name == field.name) then
    b.report (.duplicateMember b.schema.name field.name)
  else
    let keyed := if isKey then b.addKey field.name else b
    { keyed with schema := { keyed.schema with fields := keyed.schema.fields ++ [field] } }

/-- Whether an entry is a directive. -/
def isDirective (entry : Entry) : Bool :=
  entry.key.toList.head? == some '$'

/-- Takes in one entry. -/
def step (b : Build) (entry : Entry) : Build :=
  if isDirective entry then b.applyDirective entry
  else
    match readField b.schema.name entry with
    | .error fault => b.report fault
    | .ok (field, isKey) => b.addField field isKey

end Build

/-- The schema of a flat unit, and what was wrong with its entries. -/
def build (unit : FlatUnit) : Build :=
  unit.entries.foldl Build.step { schema := { name := unit.name } }

end FlatSchema

end SchemaCompiler
