import SchemaCompiler.Schema.Flat
import SchemaCompiler.Value.Field

/-!
# Records

A record holds one value for each field of a record schema, in declaration order. It carries out
what the storage descriptor of the schema generates: the list of values, the assignments, the
assignments of the key, and the reading of a row. A row of the wrong length is refused before any
value of it is read.
-/

namespace SchemaCompiler

/-- Why a row or a value is refused. -/
inductive DecodeError where
  /-- The row has another number of values than the schema has fields. -/
  | fieldCount (expected actual : Nat)
  /-- The value is none of the field's type, or there is no such field. -/
  | invalidValue (field value : String)
deriving DecidableEq, Repr

/-- The sentence that tells the refusal. -/
def DecodeError.message : DecodeError → String
  | fieldCount expected actual =>
    "row has " ++ Decimal.ofNat actual ++ " values, expected " ++ Decimal.ofNat expected
  | invalidValue field value => "invalid value '" ++ value ++ "' for field '" ++ field ++ "'"

/-- The values of a record of some schema. -/
structure Record where
  /-- The record type. -/
  schema : FlatSchema
  /-- One value for each field, in order. -/
  values : List FieldValue
deriving DecidableEq, Repr

namespace Record

/-- The record in which every member has its initial value. -/
def new (schema : FlatSchema) : Record :=
  ⟨schema, schema.fields.map (fun f => .initial f.type.kind)⟩

/-- The fields with their values. -/
def pairs (r : Record) : List (Field × FieldValue) :=
  r.schema.fields.zip r.values

/-- The field of a name with its value. -/
def pair? (r : Record) (name : String) : Option (Field × FieldValue) :=
  r.pairs.find? (fun p => p.1.name == name)

/-- The value of a field. -/
def get? (r : Record) (name : String) : Option FieldValue :=
  (r.pair? name).map Prod.snd

/-- The value as a field stores it: a bounded text is cut to its capacity. -/
def stored (f : Field) (value : FieldValue) : FieldValue :=
  match value, f.type.capacity? with
  | .text s, some capacity => .text (Text.truncate capacity s)
  | v, _ => v

/-- The values with the one of the first field of a name replaced. -/
def replace (name : String) (value : FieldValue) : List Field → List FieldValue → List FieldValue
  | f :: fs, v :: vs =>
    if f.name == name then stored f value :: vs else v :: replace name value fs vs
  | _, vs => vs

/-- Assigns a value to a field in place: the record afterwards, and why the assignment was refused,
if it was. The value must fit the field's type. -/
def assign (r : Record) (name : String) (value : FieldValue) : Record × Option DecodeError :=
  match r.schema.field? name with
  | none => (r, some (.invalidValue name value.display))
  | some f =>
    if value.fits f.type.kind then
      ({ r with values := replace name value r.schema.fields r.values }, none)
    else (r, some (.invalidValue f.name value.display))

/-- The record after an assignment that is not refused. -/
def set (r : Record) (name : String) (value : FieldValue) : Except DecodeError Record :=
  match r.assign name value with
  | (r', none) => .ok r'
  | (_, some e) => .error e

/-- The values as they stand in a query, in declaration order. -/
def valueList (r : Record) : String :=
  ", ".intercalate (r.pairs.map (fun p => p.2.literal))

/-- The assignment of a value to the column of a field. -/
def assignment (p : Field × FieldValue) : String :=
  p.1.column ++ " = " ++ p.2.literal

/-- The assignments of all fields, in declaration order. -/
def assignmentList (r : Record) : String :=
  ", ".intercalate (r.pairs.map assignment)

/-- The assignments of the key fields, in key order. -/
def keyAssignments (r : Record) : String :=
  " AND ".intercalate ((r.schema.keys.filterMap r.pair?).map assignment)

/-- Reads the values of fields, each from its own text. -/
def readValues : List Field → List String → Except DecodeError (List FieldValue)
  | f :: fs, raw :: raws =>
    match FieldValue.read? f.type.kind raw with
    | none => .error (.invalidValue f.name raw)
    | some v =>
      match readValues fs raws with
      | .error e => .error e
      | .ok vs => .ok (v :: vs)
  | _, _ => .ok []

/-- The record of a row. -/
def ofRow (schema : FlatSchema) (row : List String) : Except DecodeError Record :=
  if row.length != schema.fields.length then
    .error (.fieldCount schema.fields.length row.length)
  else
    match readValues schema.fields row with
    | .error e => .error e
    | .ok values => .ok ⟨schema, values⟩

/-- The record as a row. -/
def toRow (r : Record) : List String :=
  r.values.map FieldValue.display

/-- Whether two records have equal values. -/
def same (r s : Record) : Bool :=
  r.values.length == s.values.length &&
    (r.values.zip s.values).all (fun p => p.1.same p.2)

end Record

end SchemaCompiler
