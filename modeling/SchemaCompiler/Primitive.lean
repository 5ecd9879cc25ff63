import SchemaCompiler.Decimal.Integer
import SchemaCompiler.Similarity
import SchemaCompiler.Text.Blank
import SchemaCompiler.Text.Lines

/-!
# Primitive types

Every field and attribute of a schema has a primitive type, written by name. A type says how its
values are held in memory, how they travel in a message, how a table stores them, and which literal
a fresh member starts from; its kind says what the values are, and all decisions about quoting,
widening and reading go by the kind.

The registry lists the types with a fixed name. Beside them stands the family of bounded texts,
`char` followed by a capacity in bytes. Those two rules are the whole grammar of type names.
-/

namespace SchemaCompiler

/-- What the values of a primitive type are. -/
inductive Kind where
  /-- Integers of a number of bits. -/
  | int (bits : Nat) (signed : Bool)
  /-- Floating-point numbers of a number of bits. -/
  | float (bits : Nat)
  /-- Truth values. -/
  | bool
  /-- Text of any length. -/
  | text
  /-- Bytes of any length. -/
  | bytes
  /-- Text of at most `capacity` bytes. -/
  | fixedText (capacity : Nat)
deriving DecidableEq, Repr

/-- A primitive type with the words that the artifacts use for it. -/
structure Primitive where
  /-- The name in schemas. -/
  name : String
  /-- What its values are. -/
  kind : Kind
  /-- The type of a member that holds a value. -/
  repr : String
  /-- The type of a message field that carries a value. -/
  wire : String
  /-- The definition of a table column that stores a value. -/
  storage : String
  /-- The literal that a fresh member starts from. -/
  initial : String
deriving DecidableEq, Repr

namespace Primitive

/-- The type of signed or unsigned integers with the given words. -/
def integer (name : String) (bits : Nat) (signed : Bool) (repr wire column : String) : Primitive :=
  { name, kind := .int bits signed, repr, wire
    storage := column ++ (if signed then "" else " unsigned") ++ " NOT NULL default '0'"
    initial := "0" }

/-- A type of variable-length bytes with the given column type. -/
def blob (name column : String) : Primitive :=
  { name, kind := .bytes, repr := "Vec<u8>", wire := "bytes", storage := column
    initial := "Vec::new()" }

/-- The types with a fixed name, in the order in which they are listed and suggested. -/
def registry : List Primitive :=
  [ integer "int8" 8 true "i8" "int32" "tinyint(3)",
    integer "uint8" 8 false "u8" "uint32" "tinyint(3)",
    integer "int16" 16 true "i16" "int32" "smallint(5)",
    integer "uint16" 16 false "u16" "uint32" "smallint(5)",
    integer "int32" 32 true "i32" "int32" "int(10)",
    integer "uint32" 32 false "u32" "uint32" "int(10)",
    integer "int" 32 true "i32" "int32" "int(10)",
    integer "uint" 32 false "u32" "uint32" "int(10)",
    integer "int64" 64 true "i64" "int64" "bigint(20)",
    integer "uint64" 64 false "u64" "uint64" "bigint(20)",
    { name := "float", kind := .float 32, repr := "f32", wire := "float"
      storage := "float NOT NULL default '0'", initial := "0.0" },
    { name := "double", kind := .float 64, repr := "f64", wire := "double"
      storage := "double NOT NULL default '0'", initial := "0.0" },
    { name := "bool", kind := .bool, repr := "bool", wire := "bool"
      storage := "bool NOT NULL default '0'", initial := "false" },
    { name := "string", kind := .text, repr := "String", wire := "string", storage := "text"
      initial := "String::new()" },
    blob "bytes" "blob",
    blob "bytes_tiny" "tinyblob",
    blob "bytes_medium" "mediumblob",
    blob "bytes_long" "longblob" ]

/-- The bounded text of a capacity. -/
def bounded (capacity : Nat) : Primitive :=
  let n := Decimal.ofNat capacity
  { name := "char" ++ n, kind := .fixedText capacity, repr := "FixedText<" ++ n ++ ">"
    wire := "string", storage := "varchar(" ++ n ++ ") NOT NULL default ''"
    initial := "FixedText::new()" }

/-! ### Resolving names -/

/-- The registered type of a name. -/
def registered? (name : String) : Option Primitive :=
  registry.find? (fun p => p.name == name)

/-- The capacity that a name of the bounded texts gives: digits after `char`, at least one and
within a word of 64 bits. -/
def boundedCapacity? (name : String) : Option Nat :=
  match name.toList with
  | 'c' :: 'h' :: 'a' :: 'r' :: digits =>
    (Decimal.ofDigits? digits).filter (fun n => 0 < n && n ≤ Decimal.maxWord)
  | _ => none

/-- The type that a name without blanks around it stands for. -/
def lookup? (name : String) : Option Primitive :=
  match registered? name with
  | some p => some p
  | none => (boundedCapacity? name).map bounded

/-- The type that a name stands for. -/
def resolve? (name : String) : Option Primitive :=
  lookup? (Text.trim name)

/-- The registered name closest to one that does not resolve. -/
def suggest? (name : String) : Option String :=
  Similarity.closest (registry.map Primitive.name) (Text.trim name)

/-! ### Properties -/

/-- The capacity of a bounded text. -/
def capacity? (p : Primitive) : Option Nat :=
  match p.kind with
  | .fixedText capacity => some capacity
  | _ => none

/-- Text and bytes are quoted in a query. -/
def isQuoted (p : Primitive) : Bool :=
  match p.kind with
  | .text | .bytes | .fixedText _ => true
  | _ => false

/-- Integers of eight bits are widened before they are written, lest they read as characters. -/
def isNarrow (p : Primitive) : Bool :=
  match p.kind with
  | .int 8 _ => true
  | _ => false

/-- Whether the type is a bounded text. -/
def isFixedText (p : Primitive) : Bool :=
  match p.kind with
  | .fixedText _ => true
  | _ => false

/-- The type that a narrow integer is widened to. -/
def widen? (p : Primitive) : Option Primitive :=
  match p.kind with
  | .int 8 true => registered? "int32"
  | .int 8 false => registered? "uint32"
  | _ => none

/-- The member type that a message field carries: wire types are names of registered types too. -/
def wireRepr (p : Primitive) : String :=
  match registered? p.wire with
  | some w => w.repr
  | none => p.repr

end Primitive

end SchemaCompiler
