import SchemaCompiler.Decimal.Shortest
import SchemaCompiler.Primitive
import SchemaCompiler.Text.Utf8

/-!
# Field values

A value of a primitive type, as records and trees hold it: reading it from text, whether it fits a
type, and its two written forms. In a row or a document a value is written as it is; in a query,
text and bytes stand between quotes and a quote inside is doubled.
-/

namespace SchemaCompiler

/-- A value of a primitive type. -/
inductive FieldValue where
  /-- A signed integer. -/
  | int (n : Int)
  /-- An unsigned integer. -/
  | uint (n : Nat)
  /-- A floating-point number. -/
  | float (x : Decimal.Binary64)
  /-- A truth value. -/
  | bool (b : Bool)
  /-- A text. -/
  | text (s : String)
  /-- Bytes. -/
  | bytes (bs : List UInt8)
deriving DecidableEq, Repr

namespace FieldValue

/-- The value that a fresh member of a kind starts from. -/
def initial : Kind → FieldValue
  | .int _ true => .int 0
  | .int _ false => .uint 0
  | .float _ => .float .zero
  | .bool => .bool false
  | .text | .fixedText _ => .text ""
  | .bytes => .bytes []

/-- Whether a value is one of a kind; an integer must lie within the width. -/
def fits : FieldValue → Kind → Bool
  | .int n, .int bits true => -(Int.pow 2 (bits - 1)) ≤ n && n < Int.pow 2 (bits - 1)
  | .uint n, .int bits false => 64 ≤ bits || n < Nat.pow 2 bits
  | .float _, .float _ => true
  | .bool _, .bool => true
  | .text _, .text => true
  | .text _, .fixedText _ => true
  | .bytes _, .bytes => true
  | _, _ => false

/-- A truth value from text. -/
def readBool? (s : String) : Option Bool :=
  if s == "1" || s == "true" then some true
  else if s == "0" || s == "false" then some false
  else none

/-- Reads a value of a kind before its width is checked. Blanks around numbers and truth values do
not count; a bounded text is cut to its capacity. -/
def readAny? (kind : Kind) (raw : String) : Option FieldValue :=
  match kind with
  | .int _ true =>
    (Decimal.integerBetween? (-(Int.pow 2 63)) (Int.pow 2 63 - 1) (Text.trim raw)).map
      FieldValue.int
  | .int _ false => (Decimal.naturalUpTo? Decimal.maxWord (Text.trim raw)).map FieldValue.uint
  | .float _ => (Decimal.Binary64.ofText? (Text.trim raw)).map FieldValue.float
  | .bool => (readBool? (Text.trim raw)).map FieldValue.bool
  | .text => some (.text raw)
  | .fixedText capacity => some (.text (Text.truncate capacity raw))
  | .bytes => some (.bytes (Text.encode raw))

/-- Reads a value of a kind from text. -/
def read? (kind : Kind) (raw : String) : Option FieldValue :=
  (readAny? kind raw).filter (fun v => v.fits kind)

/-- A value as it is written in rows and documents. -/
def display : FieldValue → String
  | .int n => Decimal.ofInt n
  | .uint n => Decimal.ofNat n
  | .float x => x.plain
  | .bool b => if b then "1" else "0"
  | .text s => s
  | .bytes bs => Text.decodeLossy bs

/-- The characters of a text with every quote doubled. -/
def doubleQuotes (cs : List Char) : List Char :=
  cs.flatMap (fun c => if c == '\x27' then ['\x27', '\x27'] else [c])

/-- A text between quotes. -/
def quoted (s : String) : String :=
  String.ofList (['\x27'] ++ doubleQuotes s.toList ++ ['\x27'])

/-- A value as it is written in a query. -/
def literal : FieldValue → String
  | .text s => quoted s
  | .bytes bs => quoted (Text.decodeLossy bs)
  | v => v.display

/-- Whether two values are equal as values, where a number that is no number equals none. -/
def same : FieldValue → FieldValue → Bool
  | .float x, .float y => x.sameValue y
  | v, w => v == w

/-! ### Order of keys -/

/-- The rank of a value's variant among the variants. -/
def variantRank : FieldValue → Nat
  | .int _ => 0
  | .uint _ => 1
  | .float _ => 2
  | .bool _ => 3
  | .text _ => 4
  | .bytes _ => 5

/-- The order of lists of bytes: the first difference decides, and a start comes before the
whole. -/
def compareBytes : List UInt8 → List UInt8 → Ordering
  | [], [] => .eq
  | [], _ :: _ => .lt
  | _ :: _, [] => .gt
  | a :: as, b :: bs => (compare a.toNat b.toNat).then (compareBytes as bs)

/-- The total order of values as keys: numbers by size, floating-point numbers by the order of
their patterns, texts by their bytes; values of different variants by variant. -/
def compareKeys : FieldValue → FieldValue → Ordering
  | .int a, .int b => compare a b
  | .uint a, .uint b => compare a b
  | .float a, .float b => a.totalCompare b
  | .bool a, .bool b => compare a.toNat b.toNat
  | .text a, .text b => compareBytes (Text.encode a) (Text.encode b)
  | .bytes a, .bytes b => compareBytes a b
  | a, b => compare a.variantRank b.variantRank

end FieldValue

end SchemaCompiler
