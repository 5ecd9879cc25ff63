import SchemaCompiler.Decimal.Shortest

/-!
# Settings

Settings are trees of named values, whatever notation they are written in: texts, numbers, truth
values, moments in time, lists, and tables from names to values. A table keeps its order; when it
names a key twice the first counts.
-/

namespace SchemaCompiler

/-- A value of some settings. -/
inductive Setting where
  /-- No value. -/
  | null
  /-- A truth value. -/
  | bool (b : Bool)
  /-- A whole number. -/
  | int (n : Int)
  /-- A decimal fraction. -/
  | float (x : Decimal.Binary64)
  /-- A text. -/
  | text (s : String)
  /-- A date, a time or both, in its normal spelling. -/
  | moment (s : String)
  /-- A list. -/
  | list (items : List Setting)
  /-- A table. -/
  | table (pairs : List (String × Setting))
deriving Inhabited

namespace Setting

/-- The value under a name of a table; other values have no names. -/
def get? (v : Setting) (name : String) : Option Setting :=
  match v with
  | table pairs => pairs.lookup name
  | _ => none

/-- The text of a value that stands for itself: texts, numbers, truth values and moments. -/
def shown? : Setting → Option String
  | text s => some s
  | moment s => some s
  | bool b => some (if b then "true" else "false")
  | int n => some (Decimal.ofInt n)
  | float x => some x.plain
  | null | list _ | table _ => none

end Setting

end SchemaCompiler
