/-!
# Flat units

A flat schema source is a named list of entries. An entry is a key with a value of one of few
shapes: one text, a list of texts, or a mapping of texts. A value of another shape is kept as
malformed together with the reason, so that the rest of the unit can still be used.
-/

namespace SchemaCompiler

/-- The value of an entry. -/
inductive EntryValue where
  /-- One text. -/
  | scalar (text : String)
  /-- A list of texts. -/
  | list (texts : List String)
  /-- A mapping from texts to texts, in source order. -/
  | mapping (pairs : List (String × String))
  /-- A value that has none of these shapes. -/
  | malformed (reason : String)
deriving DecidableEq, Repr

/-- The text under a key of a mapping; other values have no keys. -/
def EntryValue.get? (v : EntryValue) (key : String) : Option String :=
  match v with
  | .mapping pairs => pairs.lookup key
  | _ => none

/-- An entry of a flat unit. -/
structure Entry where
  /-- The key: a field name, or a directive if it starts with a dollar sign. -/
  key : String
  /-- What the entry says about it. -/
  value : EntryValue
deriving DecidableEq, Repr

/-- A flat schema source. -/
structure FlatUnit where
  /-- The name of the unit. -/
  name : String
  /-- The entries in source order. -/
  entries : List Entry
deriving DecidableEq, Repr

end SchemaCompiler
