import SchemaCompiler.FlatUnit
import SchemaCompiler.Markup.Reading
import SchemaCompiler.Yaml.Tokens
import SchemaCompiler.Yaml.Value

/-!
# Flat units from YAML

Every document of a text is a mapping from unit names to lists of entries; an empty document is
passed over. An entry is a mapping, mostly with one key. What is wrong with a single entry does not
make the text unreadable: the entry is kept as malformed.

Documents are taken one after another, so what is wrong with an earlier one is found first.
-/

namespace SchemaCompiler

namespace Yaml

/-- The text of a value that has one: texts, numbers and truth values. -/
def Value.scalarText? : Value → Option String
  | .text s => some s
  | .int n => some (Decimal.ofInt n)
  | .float x => some x.scientific
  | .bool b => some (if b then "true" else "false")
  | _ => none

/-- The texts of a key and a value. -/
def scalarPair? (p : Value × Value) : Option (String × String) :=
  match p.1.scalarText?, p.2.scalarText? with
  | some k, some v => some (k, v)
  | _, _ => none

/-- The value of an entry. -/
def entryValue : Value → EntryValue
  | .null => .malformed "the entry has no value"
  | .sequence items =>
    match items.mapM Value.scalarText? with
    | some texts => .list texts
    | none => .malformed "nested values are not supported"
  | .mapping pairs =>
    match pairs.mapM scalarPair? with
    | some texts => .mapping texts
    | none => .malformed "nested values are not supported"
  | v =>
    match v.scalarText? with
    | some s => .scalar s
    | none => .malformed "nested values are not supported"

/-- The entries of one item of a unit's list. Entries that have no key of their own are named by
the position of the item. -/
def entriesAt (position : Nat) : Value → List Entry
  | .mapping pairs =>
    pairs.map (fun p =>
      match p.1.scalarText? with
      | some key => { key, value := entryValue p.2 }
      | none =>
        { key := "#" ++ Decimal.ofNat position
          value := .malformed "an entry key must be a scalar" })
  | _ =>
    [{ key := "#" ++ Decimal.ofNat position
       value := .malformed "an entry must be a 'key: value' mapping" }]

/-- The unit under a name. -/
def unit (name body : Value) : Except SourceError FlatUnit :=
  match name.scalarText? with
  | none => .error (.document "schema unit names must be scalars")
  | some name =>
    match body with
    | .sequence items =>
      .ok { name, entries := (items.mapIdx (fun i item => entriesAt i item)).flatten }
    | _ => .error (.document ("schema unit '" ++ name ++ "' must be a list of entries"))

/-- The units of a document. -/
def units : Value → Except SourceError (List FlatUnit)
  | .null => .ok []
  | .mapping pairs => pairs.mapM (fun p => unit p.1 p.2)
  | _ => .error (.document "a flat schema document must be a mapping of unit names")

/-- The units of the documents from here on. -/
def unitsFrom : Nat → Step → Except SourceError (List FlatUnit)
  | 0, _ => .ok []
  | _, .finished => .ok []
  | _, .failed => .error .mapping
  | fuel + 1, .document root rest =>
    match root.value? with
    | none => .error .mapping
    | some v =>
      match units v with
      | .error e => .error e
      | .ok found =>
        match unitsFrom fuel (nextDocument rest) with
        | .error e => .error e
        | .ok later => .ok (found ++ later)

end Yaml

/-- The flat units of a YAML text. -/
def FlatUnit.ofYaml (s : String) : Except SourceError (List FlatUnit) :=
  let tokens := Yaml.tokens s
  Yaml.unitsFrom (tokens.length + 1) (Yaml.firstDocument tokens)

end SchemaCompiler
