import SchemaCompiler.Dialect
import SchemaCompiler.Digest
import SchemaCompiler.Yaml.Reading

/-!
# Schema units

A unit is what is compiled at a time: a named source in one of the two dialects, with the checksum
of the text that it was read from. A text of the tree dialect is one unit, named by its root; a text
of the flat dialect may hold any number of them, which all carry the checksum of the whole text.
-/

namespace SchemaCompiler

/-- The source of a unit. -/
inductive UnitSource where
  /-- A flat unit. -/
  | flat (unit : FlatUnit)
  /-- A document. -/
  | tree (root : Element)

/-- A unit that is ready to be compiled. -/
structure SchemaUnit where
  /-- The name of the unit. -/
  name : String
  /-- What the schema says. -/
  source : UnitSource
  /-- The checksum of the text that the unit was read from. -/
  checksum : String

namespace SchemaUnit

/-- A flat unit with the checksum of its text. -/
def ofFlat (unit : FlatUnit) (checksum : String) : SchemaUnit :=
  { name := unit.name, source := .flat unit, checksum }

/-- A document with the checksum of its text. -/
def ofTree (root : Element) (checksum : String) : SchemaUnit :=
  { name := root.tag, source := .tree root, checksum }

/-- The units of a text in a dialect. -/
def ofText (dialect : Dialect) (text : String) : Except SourceError (List SchemaUnit) :=
  let checksum := Digest.checksum text
  match dialect with
  | .tree => (Element.ofMarkup text).map (fun root => [ofTree root checksum])
  | .flat => (FlatUnit.ofYaml text).map (fun units => units.map (fun u => ofFlat u checksum))

end SchemaUnit

end SchemaCompiler
