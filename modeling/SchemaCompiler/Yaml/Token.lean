import SchemaCompiler.Text.Utf8

/-!
# Tokens

The tokens of a YAML text: marks that start and end documents and collections, marks for entries,
keys and values, and the properties and contents of nodes. Collections that are told by indentation
have start and end tokens as well.

Tags may be written with escapes for single bytes, so they need not be texts. A tag ends before a
byte of zero.
-/

namespace SchemaCompiler.Yaml

/-- The bytes of a tag, or of a part of one. -/
abbrev TagBytes := List UInt8

/-- The part of some bytes before the first zero. -/
def TagBytes.cut (bs : TagBytes) : TagBytes :=
  bs.takeWhile (· != 0)

/-- The bytes of a tag that is a text. -/
def TagBytes.ofText (s : String) : TagBytes :=
  Text.encode s

/-- A token. -/
inductive Token where
  /-- The version that a document asks for. -/
  | version (major minor : Nat)
  /-- A handle and what it stands for at the start of tags. -/
  | tagHandle (handle : String) (meaning : TagBytes)
  /-- The start of a document. -/
  | documentStart
  /-- The end of a document. -/
  | documentEnd
  /-- The start of a sequence told by indentation. -/
  | blockSequence
  /-- The start of a mapping told by indentation. -/
  | blockMapping
  /-- The end of a collection told by indentation. -/
  | blockEnd
  /-- The start of a sequence in brackets. -/
  | flowSequence
  /-- The end of a sequence in brackets. -/
  | flowSequenceEnd
  /-- The start of a mapping in braces. -/
  | flowMapping
  /-- The end of a mapping in braces. -/
  | flowMappingEnd
  /-- An entry of a sequence told by indentation. -/
  | blockEntry
  /-- A comma between the entries of a collection in brackets or braces. -/
  | flowEntry
  /-- A key follows. -/
  | key
  /-- A value follows. -/
  | value
  /-- A node that stands elsewhere under an anchor. -/
  | alias (name : String)
  /-- A name for the node that follows. -/
  | anchor (name : String)
  /-- A tag for the node that follows, as a handle and a suffix. -/
  | tag (handle : String) (suffix : TagBytes)
  /-- A scalar, plain or not. -/
  | scalar (text : String) (plain : Bool)
  /-- The end of the text. -/
  | streamEnd
deriving DecidableEq, Repr

end SchemaCompiler.Yaml
