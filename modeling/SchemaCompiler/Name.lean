import SchemaCompiler.Text.Alphabetic
import SchemaCompiler.Text.CaseMap
import SchemaCompiler.Text.Numeric

/-!
# Names in generated code

Schema names become identifiers: a name is cut into words at everything that is no letter or
number, and where a capital follows a small letter or digit. Members, modules and files take the
words in lower case with underscores between them; types take them capitalized and joined. What
would be a keyword of the generated language, start with a digit or hide a type that the generated
code relies on is marked, so that every artifact agrees on the name.

A *scope* is the list of type names from the root of a tree schema down to one node. The types of a
node's children live in a module named after the node.
-/

namespace SchemaCompiler.Name

open Text

/-! ### Words -/

/-- Whether a character belongs to a word. -/
def isAlphanumeric (c : Char) : Bool :=
  isAlphabetic c || isNumeric c

/-- Whether a capital right after the character starts a new word. -/
def endsWord (c : Char) : Bool :=
  isLowercase c || c.isDigit

/-- A word as a list, unless it is empty. -/
def wordIfAny (reversed : List Char) : List (List Char) :=
  if reversed.isEmpty then [] else [reversed.reverse]

/-- The words of the remaining characters. `current` is the word being read, in reverse, and
`splits` tells whether a capital ends it. -/
def wordsFrom (current : List Char) (splits : Bool) : List Char → List (List Char)
  | [] => wordIfAny current
  | c :: rest =>
    if !isAlphanumeric c then wordIfAny current ++ wordsFrom [] false rest
    else if isUppercase c && splits then wordIfAny current ++ wordsFrom [c] (endsWord c) rest
    else wordsFrom (c :: current) (endsWord c) rest

/-- The words of a name. -/
def words (name : String) : List (List Char) :=
  wordsFrom [] false name.toList

/-- A word with its first character raised and the others lowered. -/
def capitalize : List Char → List Char
  | [] => []
  | c :: rest => upperForm c ++ rest.flatMap lowerForm

/-- The words of a name, capitalized and joined. -/
def pascalCase (name : String) : String :=
  String.ofList ((words name).flatMap capitalize)

/-- The words of a name in lower case, with underscores between them. -/
def snakeCase (name : String) : String :=
  "_".intercalate ((words name).map (fun w => toLowercase (String.ofList w)))

/-! ### Identifiers -/

/-- The keywords of the generated language. -/
def keywords : List String :=
  ["as", "async", "await", "break", "const", "continue", "crate", "dyn", "else", "enum", "extern",
   "false", "fn", "for", "if", "impl", "in", "let", "loop", "match", "mod", "move", "mut", "pub",
   "ref", "return", "self", "Self", "static", "struct", "super", "trait", "true", "type", "unsafe",
   "use", "where", "while", "abstract", "become", "box", "do", "final", "macro", "override", "priv",
   "try", "typeof", "unsized", "virtual", "yield"]

/-- The keywords that no mark turns into an identifier. -/
def pathKeywords : List String :=
  ["crate", "self", "Self", "super"]

/-- The type names that generated code uses itself. -/
def reservedTypes : List String :=
  ["Self", "String", "Vec", "Option", "Result", "Box", "Default", "From", "FixedText", "BTreeMap",
   "HashMap", "Element", "Column", "DecodeError", "Query", "Row", "StorageDescriptor"]

/-- Marks a keyword so that it can be an identifier. -/
def escapeKeyword (ident : String) : String :=
  if pathKeywords.contains ident then ident ++ "_"
  else if keywords.contains ident then "r#" ++ ident
  else ident

/-- Whether a name starts with a decimal digit. -/
def startsWithDigit (name : String) : Bool :=
  match name.toList with
  | c :: _ => c.isDigit
  | [] => false

/-- The identifier of a member or module. -/
def memberIdent (name : String) : String :=
  let snake := snakeCase name
  escapeKeyword (if startsWithDigit snake then "_" ++ snake else snake)

/-- The identifier of a type. -/
def typeIdent (name : String) : String :=
  let pascal := pascalCase name
  if startsWithDigit pascal then "T" ++ pascal
  else if reservedTypes.contains pascal then pascal ++ "_"
  else pascal

end SchemaCompiler.Name

namespace SchemaCompiler

/-- The type names from the root of a tree schema down to one node. -/
structure Scope where
  /-- The type names, outermost first. -/
  segments : List String
deriving DecidableEq, Repr

namespace Scope

/-- The scope of the root. -/
def root (typeName : String) : Scope :=
  ⟨[typeName]⟩

/-- The scope of a child. -/
def child (s : Scope) (typeName : String) : Scope :=
  ⟨s.segments ++ [typeName]⟩

/-- The type name of the node itself. -/
def name (s : Scope) : String :=
  s.segments.getLastD ""

/-- The module that holds the types of the node's children. -/
def moduleIdent (s : Scope) : String :=
  Name.memberIdent s.name

/-- The scope as it is shown to people. -/
def display (s : Scope) : String :=
  "::".intercalate s.segments

/-- The path of the node's type in generated code, where ancestors become modules. -/
def typePath (s : Scope) : String :=
  match s.segments with
  | [] => ""
  | _ => "::".intercalate (s.segments.dropLast.map Name.memberIdent ++ [s.name])

end Scope

end SchemaCompiler
