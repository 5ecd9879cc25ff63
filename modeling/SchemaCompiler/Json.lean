/-!
# JSON texts

The pretty form of JSON: every item and every member on a line of its own, indented by two spaces
for each level, and empty lists and objects closed at once. Only quotes, backslashes and control
characters are escaped in texts.
-/

namespace SchemaCompiler

/-- A JSON value, as far as reports need it. -/
inductive Json where
  /-- A text. -/
  | text (s : String)
  /-- A list. -/
  | list (items : List Json)
  /-- An object, with its members in order. -/
  | object (members : List (String × Json))

namespace Json

/-- A digit of base sixteen. -/
def lowerDigit (n : Nat) : Char :=
  (Nat.toDigits 16 n).headD '0'

/-- A character inside quotes. -/
def escapeChar (c : Char) : List Char :=
  if c == '"' then ['\\', '"']
  else if c == '\\' then ['\\', '\\']
  else if c == '\x08' then ['\\', 'b']
  else if c == '\x0c' then ['\\', 'f']
  else if c == '\n' then ['\\', 'n']
  else if c == '\r' then ['\\', 'r']
  else if c == '\t' then ['\\', 't']
  else if c.toNat < 0x20 then
    ['\\', 'u', '0', '0', lowerDigit (c.toNat / 16), lowerDigit (c.toNat % 16)]
  else [c]

/-- A text in quotes. -/
def quoted (s : String) : String :=
  "\"" ++ String.ofList (s.toList.flatMap escapeChar) ++ "\""

/-- The start of a line at a level. -/
def indent (level : Nat) : String :=
  String.ofList (List.replicate (2 * level) ' ')

/-- Lines between brackets, given the texts of the items; nothing between them if there are none. -/
def enclosed (opening closing : String) (level : Nat) (items : List String) : String :=
  if items.isEmpty then opening ++ closing
  else
    opening ++ "\n" ++ ",\n".intercalate (items.map (fun s => indent (level + 1) ++ s)) ++ "\n" ++
      indent level ++ closing

mutual

/-- The pretty form of a value at a level. -/
def prettyAt (level : Nat) : Json → String
  | .text s => quoted s
  | .list items => enclosed "[" "]" level (prettyItems (level + 1) items)
  | .object members => enclosed "\x7b" "\x7d" level (prettyMembers (level + 1) members)

/-- The pretty forms of items. -/
def prettyItems (level : Nat) : List Json → List String
  | [] => []
  | v :: rest => prettyAt level v :: prettyItems level rest

/-- The pretty forms of members. -/
def prettyMembers (level : Nat) : List (String × Json) → List String
  | [] => []
  | (name, v) :: rest => (quoted name ++ ": " ++ prettyAt level v) :: prettyMembers level rest

end

/-- The pretty form of a value. -/
def pretty (v : Json) : String :=
  prettyAt 0 v

end Json

end SchemaCompiler
