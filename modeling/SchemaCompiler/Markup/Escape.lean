import SchemaCompiler.Decimal.Integer
import SchemaCompiler.Text.Hexadecimal

/-!
# Escapes in markup

Inside text and attribute values an ampersand starts an escape, which a semicolon ends: one of five
named characters, or a character by its number in decimal or hexadecimal. Nothing else may follow an
ampersand.
-/

namespace SchemaCompiler.Markup

/-- The named characters. -/
def namedChar? (name : String) : Option Char :=
  if name == "lt" then some '<'
  else if name == "gt" then some '>'
  else if name == "amp" then some '&'
  else if name == "apos" then some '\x27'
  else if name == "quot" then some '"'
  else none

/-- The character of a number, if it is the number of one and not zero. -/
def charOfNumber? (n : Nat) : Option Char :=
  if n == 0 then none else Text.charWithNumber? n

/-- The character of an escape, given what stands between the ampersand and the semicolon. -/
def escapedChar? (name : List Char) : Option Char :=
  match name with
  | '#' :: 'x' :: digits => (Text.ofHexDigits? digits).bind charOfNumber?
  | '#' :: digits => (Decimal.ofDigits? digits).bind charOfNumber?
  | _ => namedChar? (String.ofList name)

/-- Where the reading of escaped text stands: outside an escape, or inside one with its characters
so far in reverse. -/
def unescapeFrom : Option (List Char) → List Char → Option (List Char)
  | none, [] => some []
  | some _, [] => none
  | none, c :: rest =>
    if c == '&' then unescapeFrom (some []) rest
    else (unescapeFrom none rest).map (c :: ·)
  | some name, c :: rest =>
    if c == '&' then none
    else if c == ';' then
      match escapedChar? name.reverse with
      | none => none
      | some e => (unescapeFrom none rest).map (e :: ·)
    else unescapeFrom (some (c :: name)) rest

/-- The text that escaped text stands for; nothing if an escape is no good. -/
def unescape? (raw : List Char) : Option String :=
  (unescapeFrom none raw).map String.ofList

end SchemaCompiler.Markup
