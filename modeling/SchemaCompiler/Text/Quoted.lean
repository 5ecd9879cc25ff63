import SchemaCompiler.Text.GraphemeExtend
import SchemaCompiler.Text.Unprintable

/-!
# Quoted literals

A text as a string literal of the generated code. Quotes and backslashes are escaped, the common
control characters have a letter of their own, and every character that cannot be seen on its own
is written by its number.
-/

namespace SchemaCompiler.Text

/-- A character by its number in hexadecimal. -/
def escapeByNumber (c : Char) : List Char :=
  ['\\', 'u', '\x7b'] ++ Nat.toDigits 16 c.toNat ++ ['\x7d']

/-- The letters that fill a place and show nothing. -/
def isFiller (c : Char) : Bool :=
  c == '\u115F' || c == '\u1160' || c == '\u3164' || c == '\uFFA0'

/-- The sound marks of narrow kana: they belong to the letter before them, but have a place of their
own. -/
def isNarrowSoundMark (c : Char) : Bool :=
  c == '\uFF9E' || c == '\uFF9F'

/-- Whether a character cannot be seen on its own. -/
def isHidden (c : Char) : Bool :=
  isUnprintable c || isFiller c || (isGraphemeExtend c && !isNarrowSoundMark c)

/-- A character as it stands inside a literal. -/
def escapeChar (c : Char) : List Char :=
  match c with
  | '\x00' => ['\\', '0']
  | '\t' => ['\\', 't']
  | '\r' => ['\\', 'r']
  | '\n' => ['\\', 'n']
  | '"' => ['\\', '"']
  | '\\' => ['\\', '\\']
  | _ => if isHidden c then escapeByNumber c else [c]

/-- A text as a string literal. -/
def quote (s : String) : String :=
  String.ofList (['"'] ++ s.toList.flatMap escapeChar ++ ['"'])

end SchemaCompiler.Text
