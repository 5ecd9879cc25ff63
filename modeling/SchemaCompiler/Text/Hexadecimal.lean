/-!
# Hexadecimal digits

The values of hexadecimal digits in either case, and the characters that have a number.
-/

namespace SchemaCompiler.Text

/-- The value of a hexadecimal digit. -/
def hexDigit? (c : Char) : Option Nat :=
  if c.isDigit then some (c.toNat - 48)
  else if 'a' ≤ c && c ≤ 'f' then some (c.toNat - 87)
  else if 'A' ≤ c && c ≤ 'F' then some (c.toNat - 55)
  else none

/-- The number that a list of hexadecimal digits stands for; nothing for any other list. -/
def ofHexDigits? (cs : List Char) : Option Nat :=
  if cs.isEmpty then none
  else (cs.mapM hexDigit?).map (fun digits => digits.foldl (fun n d => n * 16 + d) 0)

/-- The character with a number, if there is one. -/
def charWithNumber? (n : Nat) : Option Char :=
  if n < 0xd800 || (0xdfff < n && n < 0x110000) then some (Char.ofNat n) else none

end SchemaCompiler.Text
