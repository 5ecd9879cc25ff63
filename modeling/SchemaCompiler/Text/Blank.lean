import SchemaCompiler.Text.Run

/-!
# Blank characters and trimming

A character is blank when the Unicode property *White_Space* holds of it. Names, numbers and type
names are read after the blank characters around them are dropped; text values are not.
-/

namespace SchemaCompiler.Text

/-- The blank characters: tabs and line breaks, the plain space, the next-line and no-break
characters, and the wider and narrower spaces and separators of other scripts. -/
def blankRuns : List Run :=
  [⟨0x09, 0x0d, 1⟩, ⟨0x20, 0x20, 1⟩, ⟨0x85, 0x85, 1⟩, ⟨0xa0, 0xa0, 1⟩, ⟨0x1680, 0x1680, 1⟩,
   ⟨0x2000, 0x200a, 1⟩, ⟨0x2028, 0x2029, 1⟩, ⟨0x202f, 0x202f, 1⟩, ⟨0x205f, 0x205f, 1⟩,
   ⟨0x3000, 0x3000, 1⟩]

/-- Whether a character is blank. -/
def isBlank (c : Char) : Bool :=
  inRuns blankRuns c

/-- Drops the characters at the end of a list that satisfy `p`. -/
def dropEndWhile (p : Char → Bool) (cs : List Char) : List Char :=
  (cs.reverse.dropWhile p).reverse

/-- The characters between the blank ones at both ends. -/
def trimChars (cs : List Char) : List Char :=
  dropEndWhile isBlank (cs.dropWhile isBlank)

/-- A text without the blank characters at both ends. -/
def trim (s : String) : String :=
  String.ofList (trimChars s.toList)

/-- A text without the blank characters at its start. -/
def trimStart (s : String) : String :=
  String.ofList (s.toList.dropWhile isBlank)

/-- A text without the blank characters at its end. -/
def trimEnd (s : String) : String :=
  String.ofList (dropEndWhile isBlank s.toList)

end SchemaCompiler.Text
