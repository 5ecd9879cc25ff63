import SchemaCompiler.Text.Utf8

/-!
# Cursors

A cursor is a place in a YAML text: the characters from there on, and the number of bytes, lines and
columns before it. Line breaks are of several kinds; a carriage return with a line feed
counts as one. When a line break becomes part of a value it is a line feed, except for the line and
paragraph separators, which stay as they are.
-/

namespace SchemaCompiler.Yaml

/-- A place in a text. -/
structure Cursor where
  /-- The characters from here on. -/
  rest : List Char
  /-- The number of bytes before. -/
  index : Nat := 0
  /-- The number of lines before. -/
  line : Nat := 0
  /-- The number of characters before on the same line. -/
  column : Nat := 0

/-- Spaces and tabs. -/
def isBlank (c : Char) : Bool :=
  c == ' ' || c == '\t'

/-- The characters that end a line. -/
def isBreak (c : Char) : Bool :=
  c == '\n' || c == '\r' || c == '\x85' || c == '\u2028' || c == '\u2029'

/-- The characters of anchors, handles and directive names. -/
def isWordChar (c : Char) : Bool :=
  c.isAlphanum || c == '_' || c == '-'

/-- The characters that a text may hold at all. -/
def isAllowed (c : Char) : Bool :=
  let n := c.toNat
  n == 0x09 || n == 0x0a || n == 0x0d || (0x20 ≤ n && n ≤ 0x7e) || n == 0x85 ||
    (0xa0 ≤ n && n ≤ 0xfffd) || 0x10000 ≤ n

namespace Cursor

/-- The character at a distance. -/
def at? (c : Cursor) (distance : Nat) : Option Char :=
  c.rest[distance]?

/-- The next character. -/
def peek? (c : Cursor) : Option Char :=
  c.rest.head?

/-- Whether the next character is the given one. -/
def sees (c : Cursor) (char : Char) : Bool :=
  c.peek? == some char

/-- Whether a property holds of the character at a distance. -/
def holdsAt (c : Cursor) (p : Char → Bool) (distance : Nat) : Bool :=
  (c.at? distance).any p

/-- Whether the next character is a space or tab. -/
def atBlank (c : Cursor) : Bool :=
  c.holdsAt isBlank 0

/-- Whether the next character ends a line. -/
def atBreak (c : Cursor) : Bool :=
  c.holdsAt isBreak 0

/-- Whether the text ends here. -/
def atEnd (c : Cursor) : Bool :=
  c.rest.isEmpty

/-- Whether the line or the text ends here. -/
def atLineEnd (c : Cursor) : Bool :=
  c.atEnd || c.atBreak

/-- Whether a blank, a line break or the end of the text stands at a distance. -/
def isGap (c : Cursor) (distance : Nat) : Bool :=
  match c.at? distance with
  | none => true
  | some char => isBlank char || isBreak char

/-- Passes one character of a line. -/
def next (c : Cursor) : Cursor :=
  match c.rest with
  | [] => c
  | char :: rest => { c with rest, index := c.index + char.utf8Size, column := c.column + 1 }

/-- Passes several characters of a line. -/
def skip (c : Cursor) : Nat → Cursor
  | 0 => c
  | n + 1 => c.next.skip n

/-- Passes one line break. -/
def nextLine (c : Cursor) : Cursor :=
  match c.rest with
  | '\r' :: '\n' :: rest => { rest, index := c.index + 2, line := c.line + 1, column := 0 }
  | char :: rest =>
    if isBreak char then
      { rest, index := c.index + char.utf8Size, line := c.line + 1, column := 0 }
    else c
  | [] => c

/-- What the line break here stands for in a value. -/
def breakText (c : Cursor) : List Char :=
  match c.peek? with
  | none => []
  | some char =>
    if char == '\u2028' || char == '\u2029' then [char]
    else if isBreak char then ['\n'] else []

/-- Passes the characters of a line that have a property. -/
def skipWhile (c : Cursor) (p : Char → Bool) : Cursor :=
  let passed := c.rest.takeWhile p
  { c with
    rest := c.rest.drop passed.length
    index := c.index + Text.byteLength passed
    column := c.column + passed.length }

/-- The characters up to the first one without a property. -/
def takeWhile (c : Cursor) (p : Char → Bool) : List Char :=
  c.rest.takeWhile p

/-- Passes spaces and tabs. -/
def skipBlanks (c : Cursor) : Cursor :=
  c.skipWhile isBlank

/-- Passes a comment up to the end of its line, if there is one here. -/
def skipComment (c : Cursor) : Cursor :=
  if c.sees '#' then c.skipWhile (fun char => !isBreak char) else c

/-- Whether a mark that starts or ends a document stands here. -/
def atDocumentMark (c : Cursor) : Bool :=
  c.column == 0 && c.isGap 3 &&
    (['-', '-', '-'].isPrefixOf c.rest || ['.', '.', '.'].isPrefixOf c.rest)

end Cursor

end SchemaCompiler.Yaml
