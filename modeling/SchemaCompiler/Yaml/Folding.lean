import SchemaCompiler.Yaml.Cursor

/-!
# Folding

Scalars that go over several lines are folded: a single line break between two lines becomes a
space, and of several line breaks the first is dropped. Spaces around line breaks are dropped too.
A `Folding` is the text of a scalar so far together with the blanks and breaks that are pending
behind it; they count only if more text follows.
-/

namespace SchemaCompiler.Yaml

/-- The text of a scalar with what is pending behind it. Lists of characters are in reverse. -/
structure Folding where
  /-- The text. -/
  text : List Char := []
  /-- The pending spaces and tabs. -/
  blanks : List Char := []
  /-- The first pending line break. -/
  first : List Char := []
  /-- The further pending line breaks. -/
  more : List Char := []
  /-- Whether a line break is pending. -/
  broken : Bool := false

namespace Folding

/-- Adds a character of text. -/
def push (f : Folding) (c : Char) : Folding :=
  { f with text := c :: f.text }

/-- The line breaks that are pending, as they stand between two lines. -/
def foldedBreak (f : Folding) : List Char :=
  if f.first == ['\n'] then
    if f.more.isEmpty then [' '] else f.more
  else f.more ++ f.first.reverse

/-- Adds what is pending to the text. -/
def join (f : Folding) : Folding :=
  if f.broken then { text := f.foldedBreak ++ f.text, blanks := f.blanks }
  else { f with text := f.blanks ++ f.text, blanks := [] }

/-- Notes a pending line break. -/
def addBreak (f : Folding) (breakText : List Char) : Folding :=
  if f.broken then { f with more := breakText.reverse ++ f.more }
  else { f with blanks := [], first := breakText, broken := true }

/-- Notes a pending blank; behind a line break it does not count. -/
def addBlank (f : Folding) (c : Char) : Folding :=
  if f.broken then f else { f with blanks := c :: f.blanks }

end Folding

/-- Passes blanks and line breaks and notes them as pending. Inside a plain scalar a tab must not
stand where the indentation of a new line is due; `indent` is the column where it ends. -/
def foldBlanks (indent : Int) : Nat → Folding → Cursor → Option (Folding × Cursor)
  | 0, f, c => some (f, c)
  | fuel + 1, f, c =>
    match c.peek? with
    | none => some (f, c)
    | some char =>
      if isBlank char then
        if f.broken && (c.column : Int) < indent && char == '\t' then none
        else foldBlanks indent fuel (f.addBlank char) c.next
      else if isBreak char then foldBlanks indent fuel (f.addBreak c.breakText) c.nextLine
      else some (f, c)

end SchemaCompiler.Yaml
