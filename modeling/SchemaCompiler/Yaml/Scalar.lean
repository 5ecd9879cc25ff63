import SchemaCompiler.Text.Hexadecimal
import SchemaCompiler.Yaml.Folding

/-!
# Scalars

The three ways to write a scalar. A plain one stands for itself up to the first mark that ends it. A
quoted one stands between quotes, single quotes doubled or double quotes with escapes. A block
scalar takes the following lines that are indented, either as they are or folded, and its header
says what becomes of the line breaks at its end.
-/

namespace SchemaCompiler.Yaml

/-! ### Plain scalars -/

/-- The characters that structure flow collections. -/
def isFlowMark (c : Char) : Bool :=
  c == ',' || c == '[' || c == ']' || c == '\x7b' || c == '\x7d'

/-- Whether a colon in a flow collection is followed by something that makes it ambiguous. -/
def ambiguousColon (inFlow : Bool) (c : Cursor) : Bool :=
  inFlow && c.sees ':' && c.holdsAt (fun char => isFlowMark char || char == '?') 1

/-- Whether a plain scalar ends before the next character. -/
def endsPlain (inFlow : Bool) (c : Cursor) : Bool :=
  (c.sees ':' && c.isGap 1) || (inFlow && c.holdsAt isFlowMark 0)

/-- Reads the characters of a plain scalar up to a blank, a line break or its end. What is pending
is added before the first of them. -/
def plainWord (inFlow : Bool) : Nat → Folding → Cursor → Option (Folding × Cursor)
  | 0, f, c => some (f, c)
  | fuel + 1, f, c =>
    match c.peek? with
    | none => some (f, c)
    | some char =>
      if isBlank char || isBreak char then some (f, c)
      else if ambiguousColon inFlow c then none
      else if endsPlain inFlow c then some (f, c)
      else plainWord inFlow fuel (f.join.push char) c.next

/-- Reads the words of a plain scalar and what stands between them. A continuation line of a block
scalar is indented at least to `indent`. -/
def plainWords (inFlow : Bool) (indent : Int) : Nat → Folding → Cursor → Option (Folding × Cursor)
  | 0, f, c => some (f, c)
  | fuel + 1, f, c =>
    if c.atDocumentMark || c.sees '#' then some (f, c)
    else
      match plainWord inFlow (c.rest.length + 1) f c with
      | none => none
      | some (f, c) =>
        if !(c.atBlank || c.atBreak) then some (f, c)
        else
          match foldBlanks indent (c.rest.length + 1) f c with
          | none => none
          | some (f, c) =>
            if !inFlow && (c.column : Int) < indent then some (f, c)
            else plainWords inFlow indent fuel f c

/-- A plain scalar: its text, whether a line break follows it, and the place after it. -/
def plainScalar (inFlow : Bool) (indent : Int) (c : Cursor) : Option (String × Bool × Cursor) :=
  (plainWords inFlow indent (c.rest.length + 1) {} c).map
    (fun p => (String.ofList p.1.text.reverse, p.1.broken, p.2))

/-! ### Quoted scalars -/

/-- The characters with an escape of one letter between double quotes. -/
def escapeLetter? (c : Char) : Option Char :=
  match c with
  | '0' => some '\x00'
  | 'a' => some '\x07'
  | 'b' => some '\x08'
  | 't' => some '\t'
  | '\t' => some '\t'
  | 'n' => some '\n'
  | 'v' => some '\x0b'
  | 'f' => some '\x0c'
  | 'r' => some '\r'
  | 'e' => some '\x1b'
  | ' ' => some ' '
  | '"' => some '"'
  | '/' => some '/'
  | '\\' => some '\\'
  | 'N' => some '\x85'
  | '_' => some '\xa0'
  | 'L' => some '\u2028'
  | 'P' => some '\u2029'
  | _ => none

/-- The number of hexadecimal digits after an escape letter. -/
def escapeDigits? (c : Char) : Option Nat :=
  match c with
  | 'x' => some 2
  | 'u' => some 4
  | 'U' => some 8
  | _ => none

/-- The character of an escape that stands here, from after the backslash, and the place after. -/
def escapedChar? (c : Cursor) : Option (Char × Cursor) :=
  match c.peek? with
  | none => none
  | some letter =>
    match escapeLetter? letter, escapeDigits? letter with
    | some char, _ => some (char, c.next)
    | none, none => none
    | none, some count =>
      let digits := c.next.rest.take count
      if digits.length < count then none
      else
        ((Text.ofHexDigits? digits).bind Text.charWithNumber?).map
          (fun char => (char, c.next.skip count))

/-- Reads the characters of a quoted scalar up to a blank, a line break, its end or an escaped line
break. -/
def quotedWord (quote : Char) : Nat → Folding → Cursor → Option (Folding × Cursor)
  | 0, f, c => some (f, c)
  | fuel + 1, f, c =>
    match c.peek? with
    | none => some (f, c)
    | some char =>
      if isBlank char || isBreak char then some (f, c)
      else if quote == '\x27' && char == '\x27' && c.at? 1 == some '\x27' then
        quotedWord quote fuel (f.push '\x27') (c.skip 2)
      else if char == quote then some (f, c)
      else if quote == '"' && char == '\\' then
        if c.holdsAt isBreak 1 then some ({ f with broken := true }, c.next.nextLine)
        else
          match escapedChar? c.next with
          | none => none
          | some (escaped, after) => quotedWord quote fuel (f.push escaped) after
      else quotedWord quote fuel (f.push char) c.next

/-- Reads the words of a quoted scalar and what stands between them, up to the closing quote. -/
def quotedWords (quote : Char) : Nat → Folding → Cursor → Option (Folding × Cursor)
  | 0, _, _ => none
  | fuel + 1, f, c =>
    if c.atDocumentMark || c.atEnd then none
    else
      match quotedWord quote (c.rest.length + 1) f c with
      | none => none
      | some (f, c) =>
        if c.sees quote then some (f, c.next)
        else
          match foldBlanks 0 (c.rest.length + 1) f c with
          | none => none
          | some (f, c) => quotedWords quote fuel f.join c

/-- A quoted scalar from its opening quote on: its text and the place after it. -/
def quotedScalar (quote : Char) (c : Cursor) : Option (String × Cursor) :=
  (quotedWords quote (c.rest.length + 2) {} c.next).map
    (fun p => (String.ofList p.1.text.reverse, p.2))

/-! ### Block scalars -/

/-- What becomes of the line breaks at the end of a block scalar. -/
inductive Chomping where
  /-- All are dropped. -/
  | strip
  /-- One is kept. -/
  | clip
  /-- All are kept. -/
  | keep
deriving DecidableEq

/-- The chomping mark that stands here, if there is one, and the place after it. -/
def chompingMark (c : Cursor) : Option Chomping × Cursor :=
  if c.sees '+' then (some .keep, c.next)
  else if c.sees '-' then (some .strip, c.next)
  else (none, c)

/-- The indentation mark that stands here, if there is one, and the place after it. It is a digit
other than zero. -/
def indentMark (c : Cursor) : Option (Option Nat × Cursor) :=
  match c.peek? with
  | some char =>
    if char == '0' then none
    else if char.isDigit then some (some (char.toNat - 48), c.next)
    else some (none, c)
  | none => some (none, c)

/-- The header of a block scalar after its first character: the chomping, the indentation if it is
given, and the place at the start of the next line. The two marks may stand in either order. -/
def blockHeader (c : Cursor) : Option (Chomping × Option Nat × Cursor) :=
  let marks : Option (Option Chomping × Option Nat × Cursor) :=
    match chompingMark c with
    | (some chomping, c) => (indentMark c).map (fun p => (some chomping, p.1, p.2))
    | (none, c) =>
      match indentMark c with
      | none => none
      | some (none, c) => some (none, none, c)
      | some (some n, c) => let (chomping, c) := chompingMark c; some (chomping, some n, c)
  match marks with
  | none => none
  | some (chomping, increment, c) =>
    let c := c.skipBlanks.skipComment
    if c.atLineEnd then some (chomping.getD .clip, increment, c.nextLine) else none

/-- Passes the indentation of lines and empty lines, up to the first line with content. Returns the
breaks in reverse, the greatest column reached and the place. An indentation that is not known yet
is zero. -/
def blockBreaks (indent : Nat) :
    Nat → List Char → Nat → Cursor → Option (List Char × Nat × Cursor)
  | 0, breaks, widest, c => some (breaks, widest, c)
  | fuel + 1, breaks, widest, c =>
    let spaces := (c.takeWhile (· == ' ')).length
    let c := c.skip (if indent == 0 then spaces else min spaces (indent - c.column))
    let widest := max widest c.column
    if (indent == 0 || c.column < indent) && c.sees '\t' then none
    else if c.atBreak then
      blockBreaks indent fuel (c.breakText.reverse ++ breaks) widest c.nextLine
    else some (breaks, widest, c)

/-- The lines of a block scalar so far. Lists of characters are in reverse. -/
structure BlockText where
  /-- The text. -/
  text : List Char := []
  /-- The line break behind the last line. -/
  first : List Char := []
  /-- The further line breaks behind it. -/
  more : List Char := []
  /-- Whether the last line starts with a blank. -/
  wasBlank : Bool := false

/-- Adds a line. In a folded scalar, a line break between two lines that do not start with a blank
becomes a space, or is dropped before further ones. -/
def BlockText.addLine (b : BlockText) (folded startsBlank : Bool) (line : List Char) : BlockText :=
  let gap :=
    if folded && b.first == ['\n'] && !b.wasBlank && !startsBlank then
      if b.more.isEmpty then [' '] else b.more
    else b.more ++ b.first
  { text := line.reverse ++ (gap ++ b.text), wasBlank := startsBlank }

/-- The text with its last line breaks treated as the header says. -/
def BlockText.finish (b : BlockText) (chomping : Chomping) : String :=
  let ending := match chomping with
    | .strip => []
    | .clip => b.first
    | .keep => b.more ++ b.first
  String.ofList (ending ++ b.text).reverse

/-- Reads the lines of a block scalar with a known indentation. -/
def blockLines (folded : Bool) (indent : Nat) :
    Nat → BlockText → Cursor → Option (BlockText × Cursor)
  | 0, b, c => some (b, c)
  | fuel + 1, b, c =>
    if c.column != indent || c.atEnd then some (b, c)
    else
      let line := c.takeWhile (fun char => !isBreak char)
      let added := b.addLine folded c.atBlank line
      let ending := c.skipWhile (fun char => !isBreak char)
      match blockBreaks indent (ending.rest.length + 1) [] 0 ending.nextLine with
      | none => none
      | some (breaks, _, after) =>
        blockLines folded indent fuel { added with first := ending.breakText, more := breaks } after

/-- A block scalar from its first character on, inside a collection of the given indentation: its
text and the place after it. -/
def blockScalar (folded : Bool) (parent : Int) (c : Cursor) : Option (String × Cursor) :=
  match blockHeader c.next with
  | none => none
  | some (chomping, increment, c) =>
    let given : Nat := match increment with
      | none => 0
      | some n => (max parent 0).toNat + n
    match blockBreaks given (c.rest.length + 1) [] 0 c with
    | none => none
    | some (breaks, widest, c) =>
      let indent := if given == 0 then max widest (max (parent + 1).toNat 1) else given
      (blockLines folded indent (c.rest.length + 1) { more := breaks } c).map
        (fun p => (p.1.finish chomping, p.2))

end SchemaCompiler.Yaml
