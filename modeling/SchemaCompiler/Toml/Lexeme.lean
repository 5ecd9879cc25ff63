import SchemaCompiler.Text.Hexadecimal

/-!
# Characters and texts of TOML

A text in quotes is of one of four sorts: with or without escapes, and on one line or on several.
Readers take the characters from some place on and return what they found with the characters after
it; they return nothing if what stands there is no good.
-/

namespace SchemaCompiler.Toml

/-- The result of reading something: what was found and the characters after it. -/
abbrev Read (α : Type) := Option (α × List Char)

/-- Spaces and tabs. -/
def isBlank (c : Char) : Bool :=
  c == ' ' || c == '\t'

/-- The characters of texts and comments: all but control characters, with tabs. -/
def isPrintable (c : Char) : Bool :=
  c == '\t' || (0x20 ≤ c.toNat && c.toNat != 0x7f)

/-- Passes spaces and tabs. -/
def skipBlanks (cs : List Char) : List Char :=
  cs.dropWhile isBlank

/-- Passes a line break, if one stands here. -/
def lineBreak? : List Char → Option (List Char)
  | '\n' :: rest => some rest
  | '\r' :: '\n' :: rest => some rest
  | _ => none

/-- Passes a comment up to the end of its line, if one stands here. -/
def skipComment (cs : List Char) : List Char :=
  match cs with
  | '#' :: rest => rest.dropWhile isPrintable
  | _ => cs

/-- Passes blanks, comments and line breaks. -/
def skipLines : Nat → List Char → List Char
  | 0, cs => cs
  | fuel + 1, cs =>
    let rest := skipComment (skipBlanks cs)
    match lineBreak? rest with
    | some next => skipLines fuel next
    | none => rest

/-! ### Escapes -/

/-- The characters with an escape of one letter. -/
def escapeLetter? (c : Char) : Option Char :=
  match c with
  | 'b' => some '\x08'
  | 't' => some '\t'
  | 'n' => some '\n'
  | 'f' => some '\x0c'
  | 'r' => some '\r'
  | '"' => some '"'
  | '\\' => some '\\'
  | _ => none

/-- The character with a number of so many hexadecimal digits. -/
def numbered? (count : Nat) (cs : List Char) : Read Char :=
  let digits := cs.take count
  if digits.length < count then none
  else
    ((Text.ofHexDigits? digits).bind Text.charWithNumber?).map (fun c => (c, cs.drop count))

/-- The character of an escape, from after the backslash. -/
def escaped? : List Char → Read Char
  | 'u' :: rest => numbered? 4 rest
  | 'U' :: rest => numbered? 8 rest
  | c :: rest => (escapeLetter? c).map (fun e => (e, rest))
  | [] => none

/-! ### Texts on one line -/

/-- The rest of a text with escapes. -/
def basicFrom : Nat → List Char → List Char → Read String
  | 0, _, _ => none
  | _, _, [] => none
  | fuel + 1, done, c :: rest =>
    if c == '"' then some (String.ofList done.reverse, rest)
    else if c == '\\' then
      match escaped? rest with
      | some (e, rest) => basicFrom fuel (e :: done) rest
      | none => none
    else if isPrintable c then basicFrom fuel (c :: done) rest
    else none

/-- The rest of a text without escapes. -/
def literalFrom (cs : List Char) : Read String :=
  let text := cs.takeWhile (fun c => isPrintable c && c != '\x27')
  match cs.drop text.length with
  | '\x27' :: rest => some (String.ofList text, rest)
  | _ => none

/-! ### Texts on several lines -/

/-- The number of quotes at some place. -/
def quoteCount (quote : Char) (cs : List Char) : Nat :=
  (cs.takeWhile (· == quote)).length

/-- Passes blanks and line breaks after a backslash that ends a line. -/
def skipContinuation (cs : List Char) : Option (List Char) :=
  match lineBreak? (skipBlanks cs) with
  | none => none
  | some rest =>
    let passed := rest.dropWhile (fun c => isBlank c || c == '\n' || c == '\r')
    let gap := rest.take (rest.length - passed.length)
    if loneReturn gap then none else some passed
where
  /-- Whether a carriage return stands without a line feed after it. -/
  loneReturn : List Char → Bool
    | '\r' :: '\n' :: rest => loneReturn rest
    | '\r' :: _ => true
    | _ :: rest => loneReturn rest
    | [] => false

/-- The rest of a text on several lines. It ends at three quotes in a row; up to two more quotes
before those belong to it. A line break is a line feed, however it was written. -/
def longFrom (quote : Char) : Nat → List Char → List Char → Read String
  | 0, _, _ => none
  | _, _, [] => none
  | fuel + 1, done, c :: rest =>
    if c == quote then
      let count := quoteCount quote (c :: rest)
      if 3 ≤ count then
        let extra := min (count - 3) 2
        some (String.ofList (done.reverse ++ List.replicate extra quote),
          (c :: rest).drop (3 + extra))
      else longFrom quote fuel (c :: done) rest
    else if quote == '"' && c == '\\' then
      match escaped? rest with
      | some (e, rest) => longFrom quote fuel (e :: done) rest
      | none =>
        match skipContinuation rest with
        | some rest => longFrom quote fuel done rest
        | none => none
    else
      match lineBreak? (c :: rest) with
      | some rest => longFrom quote fuel ('\n' :: done) rest
      | none => if isPrintable c then longFrom quote fuel (c :: done) rest else none

/-- A text on several lines from after its opening quotes; a line break right there is not part of
it. -/
def longText (quote : Char) (cs : List Char) : Read String :=
  longFrom quote (cs.length + 1) [] ((lineBreak? cs).getD cs)

/-- A text on one line from its quote on. -/
def shortText? : List Char → Read String
  | '"' :: rest => basicFrom (rest.length + 1) [] rest
  | '\x27' :: rest => literalFrom rest
  | _ => none

/-- A text of any sort from its quote on. -/
def text? : List Char → Read String
  | '"' :: '"' :: '"' :: rest => longText '"' rest
  | '\x27' :: '\x27' :: '\x27' :: rest => longText '\x27' rest
  | cs => shortText? cs

/-! ### Keys -/

/-- The characters of keys that stand without quotes. -/
def isKeyChar (c : Char) : Bool :=
  c.isAlphanum || c == '-' || c == '_'

/-- A single key. -/
def simpleKey? (cs : List Char) : Read String :=
  match cs with
  | '"' :: _ | '\x27' :: _ => shortText? cs
  | _ =>
    let word := cs.takeWhile isKeyChar
    if word.isEmpty then none else some (String.ofList word, cs.drop word.length)

/-- How deep collections may lie in each other, and how many keys points may join. -/
def maxDepth : Nat := 79

/-- A key with the keys that points join to it. Blanks around the keys are passed. -/
def keyFrom : Nat → List Char → Read (List String)
  | 0, _ => none
  | fuel + 1, cs =>
    match simpleKey? (skipBlanks cs) with
    | none => none
    | some (name, rest) =>
      match skipBlanks rest with
      | '.' :: rest => (keyFrom fuel rest).map (fun p => (name :: p.1, p.2))
      | rest => some ([name], rest)

/-- A key with the keys that points join to it, if they are not too many. -/
def key? (cs : List Char) : Read (List String) :=
  (keyFrom (cs.length + 1) cs).filter (fun p => p.1.length ≤ maxDepth)

end SchemaCompiler.Toml
