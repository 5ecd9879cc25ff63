import SchemaCompiler.Yaml.Property
import SchemaCompiler.Yaml.Scalar

/-!
# From characters to tokens

Most tokens are told by the next few characters. Two things need memory. Block collections are told
by columns: a stack of indentations says where they end. And a key is only known as such when a
colon follows it on the same line: the place where a key may have started is noted, for each level
of flow collections, and when the colon comes the key token is put in there, with the start of the
mapping before it if the mapping starts with that key.

`tokens` lists the tokens of a text up to its end or to the first place that is no good.
-/

namespace SchemaCompiler.Yaml

/-- A place where a key may have started. -/
structure PossibleKey where
  /-- The number of tokens before it. -/
  number : Nat
  /-- Whether nothing but a key can stand there. -/
  required : Bool
  /-- The place. -/
  start : Cursor

/-- The state of scanning. -/
structure Lexer where
  /-- The place in the text. -/
  cursor : Cursor
  /-- The tokens so far. -/
  tokens : Array Token := #[]
  /-- The number of open flow collections. -/
  flow : Nat := 0
  /-- The column of the innermost block collection, or -1. -/
  indent : Int := -1
  /-- The columns of the block collections around it. -/
  outer : List Int := []
  /-- Whether a key without a mark of its own may start here. -/
  keyAllowed : Bool := true
  /-- The place where a key may have started, for each flow level from the innermost. -/
  keys : List (Option PossibleKey) := [none]

namespace Lexer

/-- Adds a token. -/
def emit (s : Lexer) (t : Token) : Lexer :=
  { s with tokens := s.tokens.push t }

/-- Whether the place is inside a flow collection. -/
def inFlow (s : Lexer) : Bool :=
  0 < s.flow

/-! ### Possible keys -/

/-- Whether a place is too far back for a key: on another line, or more than 1024 bytes before. -/
def isStale (c : Cursor) (k : PossibleKey) : Bool :=
  k.start.line < c.line || k.start.index + 1024 < c.index

/-- Gives up the places that are too far back; a required key must not be given up. -/
def dropStale (s : Lexer) : Option Lexer :=
  let stale (k : Option PossibleKey) : Bool := k.any (isStale s.cursor)
  if s.keys.any (fun k => stale k && k.any PossibleKey.required) then none
  else some { s with keys := s.keys.map (fun k => if stale k then none else k) }

/-- Gives up the innermost place; a required key must not be given up. -/
def dropKey (s : Lexer) : Option Lexer :=
  match s.keys with
  | some k :: rest => if k.required then none else some { s with keys := none :: rest }
  | _ => some s

/-- Notes that a key may start here, if it may. -/
def noteKey (s : Lexer) : Option Lexer :=
  if s.keyAllowed then
    let key : PossibleKey :=
      { number := s.tokens.size
        required := !s.inFlow && s.indent == (s.cursor.column : Int)
        start := s.cursor }
    (dropKey s).map (fun s => { s with keys := some key :: s.keys.drop 1 })
  else some s

/-! ### Indentation -/

/-- Opens a block collection at a column, if that is further in. Its start token comes at the end,
or where a key was found to start. -/
def roll (s : Lexer) (column : Nat) (number : Option Nat) (t : Token) : Lexer :=
  if !s.inFlow && s.indent < (column : Int) then
    let tokens := match number with
      | none => s.tokens.push t
      | some n => s.tokens.insertIdxIfInBounds n t
    { s with tokens, indent := column, outer := s.indent :: s.outer }
  else s

/-- Closes the block collections that are further in than a column. -/
def unrollFrom (column : Int) : List Int → Lexer → Lexer
  | [], s => s
  | previous :: rest, s =>
    if column < s.indent then
      unrollFrom column rest { s.emit .blockEnd with indent := previous, outer := rest }
    else s

/-- Closes the block collections that are further in than a column; none inside flow
collections. -/
def unroll (s : Lexer) (column : Int) : Lexer :=
  if s.inFlow then s else unrollFrom column s.outer s

/-! ### Between tokens -/

/-- Passes blanks, comments and line breaks. Outside flow collections a new line may start a key;
where a key may start, tabs are not passed. A byte order mark at the start of a line is passed too,
and takes a column. -/
def skipGap : Nat → Lexer → Lexer
  | 0, s => s
  | fuel + 1, s =>
    let start := s.cursor
    let start := if start.column == 0 && start.sees '\uFEFF' then start.next else start
    let tabs := s.inFlow || !s.keyAllowed
    let c := (start.skipWhile (fun char => char == ' ' || (tabs && char == '\t'))).skipComment
    if c.atBreak then
      skipGap fuel { s with cursor := c.nextLine, keyAllowed := s.keyAllowed || !s.inFlow }
    else { s with cursor := c }

/-! ### Single tokens -/

/-- Passes some characters that make up a token. -/
def take (s : Lexer) (count : Nat) (t : Token) : Lexer :=
  { s.emit t with cursor := s.cursor.skip count }

/-- The end of the text. -/
def fetchEnd (s : Lexer) : Option Lexer :=
  (s.unroll (-1)).dropKey.map (fun s => { s.emit .streamEnd with keyAllowed := false })

/-- A directive. -/
def fetchDirective (s : Lexer) : Option Lexer :=
  match (s.unroll (-1)).dropKey with
  | none => none
  | some s =>
    (directive? s.cursor).map
      (fun p => { s.emit p.1 with cursor := p.2, keyAllowed := false })

/-- The start or end of a document. -/
def fetchDocument (s : Lexer) (t : Token) : Option Lexer :=
  (s.unroll (-1)).dropKey.map (fun s => { s.take 3 t with keyAllowed := false })

/-- The start of a flow collection. -/
def fetchFlowStart (s : Lexer) (t : Token) : Option Lexer :=
  s.noteKey.map (fun s =>
    { s.take 1 t with keys := none :: s.keys, flow := s.flow + 1, keyAllowed := true })

/-- The end of a flow collection. -/
def fetchFlowEnd (s : Lexer) (t : Token) : Option Lexer :=
  s.dropKey.map (fun s =>
    { s.take 1 t with
      keys := if s.inFlow then s.keys.drop 1 else s.keys
      flow := s.flow - 1
      keyAllowed := false })

/-- A comma of a flow collection. -/
def fetchFlowEntry (s : Lexer) : Option Lexer :=
  s.dropKey.map (fun s => { s.take 1 .flowEntry with keyAllowed := true })

/-- A dash that starts an entry. -/
def fetchBlockEntry (s : Lexer) : Option Lexer :=
  if !s.inFlow && !s.keyAllowed then none
  else
    (s.roll s.cursor.column none .blockSequence).dropKey.map
      (fun s => { s.take 1 .blockEntry with keyAllowed := true })

/-- A question mark that starts a key. -/
def fetchKey (s : Lexer) : Option Lexer :=
  if !s.inFlow && !s.keyAllowed then none
  else
    (s.roll s.cursor.column none .blockMapping).dropKey.map
      (fun s => { s.take 1 .key with keyAllowed := !s.inFlow })

/-- A colon that starts a value. If a key may have started before it, it did. -/
def fetchValue (s : Lexer) : Option Lexer :=
  match s.keys with
  | some k :: rest =>
    let keyed := { s with tokens := s.tokens.insertIdxIfInBounds k.number .key }
    let rolled := keyed.roll k.start.column (some k.number) .blockMapping
    some { rolled.take 1 .value with keys := none :: rest, keyAllowed := false }
  | _ =>
    if !s.inFlow && !s.keyAllowed then none
    else
      let rolled := s.roll s.cursor.column none .blockMapping
      some { rolled.take 1 .value with keyAllowed := !s.inFlow }

/-- A token with a text of its own that may start a key. -/
def fetchContent (s : Lexer) (read : Cursor → Option (Token × Cursor)) : Option Lexer :=
  match s.noteKey with
  | none => none
  | some s =>
    (read s.cursor).map (fun p => { s.emit p.1 with cursor := p.2, keyAllowed := false })

/-- A block scalar. -/
def fetchBlockScalar (s : Lexer) (folded : Bool) : Option Lexer :=
  match s.dropKey with
  | none => none
  | some s =>
    (blockScalar folded s.indent s.cursor).map
      (fun p => { s.emit (.scalar p.1 false) with cursor := p.2, keyAllowed := true })

/-- A plain scalar. After a line break that follows it a key may start. -/
def fetchPlain (s : Lexer) : Option Lexer :=
  match s.noteKey with
  | none => none
  | some s =>
    (plainScalar s.inFlow (s.indent + 1) s.cursor).map
      (fun p => { s.emit (.scalar p.1 true) with cursor := p.2.2, keyAllowed := p.2.1 })

/-- The characters that a plain scalar cannot start with, at least not always. -/
def isIndicator (c : Char) : Bool :=
  "-?:,[]\x7b\x7d#&*!|>\x27\"%@\x60".toList.contains c

/-- Whether a plain scalar may start here. A dash may start one if no blank follows; a question mark
or colon outside flow collections too. -/
def startsPlain (s : Lexer) (char : Char) : Bool :=
  !isIndicator char || (char == '-' && !s.cursor.holdsAt isBlank 1) ||
    (!s.inFlow && (char == '?' || char == ':') && !s.cursor.isGap 1)

/-- The token that starts with a character. -/
def fetchAt (s : Lexer) (char : Char) : Option Lexer :=
  let c := s.cursor
  if c.column == 0 && char == '%' then s.fetchDirective
  else if c.atDocumentMark then
    s.fetchDocument (if char == '-' then .documentStart else .documentEnd)
  else if char == '[' then s.fetchFlowStart .flowSequence
  else if char == '\x7b' then s.fetchFlowStart .flowMapping
  else if char == ']' then s.fetchFlowEnd .flowSequenceEnd
  else if char == '\x7d' then s.fetchFlowEnd .flowMappingEnd
  else if char == ',' then s.fetchFlowEntry
  else if char == '-' && c.isGap 1 then s.fetchBlockEntry
  else if char == '?' && (s.inFlow || c.isGap 1) then s.fetchKey
  else if char == ':' && (s.inFlow || c.isGap 1) then s.fetchValue
  else if char == '*' then
    s.fetchContent (fun c => (anchorName? c).map (fun p => (.alias p.1, p.2)))
  else if char == '&' then
    s.fetchContent (fun c => (anchorName? c).map (fun p => (.anchor p.1, p.2)))
  else if char == '!' then s.fetchContent (tag? s.inFlow)
  else if char == '|' && !s.inFlow then s.fetchBlockScalar false
  else if char == '>' && !s.inFlow then s.fetchBlockScalar true
  else if char == '\x27' || char == '"' then
    s.fetchContent (fun c => (quotedScalar char c).map (fun p => (.scalar p.1 false, p.2)))
  else if !isBlank char && s.startsPlain char then s.fetchPlain
  else none

/-- The next token, or tokens: block collections may end before it. -/
def fetch (s : Lexer) : Option Lexer :=
  match (skipGap (s.cursor.rest.length + 1) s).dropStale with
  | none => none
  | some s =>
    let s := s.unroll s.cursor.column
    match s.cursor.peek? with
    | none => s.fetchEnd
    | some char => s.fetchAt char

/-- The number of tokens that are settled: those before the first place where a key may have
started and may still turn out to be one. -/
def settled (s : Lexer) : Nat :=
  let pending := (s.keys.filterMap id).filter (fun k => k.required || !isStale s.cursor k)
  pending.foldl (fun n k => min n k.number) s.tokens.size

/-- The next token of a text that may be cut off; then a step that comes close to the end fails,
since it looks at characters that cannot be had. -/
def fetchBefore (cut : Bool) (s : Lexer) : Option Lexer :=
  s.fetch.filter (fun next => !cut || 4 ≤ (next.cursor.rest.take 4).length)

/-- Goes on until the text ends or something is no good. Every step but the last takes at least one
character. When a step fails, the tokens that were not settled before it are lost. -/
def run (cut : Bool) : Nat → Lexer → List Token
  | 0, s => s.tokens.toList
  | fuel + 1, s =>
    match s.fetchBefore cut with
    | none => s.tokens.toList.take s.settled
    | some next =>
      if next.tokens.back? == some .streamEnd then next.tokens.toList else run cut fuel next

end Lexer

/-! ### Blocks -/

/-- The number of bytes that are read at once. -/
def blockSize : Nat := 16384

/-- The number of characters before the first block that holds a character that is not allowed, if
there is such a block. The blocks are as long as whole characters fit. Given are the number of
characters before the block, the number of characters before the place, and the number of bytes
between the two. -/
def readableFrom (start place used : Nat) : List Char → Option Nat
  | [] => none
  | c :: rest =>
    let fits := used + c.utf8Size ≤ blockSize
    let start := if fits then start else place
    let used := if fits then used + c.utf8Size else c.utf8Size
    if isAllowed c then readableFrom start (place + 1) used rest else some start

/-- The tokens of a text, up to the end or to the first place that is no good. A block with a
character that is not allowed cannot be read. -/
def tokens (s : String) : List Token :=
  let cs := s.toList
  match readableFrom 0 0 0 cs with
  | none => Lexer.run false (cs.length + 2) { cursor := { rest := cs } }
  | some n => Lexer.run true (n + 2) { cursor := { rest := cs.take n } }

end SchemaCompiler.Yaml
