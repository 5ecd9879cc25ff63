import SchemaCompiler.Markup.Attribute

/-!
# Markup events

A markup text is a sequence of events: tags that start and end elements, text and literal text
between them, and parts that say nothing about the document, namely comments, declarations and
instructions. `events` lists the events of a text. A part that is no good ends the list with
`Event.malformed`, so that what comes before it can still be acted upon.
-/

namespace SchemaCompiler.Markup

/-- A part of a markup text. -/
inductive Event where
  /-- A tag that starts an element. -/
  | start (tag : String) (attributes : List (String × String))
  /-- A tag that is a whole element. -/
  | empty (tag : String) (attributes : List (String × String))
  /-- A tag that ends an element. -/
  | finish (tag : String)
  /-- Text, with its escapes as they are written. -/
  | text (raw : String)
  /-- Text that stands for itself. -/
  | literal (text : String)
  /-- A comment, declaration or instruction. -/
  | other
  /-- A part that is no good. -/
  | malformed
deriving DecidableEq, Repr

/-! ### Finding the end of a part -/

/-- Cuts after the first place where `ending` stands, once `skip` characters are passed: what comes
before the ending, and what follows it. -/
def upTo? (ending : List Char) : Nat → List Char → Option (List Char × List Char)
  | _, [] => none
  | skip + 1, c :: rest => (upTo? ending skip rest).map (fun p => (c :: p.1, p.2))
  | 0, c :: rest =>
    if ending.isPrefixOf (c :: rest) then some ([], (c :: rest).drop ending.length)
    else (upTo? ending 0 rest).map (fun p => (c :: p.1, p.2))

/-- The inside of a tag up to the bracket that ends it, and what follows. A bracket between quotes
does not end a tag. -/
def tagInside? : Option Char → List Char → Option (List Char × List Char)
  | _, [] => none
  | some quote, c :: rest =>
    (tagInside? (if c == quote then none else some quote) rest).map (fun p => (c :: p.1, p.2))
  | none, c :: rest =>
    if c == '>' then some ([], rest)
    else
      (tagInside? (if c == '"' || c == '\x27' then some c else none) rest).map
        (fun p => (c :: p.1, p.2))

/-- The inside of a declaration up to the bracket that ends it, and what follows. Brackets inside
come in pairs; `depth` counts the open ones. -/
def declarationInside? : Nat → List Char → Option (List Char × List Char)
  | _, [] => none
  | depth, c :: rest =>
    if c == '<' then (declarationInside? (depth + 1) rest).map (fun p => (c :: p.1, p.2))
    else if c == '>' then
      match depth with
      | 0 => some ([], rest)
      | d + 1 => (declarationInside? d rest).map (fun p => (c :: p.1, p.2))
    else (declarationInside? depth rest).map (fun p => (c :: p.1, p.2))

/-! ### Single parts -/

/-- A part together with what follows it and the tags that are open then, innermost first. -/
structure Part where
  /-- The event. -/
  event : Event
  /-- The open tags after it. -/
  openTags : List String
  /-- The characters after it. -/
  rest : List Char

/-- The name of a tag: everything up to the first blank. -/
def tagName (inside : List Char) : String :=
  String.ofList (inside.takeWhile (fun c => !isSpace c))

/-- A tag that starts an element, from after its opening bracket. -/
def startPart? (openTags : List String) (cs : List Char) : Option Part :=
  match tagInside? none cs with
  | none => none
  | some (inside, rest) =>
    let isEmpty := inside.getLast? == some '/'
    let content := if isEmpty then inside.dropLast else inside
    match attributes? (content.dropWhile (fun c => !isSpace c)) with
    | none => none
    | some attributes =>
      let tag := tagName content
      if isEmpty then some ⟨.empty tag attributes, openTags, rest⟩
      else some ⟨.start tag attributes, tag :: openTags, rest⟩

/-- Drops the blanks at the end, unless there is nothing else. -/
def trimTagEnd (cs : List Char) : List Char :=
  if cs.all isSpace then cs else (cs.reverse.dropWhile isSpace).reverse

/-- A tag that ends an element, from after its slash. It must name the innermost open element. -/
def finishPart? (openTags : List String) (cs : List Char) : Option Part :=
  match tagInside? none cs, openTags with
  | some (inside, rest), tag :: outer =>
    if String.ofList (trimTagEnd inside) == tag then some ⟨.finish tag, outer, rest⟩ else none
  | _, _ => none

/-- A comment, from after its exclamation mark. It starts with two dashes, which its end may not
share. -/
def commentPart? (openTags : List String) (cs : List Char) : Option Part :=
  match upTo? ['-', '-', '>'] 2 cs with
  | some ('-' :: '-' :: _, rest) => some ⟨.other, openTags, rest⟩
  | _ => none

/-- Literal text, from after its exclamation mark. -/
def literalPart? (openTags : List String) (cs : List Char) : Option Part :=
  match upTo? [']', ']', '>'] 0 cs with
  | some ('[' :: 'C' :: 'D' :: 'A' :: 'T' :: 'A' :: '[' :: text, rest) =>
    some ⟨.literal (String.ofList text), openTags, rest⟩
  | _ => none

/-- A document type declaration, from after its exclamation mark. It must name something. -/
def doctypePart? (openTags : List String) (cs : List Char) : Option Part :=
  match declarationInside? 0 cs with
  | none => none
  | some (inside, rest) =>
    if (inside.take 7).map Char.toLower == "doctype".toList && (inside.drop 7).any (!isSpace ·) then
      some ⟨.other, openTags, rest⟩
    else none

/-- An instruction, from after its question mark; the one that ends it is another one. -/
def instructionPart? (openTags : List String) (cs : List Char) : Option Part :=
  match cs with
  | '>' :: _ => none
  | _ => (upTo? ['?', '>'] 0 cs).map (fun p => ⟨.other, openTags, p.2⟩)

/-- A part that starts with an opening bracket, from after the bracket. -/
def bracketPart? (openTags : List String) (cs : List Char) : Option Part :=
  match cs with
  | '!' :: '-' :: rest => commentPart? openTags ('-' :: rest)
  | '!' :: '[' :: rest => literalPart? openTags ('[' :: rest)
  | '!' :: 'D' :: rest => doctypePart? openTags ('D' :: rest)
  | '!' :: 'd' :: rest => doctypePart? openTags ('d' :: rest)
  | '!' :: _ => none
  | '/' :: rest => finishPart? openTags rest
  | '?' :: rest => instructionPart? openTags rest
  | _ => startPart? openTags cs

/-! ### All parts -/

/-- The events of the remaining characters. Every part takes at least one character, so `fuel` for
as many parts as there are characters is enough. -/
def eventsFrom (openTags : List String) : Nat → List Char → List Event
  | 0, _ => []
  | fuel + 1, cs =>
    match cs with
    | [] => []
    | '<' :: rest =>
      match bracketPart? openTags rest with
      | none => [.malformed]
      | some part => part.event :: eventsFrom part.openTags fuel part.rest
    | _ =>
      .text (String.ofList (cs.takeWhile (· != '<'))) ::
        eventsFrom openTags fuel (cs.dropWhile (· != '<'))

/-- The events of a markup text. A byte order mark at its start does not count. -/
def events (s : String) : List Event :=
  let cs := match s.toList with
    | '\uFEFF' :: rest => rest
    | cs => cs
  eventsFrom [] cs.length cs

end SchemaCompiler.Markup
