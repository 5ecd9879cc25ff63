import SchemaCompiler.Yaml.Token

/-!
# Nodes

A document is a node: a scalar, a sequence of nodes, a mapping from nodes to nodes, or an alias for
a node that stands elsewhere. `Node.ofTokens?` builds the nodes of one document from its tokens.

Where a value or key is missing an empty plain scalar stands for it. Tags are written with handles;
what a handle stands for is said by the directives before the document.

Anchors are numbered. A new anchor gets the number of different names in use before it, so a name
that is used again takes a number that the next new name takes as well.
-/

namespace SchemaCompiler.Yaml

/-- A node of a document. -/
inductive Node where
  /-- A scalar; `plain` says that it stood without quotes. -/
  | scalar (anchor : Option Nat) (tag : Option TagBytes) (text : String) (plain : Bool)
  /-- A sequence. -/
  | sequence (anchor : Option Nat) (tag : Option TagBytes) (items : List Node)
  /-- A mapping. -/
  | mapping (anchor : Option Nat) (tag : Option TagBytes) (pairs : List (Node × Node))
  /-- A node that stands elsewhere under a number. -/
  | alias (target : Nat)

/-- What is left of the tokens of a text, and what the document so far has declared. -/
structure Remainder where
  /-- The tokens that are left. -/
  tokens : List Token
  /-- The tag handles, each with what it stands for. -/
  handles : List (String × TagBytes) := []
  /-- The numbers of anchors, latest first. -/
  anchors : List (String × Nat) := []

namespace Remainder

/-- The next token. -/
def peek? (r : Remainder) : Option Token :=
  r.tokens.head?

/-- Passes one token. -/
def drop (r : Remainder) : Remainder :=
  { r with tokens := r.tokens.tail }

/-- Gives an anchor the number of different names so far. -/
def declare (r : Remainder) (name : String) : Nat × Remainder :=
  let number := r.anchors.length
  (number, { r with anchors := (name, number) :: r.anchors.filter (fun p => p.1 != name) })

/-- Gives an anchor a number if there is one. -/
def declare? (r : Remainder) : Option String → Option Nat × Remainder
  | none => (none, r)
  | some name =>
    let (number, r) := r.declare name
    (some number, r)

end Remainder

/-! ### Properties -/

/-- The properties of a node: an anchor, and a tag with its handle. -/
structure Properties where
  /-- The anchor. -/
  anchor : Option String := none
  /-- The handle and suffix of the tag. -/
  tag : Option (String × TagBytes) := none

/-- An anchor and a tag, in either order, each at most once. -/
def properties : List Token → Properties × List Token
  | .anchor a :: .tag h s :: rest => ({ anchor := some a, tag := some (h, s) }, rest)
  | .anchor a :: rest => ({ anchor := some a }, rest)
  | .tag h s :: .anchor a :: rest => ({ anchor := some a, tag := some (h, s) }, rest)
  | .tag h s :: rest => ({ tag := some (h, s) }, rest)
  | rest => ({}, rest)

/-- The tag that a handle and a suffix stand for; without a handle it is the suffix alone. -/
def fullTag? (handles : List (String × TagBytes)) (handle : String) (suffix : TagBytes) :
    Option TagBytes :=
  if handle.isEmpty then some suffix else (handles.lookup handle).map (· ++ suffix)

/-- The tag of some properties; an unknown handle is no good. -/
def Properties.tag? (p : Properties) (handles : List (String × TagBytes)) :
    Option (Option TagBytes) :=
  match p.tag with
  | none => some none
  | some (handle, suffix) => (fullTag? handles handle suffix).map some

/-! ### Nodes from tokens -/

/-- The scalar that stands for what is missing. -/
def Node.missing : Node :=
  .scalar none none "" true

/-- Where a node stands. -/
inductive Place where
  /-- In a block collection or at the top. -/
  | block
  /-- A key or value of a block mapping: here a sequence may do without indentation. -/
  | member
  /-- In a flow collection. -/
  | flow
deriving DecidableEq, Repr

/-- The result of reading something: what was read and what is left. -/
abbrev Read (α : Type) := Option (α × Remainder)

/-- Adds an item in front of the items that are read after it. -/
def Read.cons {α : Type} (a : α) (r : Read (List α)) : Read (List α) :=
  r.map (fun p => (a :: p.1, p.2))

mutual

/-- A node. -/
def readNode (place : Place) : Nat → Remainder → Read Node
  | 0, _ => none
  | fuel + 1, r =>
    match r.tokens with
    | .alias name :: rest =>
      (r.anchors.lookup name).map (fun n => (.alias n, { r with tokens := rest }))
    | tokens =>
      let (found, rest) := properties tokens
      match found.tag? r.handles with
      | none => none
      | some tag => readContent place found.anchor tag fuel { r with tokens := rest }

/-- A node after its properties. -/
def readContent (place : Place) (name : Option String) (tag : Option TagBytes) :
    Nat → Remainder → Read Node
  | 0, _ => none
  | fuel + 1, r =>
    match r.peek? with
    | some (.scalar text plain) =>
      let (anchor, r) := r.declare? name
      some (.scalar anchor tag text plain, r.drop)
    | some .flowSequence =>
      let (anchor, r) := r.declare? name
      (readFlowItems true fuel r.drop).map (fun p => (.sequence anchor tag p.1, p.2))
    | some .flowMapping =>
      let (anchor, r) := r.declare? name
      (readFlowPairs true fuel r.drop).map (fun p => (.mapping anchor tag p.1, p.2))
    | some token =>
      let (anchor, r) := r.declare? name
      if place == .member && token == .blockEntry then
        (readLooseItems fuel r).map (fun p => (.sequence anchor tag p.1, p.2))
      else if place != .flow && token == .blockSequence then
        (readBlockItems fuel r.drop).map (fun p => (.sequence anchor tag p.1, p.2))
      else if place != .flow && token == .blockMapping then
        (readBlockPairs fuel r.drop).map (fun p => (.mapping anchor tag p.1, p.2))
      else if name.isSome || tag.isSome then some (.scalar anchor tag "" true, r)
      else none
    | none => none

/-- A node, or the missing scalar if one of some tokens follows. -/
def readUnless (place : Place) (stops : List Token) : Nat → Remainder → Read Node
  | 0, _ => none
  | fuel + 1, r =>
    match r.peek? with
    | none => none
    | some token => if stops.contains token then some (.missing, r) else readNode place fuel r

/-- The items of a block sequence up to its end. -/
def readBlockItems : Nat → Remainder → Read (List Node)
  | 0, _ => none
  | fuel + 1, r =>
    match r.peek? with
    | some .blockEntry =>
      match readUnless .block [.blockEntry, .blockEnd] fuel r.drop with
      | none => none
      | some (item, r) => Read.cons item (readBlockItems fuel r)
    | some .blockEnd => some ([], r.drop)
    | _ => none

/-- The items of a sequence without indentation; whatever is no item ends it. -/
def readLooseItems : Nat → Remainder → Read (List Node)
  | 0, _ => none
  | fuel + 1, r =>
    match r.peek? with
    | some .blockEntry =>
      match readUnless .block [.blockEntry, .key, .value, .blockEnd] fuel r.drop with
      | none => none
      | some (item, r) => Read.cons item (readLooseItems fuel r)
    | some _ => some ([], r)
    | none => none

/-- The pairs of a block mapping up to its end. -/
def readBlockPairs : Nat → Remainder → Read (List (Node × Node))
  | 0, _ => none
  | fuel + 1, r =>
    match r.peek? with
    | some .key =>
      match readUnless .member [.key, .value, .blockEnd] fuel r.drop with
      | none => none
      | some (key, r) =>
        match readValue .member [.key, .value, .blockEnd] fuel r with
        | none => none
        | some (value, r) => Read.cons (key, value) (readBlockPairs fuel r)
    | some .blockEnd => some ([], r.drop)
    | _ => none

/-- The value of a pair, or the missing scalar. -/
def readValue (place : Place) (stops : List Token) : Nat → Remainder → Read Node
  | 0, _ => none
  | fuel + 1, r =>
    match r.peek? with
    | some .value => readUnless place stops fuel r.drop
    | some _ => some (.missing, r)
    | none => none

/-- The items of a flow sequence up to its end. Before all but the first stands a comma. -/
def readFlowItems (first : Bool) : Nat → Remainder → Read (List Node)
  | 0, _ => none
  | fuel + 1, r =>
    if r.peek? == some .flowSequenceEnd then some ([], r.drop)
    else if !first && r.peek? != some .flowEntry then none
    else
      let r := if first then r else r.drop
      match r.peek? with
      | some .flowSequenceEnd => some ([], r.drop)
      | some .key =>
        match readPairItem fuel r.drop with
        | none => none
        | some (item, r) => Read.cons item (readFlowItems false fuel r)
      | _ =>
        match readNode .flow fuel r with
        | none => none
        | some (item, r) => Read.cons item (readFlowItems false fuel r)

/-- A pair that stands as an item of a flow sequence: a mapping with this pair alone. When the key
is missing, the token that shows it is passed as well. -/
def readPairItem : Nat → Remainder → Read Node
  | 0, _ => none
  | fuel + 1, r =>
    let stops : List Token := [.flowEntry, .flowSequenceEnd]
    match readUnless .flow (.value :: stops) fuel r with
    | none => none
    | some (key, after) =>
      let passed := r.peek?.any (fun token => (Token.value :: stops).contains token)
      let r := if passed then after.drop else after
      (readValue .flow stops fuel r).map (fun p => (.mapping none none [(key, p.1)], p.2))

/-- The pairs of a flow mapping up to its end. Before all but the first stands a comma. -/
def readFlowPairs (first : Bool) : Nat → Remainder → Read (List (Node × Node))
  | 0, _ => none
  | fuel + 1, r =>
    if r.peek? == some .flowMappingEnd then some ([], r.drop)
    else if !first && r.peek? != some .flowEntry then none
    else
      let r := if first then r else r.drop
      let stops : List Token := [.flowEntry, .flowMappingEnd]
      match r.peek? with
      | some .flowMappingEnd => some ([], r.drop)
      | some .key =>
        match readUnless .flow (.value :: stops) fuel r.drop with
        | none => none
        | some (key, r) =>
          match readValue .flow stops fuel r with
          | none => none
          | some (value, r) => Read.cons (key, value) (readFlowPairs false fuel r)
      | _ =>
        match readNode .flow fuel r with
        | none => none
        | some (key, r) => Read.cons (key, .missing) (readFlowPairs false fuel r)

end

/-! ### Documents -/

/-- The directives before a document. -/
structure Directives where
  /-- Whether a version was given. -/
  version : Bool := false
  /-- The tag handles. -/
  handles : List (String × TagBytes) := []

/-- Reads the directives before a document. A version other than 1.1 and 1.2, a second version and
a handle that is declared twice are no good. -/
def readDirectives (d : Directives) : List Token → Option (Directives × List Token)
  | .version major minor :: rest =>
    if d.version || major != 1 || (minor != 1 && minor != 2) then none
    else readDirectives { d with version := true } rest
  | .tagHandle handle meaning :: rest =>
    if (d.handles.lookup handle).isSome then none
    else readDirectives { d with handles := d.handles ++ [(handle, meaning)] } rest
  | rest => some (d, rest)

/-- The handles that are known without being declared. -/
def standardHandles : List (String × TagBytes) :=
  [("!", .ofText "!"), ("!!", .ofText "tag:yaml.org,2002:")]

/-- Whether a token stands before or after a document's content. -/
def Token.isBoundary : Token → Bool
  | .version _ _ | .tagHandle _ _ | .documentStart | .documentEnd | .streamEnd => true
  | _ => false

/-- The root of a document, and the tokens after it with at most one mark that ends it. The
content of a document that starts with a mark may be missing. -/
def readRoot (handles : List (String × TagBytes)) (marked : Bool) (tokens : List Token) :
    Option (Node × List Token) :=
  let root? :=
    if marked && tokens.head?.any Token.isBoundary then some (.missing, { tokens })
    else readNode .block (4 * tokens.length + 8) { tokens, handles := handles ++ standardHandles }
  match root? with
  | none => none
  | some (root, r) =>
    match r.tokens with
    | [] => none
    | .documentEnd :: rest => some (root, rest)
    | rest => some (root, rest)

/-- What reading on in a text gives. -/
inductive Step where
  /-- A document, and the tokens after it. -/
  | document (root : Node) (rest : List Token)
  /-- The end of the text. -/
  | finished
  /-- Something that is no good. -/
  | failed

/-- A document that starts with directives or a mark. -/
def markedDocument (tokens : List Token) : Step :=
  match readDirectives {} tokens with
  | some (d, .documentStart :: rest) =>
    match readRoot d.handles true rest with
    | some (root, rest) => .document root rest
    | none => .failed
  | _ => .failed

/-- The first document, which may start without a mark. -/
def firstDocument (tokens : List Token) : Step :=
  match tokens with
  | [] => .failed
  | [.streamEnd] => .finished
  | .version _ _ :: _ | .tagHandle _ _ :: _ | .documentStart :: _ => markedDocument tokens
  | _ =>
    match readRoot [] false tokens with
    | some (root, rest) => .document root rest
    | none => .failed

/-- A later document; marks that end documents may stand before it. -/
def nextDocument : List Token → Step
  | .documentEnd :: rest => nextDocument rest
  | [] => .failed
  | [.streamEnd] => .finished
  | tokens => markedDocument tokens

end SchemaCompiler.Yaml
