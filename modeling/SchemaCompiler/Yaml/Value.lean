import SchemaCompiler.Decimal.Shortest
import SchemaCompiler.Text.Hexadecimal
import SchemaCompiler.Text.Lines
import SchemaCompiler.Yaml.Node

/-!
# Values

What a document says, once aliases are followed and scalars are resolved. A plain scalar may be the
null value, a truth value, a whole number or a decimal fraction; every other scalar is a text. A tag
that is local to an application makes a value of its own kind.

Values are nested at most `maxDepth` collections deep, aliases may be followed a hundred times for
each part of the document, and a mapping has no key twice.
-/

namespace SchemaCompiler.Yaml

open Decimal (Binary64)

/-- A value. -/
inductive Value where
  /-- No value. -/
  | null
  /-- A truth value. -/
  | bool (b : Bool)
  /-- A whole number. -/
  | int (n : Int)
  /-- A decimal fraction. -/
  | float (x : Binary64)
  /-- A text. -/
  | text (s : String)
  /-- A sequence. -/
  | sequence (items : List Value)
  /-- A mapping, in source order. -/
  | mapping (pairs : List (Value × Value))
  /-- A value with a tag of the application. -/
  | tagged (tag : String) (value : Value)
deriving Inhabited

/-! ### Scalars -/

/-- Whether a text is a number with a leading zero, which is no number. -/
def hasLeadingZero (cs : List Char) : Bool :=
  let digits := match cs with
    | '+' :: rest => rest
    | '-' :: rest => rest
    | _ => cs
  match digits with
  | '0' :: c :: rest => (c :: rest).all Char.isDigit
  | _ => false

/-- The digits of a number after the mark of its base, if there are any but signs. -/
def basedDigits? (cs : List Char) : Option Nat :=
  match cs with
  | '0' :: 'x' :: rest => Text.ofHexDigits? rest
  | '0' :: 'o' :: rest => ofBase? 8 rest
  | '0' :: 'b' :: rest => ofBase? 2 rest
  | _ => none
where
  /-- The number that digits of a base stand for. -/
  ofBase? (base : Nat) (digits : List Char) : Option Nat :=
    if !digits.isEmpty && digits.all (fun c => c.isDigit && c.toNat - '0'.toNat < base) then
      some (Nat.ofDigitChars base digits 0)
    else none

/-- The whole number that a scalar stands for, whatever its size. -/
def wholeNumber? (cs : List Char) : Option Int :=
  let unsigned? (digits : List Char) : Option Nat :=
    (basedDigits? digits).or (if hasLeadingZero digits then none else Decimal.ofDigits? digits)
  match cs with
  | '+' :: rest => (unsigned? rest).map Int.ofNat
  | '-' :: rest => (unsigned? rest).map (fun n => -Int.ofNat n)
  | _ => (unsigned? cs).map Int.ofNat

/-- What a scalar that looks like a whole number gives. -/
inductive Whole where
  /-- A number that is small enough. -/
  | value (n : Int)
  /-- A number that is too large to be used and too small to count as a fraction. -/
  | unusable
  /-- No number, or one that counts as a fraction. -/
  | none

/-- The whole number that a scalar stands for. Numbers of 64 bits can be used; beyond them numbers
of 128 bits cannot; yet larger ones count as fractions. -/
def whole (cs : List Char) : Whole :=
  match wholeNumber? cs with
  | some n =>
    if -(Int.pow 2 63) ≤ n && n < Int.pow 2 64 then .value n
    else if -(Int.pow 2 127) ≤ n && n < Int.pow 2 128 then .unusable
    else .none
  | none => .none

/-- The finite fraction that a scalar stands for, or one of the three named values. -/
def fraction? (s : String) : Option Binary64 :=
  let cs := s.toList
  let unsigned := match cs with
    | '+' :: rest => rest
    | _ => cs
  if cs.head? == some '+' && (unsigned.head? == some '+' || unsigned.head? == some '-') then none
  else if [".inf", ".Inf", ".INF"].contains (String.ofList unsigned) then
    some (.ofMagnitude false Binary64.infinityBits)
  else if ["-.inf", "-.Inf", "-.INF"].contains s then
    some (.ofMagnitude true Binary64.infinityBits)
  else if [".nan", ".NaN", ".NAN"].contains s then
    some (.ofMagnitude false (Binary64.infinityBits + 1))
  else
    (Binary64.ofText? (String.ofList unsigned)).filter (fun x => !x.isNaN && !x.isInfinite)

/-- Whether a scalar is a spelling of the null value. -/
def isNull (s : String) : Bool :=
  ["null", "Null", "NULL", "~"].contains s

/-- The truth value that a scalar spells. -/
def truth? (s : String) : Option Bool :=
  if ["true", "True", "TRUE"].contains s then some true
  else if ["false", "False", "FALSE"].contains s then some false
  else none

/-- The value of a plain scalar without a tag. -/
def plainValue? (s : String) : Option Value :=
  if s.isEmpty || isNull s then some .null
  else
    match truth? s with
    | some b => some (.bool b)
    | none =>
      match whole s.toList with
      | .value n => some (.int n)
      | .unusable => none
      | .none =>
        match if hasLeadingZero s.toList then none else fraction? s with
        | some x => some (.float x)
        | none => some (.text s)

/-- Whether a tag is the language's own tag of a name. -/
def isLanguageTag (tag : TagBytes) (name : String) : Bool :=
  tag == .ofText ("tag:yaml.org,2002:" ++ name)

/-- Whether a tag starts with the mark of tags that are local to an application. -/
def startsLocal (tag : TagBytes) : Bool :=
  tag.head? == some 0x21

/-- The value of a scalar that is plain or not, without a tag. -/
def untaggedValue? (s : String) (plain : Bool) : Option Value :=
  if plain then plainValue? s else some (.text s)

/-- The value of a scalar with a tag that gives no name of an application. If the tag is one of the
language's own, the scalar must be a spelling of its kind; a local tag that is no text does not
count; with any other tag the scalar is a text. -/
def languageValue? (tag : TagBytes) (s : String) (plain : Bool) : Option Value :=
  if isLanguageTag tag "bool" then (truth? s).map .bool
  else if isLanguageTag tag "int" then
    match whole s.toList with
    | .value n => some (.int n)
    | _ => none
  else if isLanguageTag tag "float" then (fraction? s).map .float
  else if isLanguageTag tag "null" then if isNull s then some .null else none
  else if startsLocal tag then untaggedValue? s plain
  else some (.text s)

/-- The application's name for a kind of value, if a tag gives one: what follows the mark of a local
tag, or the mark itself if nothing does. -/
def localTag? (tag : Option TagBytes) : Option String :=
  match tag with
  | none => none
  | some bytes =>
    if startsLocal bytes then
      Text.decode? (if bytes.tail.isEmpty then bytes else bytes.tail)
    else none

/-! ### Equality of keys -/

/-- A tag's name without a further mark in front. -/
def bareName (tag : String) : String :=
  match tag.toList with
  | '!' :: c :: rest => String.ofList (c :: rest)
  | _ => tag

mutual

/-- Whether two values are the same key. Fractions are compared as numbers, but the value that is
no number is itself; the order of a mapping does not matter. -/
def Value.same : Value → Value → Bool
  | .null, .null => true
  | .bool a, .bool b => a == b
  | .int a, .int b => a == b
  | .float a, .float b => (a.isNaN && b.isNaN) || a.sameValue b
  | .text a, .text b => a == b
  | .sequence xs, .sequence ys => sameItems xs ys
  | .mapping xs, .mapping ys => xs.length == ys.length && samePairs xs ys
  | .tagged s x, .tagged t y => bareName s == bareName t && Value.same x y
  | _, _ => false

/-- Whether two lists of values are the same. -/
def sameItems : List Value → List Value → Bool
  | [], [] => true
  | x :: xs, y :: ys => Value.same x y && sameItems xs ys
  | _, _ => false

/-- Whether every pair is among some other pairs. -/
def samePairs : List (Value × Value) → List (Value × Value) → Bool
  | [], _ => true
  | (k, v) :: rest, ys =>
    ys.any (fun p => Value.same k p.1 && Value.same v p.2) && samePairs rest ys

end

/-! ### Aliases -/

mutual

/-- The anchored nodes of a node, each with its number, outer before inner and earlier before
later. -/
def Node.anchored : Node → List (Nat × Node)
  | .scalar anchor tag text plain =>
    (anchor.map (fun n => (n, Node.scalar anchor tag text plain))).toList
  | .sequence anchor tag items =>
    (anchor.map (fun n => (n, Node.sequence anchor tag items))).toList ++ anchoredItems items
  | .mapping anchor tag pairs =>
    (anchor.map (fun n => (n, Node.mapping anchor tag pairs))).toList ++ anchoredPairs pairs
  | .alias _ => []

/-- The anchored nodes of some nodes. -/
def anchoredItems : List Node → List (Nat × Node)
  | [] => []
  | x :: rest => x.anchored ++ anchoredItems rest

/-- The anchored nodes of some pairs. -/
def anchoredPairs : List (Node × Node) → List (Nat × Node)
  | [] => []
  | (k, v) :: rest => k.anchored ++ v.anchored ++ anchoredPairs rest

end

mutual

/-- The number of parts of a node: one for a scalar or alias, two for the ends of a collection. -/
def Node.parts : Node → Nat
  | .scalar .. => 1
  | .alias _ => 1
  | .sequence _ _ items => 2 + partsOfItems items
  | .mapping _ _ pairs => 2 + partsOfPairs pairs

/-- The number of parts of some nodes. -/
def partsOfItems : List Node → Nat
  | [] => 0
  | x :: rest => x.parts + partsOfItems rest

/-- The number of parts of some pairs. -/
def partsOfPairs : List (Node × Node) → Nat
  | [] => 0
  | (k, v) :: rest => k.parts + v.parts + partsOfPairs rest

end

/-! ### Values of nodes -/

/-- How deep collections may be nested. -/
def maxDepth : Nat := 128

/-- The work of building a value: the number of times that aliases may still be followed is kept,
and it may fail. -/
abbrev Work := StateT Nat Option

/-- The node that an alias stands for; other nodes stand for themselves. The latest node with a
number counts. -/
def follow (anchored : List (Nat × Node)) : Node → Work Node
  | .alias n => do
    let left ← get
    if left == 0 then failure
    set (left - 1)
    match anchored.reverse.lookup n with
    | some node => pure node
    | none => failure
  | node => pure node

/-- Gives a value the application's name for its kind, if there is one. -/
def withLocalTag (tag : Option TagBytes) (v : Value) : Value :=
  match localTag? tag with
  | none => v
  | some name => .tagged name v

/-- The value of a scalar. -/
def scalarValue? (tag : Option TagBytes) (text : String) (plain : Bool) : Option Value :=
  match localTag? tag, tag with
  | some name, _ => (untaggedValue? text plain).map (.tagged name)
  | none, some t => languageValue? t text plain
  | none, none => untaggedValue? text plain

/-- Adds a pair to a mapping that has no such key yet. -/
def addPair (pairs : List (Value × Value)) (k v : Value) : Option (List (Value × Value)) :=
  if pairs.any (fun p => p.1.same k) then none else some (pairs ++ [(k, v)])

/-- The value of a node, at most so many collections deep. -/
def valueOf (anchored : List (Nat × Node)) : Nat → Node → Work Value
  | depth, node => do
    match ← follow anchored node, depth with
    | .scalar _ tag text plain, _ => (scalarValue? tag text plain : Option Value)
    | .sequence _ tag items, inner + 1 =>
      let values ← items.mapM (valueOf anchored inner)
      pure (withLocalTag tag (.sequence values))
    | .mapping _ tag pairs, inner + 1 =>
      let values ← pairs.foldlM (fun done p => do
        let k ← valueOf anchored inner p.1
        let v ← valueOf anchored inner p.2
        (addPair done k v : Option (List (Value × Value)))) []
      pure (withLocalTag tag (.mapping values))
    | _, _ => failure

/-- The value of the root of a document. -/
def Node.value? (root : Node) : Option Value :=
  (valueOf root.anchored maxDepth root (100 * root.parts)).map Prod.fst

end SchemaCompiler.Yaml
