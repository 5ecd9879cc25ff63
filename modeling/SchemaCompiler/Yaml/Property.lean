import SchemaCompiler.Text.Hexadecimal
import SchemaCompiler.Yaml.Cursor
import SchemaCompiler.Yaml.Token

/-!
# Anchors, tags and directives

An anchor names a node, an alias stands for the node of that name. A tag is a handle with a suffix,
a local name behind one exclamation mark, or a verbatim text between angle brackets. Directives
stand before a document: the version, and the handles that its tags may use.
-/

namespace SchemaCompiler.Yaml

/-! ### Anchors -/

/-- Whether an anchor may end here. -/
def endsAnchor (c : Cursor) : Bool :=
  c.isGap 0 || c.holdsAt (fun char => "?:,]\x7d%@\x60".toList.contains char) 0

/-- The name of an anchor or alias from its mark on, and the place after it. -/
def anchorName? (c : Cursor) : Option (String × Cursor) :=
  let name := c.next.takeWhile isWordChar
  let after := c.next.skipWhile isWordChar
  if !name.isEmpty && endsAnchor after then some (String.ofList name, after) else none

/-! ### Tags -/

/-- The characters of a tag; verbatim tags may hold some marks of flow collections too. -/
def isTagChar (verbatim : Bool) (c : Char) : Bool :=
  isWordChar c || ";/?:@&=+$.%!~*\x27()".toList.contains c || (verbatim && ",[]".toList.contains c)

/-- The number of bytes of the character that a byte starts. -/
def sequenceLength? (b : Nat) : Option Nat :=
  if b < 0x80 then some 1
  else if 0xc0 ≤ b && b < 0xe0 then some 2
  else if 0xe0 ≤ b && b < 0xf0 then some 3
  else if 0xf0 ≤ b && b < 0xf8 then some 4
  else none

/-- The byte that a percent sign with two hexadecimal digits stands for. -/
def percentByte? (cs : List Char) : Option Nat :=
  match cs with
  | '%' :: a :: b :: _ => Text.ofHexDigits? [a, b]
  | _ => none

/-- The bytes of `count` percent signs in a row. -/
def percentBytes? : Nat → List Char → Option TagBytes
  | 0, _ => some []
  | count + 1, cs =>
    match percentByte? cs, percentBytes? count (cs.drop 3) with
    | some b, some bs => some (UInt8.ofNat b :: bs)
    | _, _ => none

/-- The bytes that percent signs stand for, as many as the first one asks for, and the place after
them. All but the first must continue a character. -/
def percentRun? (c : Cursor) : Option (TagBytes × Cursor) :=
  match (percentByte? c.rest).bind sequenceLength? with
  | none => none
  | some count =>
    match percentBytes? count c.rest with
    | none => none
    | some bs =>
      if bs.tail.all Text.isContinuation then some (bs, c.skip (3 * count)) else none

/-- The bytes of a tag from here on, and the place after them. -/
def tagBytes (verbatim : Bool) : Nat → Cursor → Option (TagBytes × Cursor)
  | 0, c => some ([], c)
  | fuel + 1, c =>
    match c.peek? with
    | none => some ([], c)
    | some char =>
      if !isTagChar verbatim char then some ([], c)
      else
        let part? :=
          if char == '%' then percentRun? c else some (String.utf8EncodeChar char, c.next)
        match part? with
        | none => none
        | some (part, after) =>
          (tagBytes verbatim fuel after).map (fun p => (part ++ p.1, p.2))

/-- The handle that stands here, with its marks, and the place after it. Without a second mark it
may turn out to be the start of a local name. -/
def tagHandle? (c : Cursor) : Option (List Char × Cursor) :=
  if !c.sees '!' then none
  else
    let name := c.next.takeWhile isWordChar
    let after := c.next.skipWhile isWordChar
    if after.sees '!' then some (['!'] ++ name ++ ['!'], after.next)
    else some ('!' :: name, after)

/-- A tag without a check of what follows it. The mark alone is a tag without a handle. -/
def bareTag? (c : Cursor) : Option (Token × Cursor) :=
  if c.at? 1 == some '<' then
    match tagBytes true (c.rest.length + 1) (c.skip 2) with
    | some (bytes, after) =>
      if !bytes.isEmpty && after.sees '>' then some (.tag "" bytes.cut, after.next) else none
    | none => none
  else
    match tagHandle? c with
    | none => none
    | some (handle, after) =>
      match tagBytes false (c.rest.length + 1) after with
      | none => none
      | some (bytes, after) =>
        if 2 ≤ handle.length && handle.getLast? == some '!' then
          if bytes.isEmpty then none
          else some (.tag (String.ofList handle) bytes.cut, after)
        else
          let suffix := TagBytes.cut (Text.encodeChars (handle.drop 1) ++ bytes)
          if suffix.isEmpty then some (.tag "" (.ofText "!"), after)
          else some (.tag "!" suffix, after)

/-- A tag from its mark on, and the place after it. A gap follows, or a comma in a flow
collection. -/
def tag? (inFlow : Bool) (c : Cursor) : Option (Token × Cursor) :=
  match bareTag? c with
  | none => none
  | some (token, after) =>
    if (inFlow && after.sees ',') || after.isGap 0 then some (token, after) else none

/-! ### Directives -/

/-- A number of a version, of at most nine digits, and the place after it. -/
def versionNumber? (c : Cursor) : Option (Nat × Cursor) :=
  let digits := c.takeWhile Char.isDigit
  if digits.isEmpty || 9 < digits.length then none
  else some (Nat.ofDigitChars 10 digits 0, c.skipWhile Char.isDigit)

/-- The value of a version directive. -/
def versionValue? (c : Cursor) : Option (Token × Cursor) :=
  match versionNumber? c.skipBlanks with
  | none => none
  | some (major, c) =>
    if c.sees '.' then
      (versionNumber? c.next).map (fun p => (.version major p.1, p.2))
    else none

/-- The value of a handle directive. -/
def handleValue? (c : Cursor) : Option (Token × Cursor) :=
  match tagHandle? c.skipBlanks with
  | none => none
  | some (handle, c) =>
    if 1 < handle.length && handle.getLast? != some '!' then none
    else if !c.atBlank then none
    else
      let c := c.skipBlanks
      match tagBytes true (c.rest.length + 1) c with
      | none => none
      | some (meaning, after) =>
        if meaning.isEmpty || !after.isGap 0 then none
        else some (.tagHandle (String.ofList handle) meaning.cut, after)

/-- A directive from its percent sign on, and the place at the start of the next line. -/
def directive? (c : Cursor) : Option (Token × Cursor) :=
  let name := String.ofList (c.next.takeWhile isWordChar)
  let after := c.next.skipWhile isWordChar
  if name.isEmpty || !after.isGap 0 then none
  else
    let value? :=
      if name == "YAML" then versionValue? after
      else if name == "TAG" then handleValue? after
      else none
    match value? with
    | none => none
    | some (token, after) =>
      let ending := after.skipBlanks.skipComment
      if ending.atLineEnd then some (token, ending.nextLine) else none

end SchemaCompiler.Yaml
