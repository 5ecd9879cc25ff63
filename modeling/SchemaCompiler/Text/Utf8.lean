/-!
# Text as bytes

A text is stored as the UTF-8 bytes of its characters. Reading bytes back is total: bytes that are
no text are shown with the replacement character, one for each longest start of a character that
is not completed.

A text is cut to a number of bytes by its characters (`SchemaCompiler.Text.truncate`), or by going
back from that number to the last offset between two characters (`SchemaCompiler.Text.cutBack?`).
-/

namespace SchemaCompiler.Text

/-- The UTF-8 bytes of a list of characters. -/
def encodeChars (cs : List Char) : List UInt8 :=
  cs.flatMap String.utf8EncodeChar

/-- The UTF-8 bytes of a text. -/
def encode (s : String) : List UInt8 :=
  encodeChars s.toList

/-- The number of UTF-8 bytes of a list of characters. -/
def byteLength (cs : List Char) : Nat :=
  cs.foldr (fun c n => c.utf8Size + n) 0

/-- Whether a byte continues a character. -/
def isContinuation (b : UInt8) : Bool :=
  0x80 ≤ b && b ≤ 0xbf

/-- Whether the second byte of a character of three or four bytes may follow its first. The limits
keep out overlong forms, surrogates and numbers beyond the last code point. -/
def mayFollow (first second : UInt8) : Bool :=
  if first == 0xe0 then 0xa0 ≤ second && second ≤ 0xbf
  else if first == 0xed then 0x80 ≤ second && second ≤ 0x9f
  else if first == 0xf0 then 0x90 ≤ second && second ≤ 0xbf
  else if first == 0xf4 then 0x80 ≤ second && second ≤ 0x8f
  else isContinuation second

/-- The six bits that a continuation byte carries. -/
def payload (b : UInt8) : Nat :=
  b.toNat % 64

/-- The characters that bytes stand for, with `none` for each longest start of a character that is
not completed and for each byte that starts none. -/
def decodePieces : List UInt8 → List (Option Char)
  | [] => []
  | b0 :: rest0 =>
    if b0 < 0x80 then some (Char.ofNat b0.toNat) :: decodePieces rest0
    else if b0 < 0xc2 then none :: decodePieces rest0
    else match rest0 with
    | [] => [none]
    | b1 :: rest1 =>
      if b0 < 0xe0 then
        if isContinuation b1 then
          some (Char.ofNat (b0.toNat % 32 * 64 + payload b1)) :: decodePieces rest1
        else none :: decodePieces (b1 :: rest1)
      else if 0xf4 < b0 then none :: decodePieces (b1 :: rest1)
      else if !mayFollow b0 b1 then none :: decodePieces (b1 :: rest1)
      else match rest1 with
      | [] => [none]
      | b2 :: rest2 =>
        if !isContinuation b2 then none :: decodePieces (b2 :: rest2)
        else if b0 < 0xf0 then
          some (Char.ofNat ((b0.toNat % 16 * 64 + payload b1) * 64 + payload b2)) ::
            decodePieces rest2
        else match rest2 with
        | [] => [none]
        | b3 :: rest3 =>
          if !isContinuation b3 then none :: decodePieces (b3 :: rest3)
          else
            some (Char.ofNat
              (((b0.toNat % 8 * 64 + payload b1) * 64 + payload b2) * 64 + payload b3)) ::
              decodePieces rest3

/-- The text that bytes show, with the replacement character where they are no text. -/
def decodeLossy (bytes : List UInt8) : String :=
  String.ofList ((decodePieces bytes).map (fun piece => piece.getD '\uFFFD'))

/-- The text that bytes stand for, if they are the bytes of one. -/
def decode? (bytes : List UInt8) : Option String :=
  ((decodePieces bytes).mapM id).map String.ofList

/-- The longest start of a list of characters that takes at most `capacity` bytes. -/
def takeBytes : Nat → List Char → List Char
  | _, [] => []
  | capacity, c :: rest =>
    if c.utf8Size ≤ capacity then c :: takeBytes (capacity - c.utf8Size) rest else []

/-- Cuts a text to at most `capacity` bytes without splitting a character. -/
def truncate (capacity : Nat) (s : String) : String :=
  String.ofList (takeBytes capacity s.toList)

/-! ### Cutting from the other side -/

/-- Whether an offset lies between two characters, at the start or at the end. -/
def isBoundary (bytes : List UInt8) (offset : Nat) : Bool :=
  offset == 0 || (bytes[offset]?).elim (offset == bytes.length) (fun b => !isContinuation b)

/-- The last boundary at an offset or before it. Nothing, if going back passes the start. -/
def lastBoundary? (bytes : List UInt8) : Nat → Option Nat
  | 0 => if isBoundary bytes 0 then some 0 else none
  | offset + 1 =>
    if isBoundary bytes (offset + 1) then some (offset + 1) else lastBoundary? bytes offset

/-- The part of a text before an offset. Nothing, if the offset lies inside a character or behind
the end. -/
def before? (s : String) (offset : Nat) : Option String :=
  if isBoundary (encode s) offset then decode? ((encode s).take offset) else none

/-- Cuts a text to at most `capacity` bytes by going back from there, on the bytes alone. -/
def cutBack? (capacity : Nat) (s : String) : Option String :=
  if (encode s).length ≤ capacity then some s
  else (lastBoundary? (encode s) capacity).bind (before? s)

end SchemaCompiler.Text
