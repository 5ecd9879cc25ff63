import SchemaCompiler.Settings.Value
import SchemaCompiler.Toml.Lexeme

/-!
# Numbers of TOML

Whole numbers are of 64 bits with a sign and may be written in base ten, sixteen, eight or two.
Fractions have a point, an exponent or both, or are one of the words for infinity and for no number.
Between two digits an underscore may stand.
-/

namespace SchemaCompiler.Toml

/-- Digits with single underscores between them, which are left out. Stops where no digit
follows. -/
def digitsFrom (isDigit : Char → Bool) : List Char → List Char × List Char
  | c :: '_' :: d :: rest =>
    if isDigit c && isDigit d then
      let (digits, tail) := digitsFrom isDigit (d :: rest)
      (c :: digits, tail)
    else if isDigit c then ([c], '_' :: d :: rest)
    else ([], c :: '_' :: d :: rest)
  | c :: rest =>
    if isDigit c then
      let (digits, tail) := digitsFrom isDigit rest
      (c :: digits, tail)
    else ([], c :: rest)
  | [] => ([], [])

/-- Decimal digits; at least one. -/
def decimalDigits? (cs : List Char) : Read (List Char) :=
  match digitsFrom Char.isDigit cs with
  | ([], _) => none
  | (digits, rest) => some (digits, rest)

/-- The sign in front of a number. -/
def sign : List Char → List Char × List Char
  | '+' :: rest => ([], rest)
  | '-' :: rest => (['-'], rest)
  | cs => ([], cs)

/-- Decimal digits that do not start with a zero, unless it stands alone. -/
def wholeDigits? (cs : List Char) : Read (List Char) :=
  match cs with
  | '0' :: rest => some (['0'], rest)
  | _ => decimalDigits? cs

/-- The part of a fraction after its point. -/
def places? : List Char → Read (List Char)
  | '.' :: rest => (decimalDigits? rest).map (fun p => ('.' :: p.1, p.2))
  | _ => none

/-- The exponent of a fraction. -/
def power? : List Char → Read (List Char)
  | mark :: rest =>
    if mark == 'e' || mark == 'E' then
      let (minus, rest) := sign rest
      (decimalDigits? rest).map (fun p => ('e' :: minus ++ p.1, p.2))
    else none
  | [] => none

/-- A word for infinity or for no number. -/
def specialWord? : List Char → Read (List Char)
  | 'i' :: 'n' :: 'f' :: rest => some ("inf".toList, rest)
  | 'n' :: 'a' :: 'n' :: rest => some ("nan".toList, rest)
  | _ => none

/-- The digits of a fraction after its sign. -/
def fractionDigits? (cs : List Char) : Read (List Char) :=
  match specialWord? cs with
  | some found => some found
  | none =>
    match wholeDigits? cs with
    | none => none
    | some (whole, rest) =>
      match places? rest with
      | some (places, rest) =>
        match power? rest with
        | some (power, rest) => some (whole ++ places ++ power, rest)
        | none => some (whole ++ places, rest)
      | none => (power? rest).map (fun p => (whole ++ p.1, p.2))

/-- A fraction. One that is too large to be told from infinity is no good, if it is positive. -/
def fraction? (cs : List Char) : Read Setting :=
  let (minus, rest) := sign cs
  match fractionDigits? rest with
  | none => none
  | some (digits, tail) =>
    match Decimal.Binary64.ofText? (String.ofList (minus ++ digits)) with
    | none => none
    | some x =>
      if x.isInfinite && !x.isNegative && digits != "inf".toList then none
      else some (.float x, tail)

/-- Whole numbers are below this limit. -/
def wholeLimit : Nat := Nat.pow 2 63

/-- A whole number in base sixteen, eight or two, from after its mark. -/
def based? (base : Nat) (cs : List Char) : Read Setting :=
  let isDigit (c : Char) : Bool := (Text.hexDigit? c).any (fun d => d < base)
  match digitsFrom isDigit cs with
  | ([], _) => none
  | (digits, rest) =>
    let n := (digits.filterMap Text.hexDigit?).foldl (fun n d => n * base + d) 0
    if n < wholeLimit then some (.int n, rest) else none

/-- A whole number. -/
def whole? (cs : List Char) : Read Setting :=
  match cs with
  | '0' :: 'x' :: rest => based? 16 rest
  | '0' :: 'o' :: rest => based? 8 rest
  | '0' :: 'b' :: rest => based? 2 rest
  | _ =>
    let (minus, rest) := sign cs
    match wholeDigits? rest with
    | none => none
    | some (digits, tail) =>
      let n := Nat.ofDigitChars 10 digits 0
      if minus.isEmpty then (if n < wholeLimit then some (.int n, tail) else none)
      else if n ≤ wholeLimit then some (.int (-(n : Int)), tail)
      else none

end SchemaCompiler.Toml
