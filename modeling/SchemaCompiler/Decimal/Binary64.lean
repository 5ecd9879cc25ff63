import SchemaCompiler.Decimal.Integer

/-!
# Binary floating-point numbers

A floating-point number is kept as its pattern of 64 bits: a sign, eleven bits of exponent and
fifty-two bits of significand. Reading a decimal rounds its exact value, held as a quotient of
natural numbers, to the nearest pattern, and to the even one of two equally near. Two comparisons
are defined on patterns: equality of values, under which the two zeros agree and a number that is
no number differs from itself, and the total order, which tells all patterns apart.
-/

namespace SchemaCompiler.Decimal

/-- A floating-point number of 64 bits. -/
structure Binary64 where
  /-- The bit pattern, as a number. -/
  bits : UInt64
deriving DecidableEq, Repr

namespace Binary64

/-! ### Parts of a pattern -/

/-- The value of the sign bit in a pattern. -/
def signBit : Nat :=
  Nat.pow 2 63

/-- The value of the bit in front of the fraction of a significand, which a pattern does not
hold. -/
def hiddenBit : Nat :=
  Nat.pow 2 52

/-- Whether the sign bit is set. -/
def isNegative (x : Binary64) : Bool :=
  signBit ≤ x.bits.toNat

/-- The pattern without its sign bit. -/
def magnitude (x : Binary64) : Nat :=
  x.bits.toNat % signBit

/-- The pattern of infinity, the least one that is not a finite number. -/
def infinityBits : Nat :=
  2047 * hiddenBit

/-- Whether the pattern stands for no number. -/
def isNaN (x : Binary64) : Bool :=
  infinityBits < x.magnitude

/-- Whether the pattern is one of the two infinities. -/
def isInfinite (x : Binary64) : Bool :=
  x.magnitude == infinityBits

/-- Whether the pattern is one of the two zeros. -/
def isZero (x : Binary64) : Bool :=
  x.magnitude == 0

/-- The significand of a finite number as a natural number. -/
def significand (x : Binary64) : Nat :=
  if x.magnitude < hiddenBit then x.magnitude else hiddenBit + x.magnitude % hiddenBit

/-- The exponent of two that belongs to the significand of a finite number. -/
def exponent (x : Binary64) : Int :=
  if x.magnitude < hiddenBit then -1074 else (x.magnitude / hiddenBit : Nat) - 1075

/-- The pattern with a sign and a magnitude. -/
def ofMagnitude (negative : Bool) (magnitude : Nat) : Binary64 :=
  ⟨UInt64.ofNat (if negative then magnitude + signBit else magnitude)⟩

/-- Positive zero. -/
def zero : Binary64 :=
  ofMagnitude false 0

/-! ### Comparison -/

/-- Equality of values: the zeros are equal and a pattern that is no number equals none. -/
def sameValue (x y : Binary64) : Bool :=
  !x.isNaN && !y.isNaN && (x.bits == y.bits || (x.isZero && y.isZero))

/-- The rank of a pattern in the total order: negative patterns come first, in reverse. -/
def rank (x : Binary64) : Int :=
  if x.isNegative then -(x.magnitude : Int) - 1 else x.magnitude

/-- The total order of patterns. -/
def totalCompare (x y : Binary64) : Ordering :=
  compare x.rank y.rank

/-! ### Rounding a quotient -/

/-- The natural number nearest to `num / den`, the even one of two. -/
def roundToEven (num den : Nat) : Nat :=
  let floor := num / den
  let twice := 2 * (num % den)
  if twice < den then floor
  else if den < twice then floor + 1
  else if floor % 2 == 0 then floor else floor + 1

/-- The quotient `num / den` divided by a power of two, rounded to the nearest natural number. -/
def roundScaled (num den : Nat) (power : Int) : Nat :=
  if 0 ≤ power then roundToEven num (den * Nat.pow 2 power.toNat)
  else roundToEven (num * Nat.pow 2 (-power).toNat) den

/-- The exponent at which the significand of `num / den` has fifty-three bits, but never below
the exponent of the least numbers. -/
def scaleFor (num den : Nat) : Int :=
  let guess : Int := (num.log2 : Int) - (den.log2 : Int) - 52
  let fits :=
    if 0 ≤ guess then den * Nat.pow 2 guess.toNat * hiddenBit ≤ num
    else den * hiddenBit ≤ num * Nat.pow 2 (-guess).toNat
  max (if fits then guess else guess - 1) (-1074)

/-- The magnitude nearest to the positive quotient `num / den`. A significand that rounds up to
fifty-four bits carries into the exponent, and what is too large becomes infinity. -/
def roundQuotient (num den : Nat) : Nat :=
  let power := scaleFor num den
  let n := roundScaled num den power
  let magnitude := if n < hiddenBit then n else (power + 1075).toNat * hiddenBit + (n - hiddenBit)
  min magnitude infinityBits

/-- The number nearest to `digits · 10 ^ power`. Powers far outside the range of the format are
settled without computing them. -/
def ofDecimal (negative : Bool) (digits : Nat) (power : Int) : Binary64 :=
  let length : Int := (Nat.toDigits 10 digits).length
  if digits == 0 then ofMagnitude negative 0
  else if 400 < length + power then ofMagnitude negative infinityBits
  else if length + power < -400 then ofMagnitude negative 0
  else if 0 ≤ power then
    ofMagnitude negative (roundQuotient (digits * Nat.pow 10 power.toNat) 1)
  else ofMagnitude negative (roundQuotient digits (Nat.pow 10 (-power).toNat))

/-! ### Reading -/

/-- The letters of a text in lower case, as far as they are Latin ones. -/
def lowerLatin (cs : List Char) : List Char :=
  cs.map Char.toLower

/-- An exponent: an optional sign and at least one digit. -/
def exponent? : List Char → Option Int
  | '-' :: digits => (ofDigits? digits).map (fun n => -(n : Int))
  | '+' :: digits => (ofDigits? digits).map (fun n => (n : Int))
  | digits => (ofDigits? digits).map (fun n => (n : Int))

/-- The number that the characters after the sign stand for. -/
def unsigned? (negative : Bool) (cs : List Char) : Option Binary64 :=
  let word := String.ofList (lowerLatin cs)
  if word == "inf" || word == "infinity" then some (ofMagnitude negative infinityBits)
  else if word == "nan" then some (ofMagnitude negative (infinityBits + Nat.pow 2 51))
  else
    let whole := cs.takeWhile Char.isDigit
    let afterWhole := cs.dropWhile Char.isDigit
    let (fraction, tail) :=
      match afterWhole with
      | '.' :: rest => (rest.takeWhile Char.isDigit, rest.dropWhile Char.isDigit)
      | _ => ([], afterWhole)
    if whole.isEmpty && fraction.isEmpty then none
    else
      let digits := Nat.ofDigitChars 10 (whole ++ fraction) 0
      let shift : Int := -(fraction.length : Int)
      match tail with
      | [] => some (ofDecimal negative digits shift)
      | mark :: rest =>
        if mark == 'e' || mark == 'E' then
          (exponent? rest).map (fun power => ofDecimal negative digits (power + shift))
        else none

/-- Reads a number: an optional sign, then digits with an optional point and exponent, or one of
the words for infinity and for no number. -/
def ofText? (s : String) : Option Binary64 :=
  match s.toList with
  | '-' :: rest => unsigned? true rest
  | '+' :: rest => unsigned? false rest
  | cs => unsigned? false cs

end Binary64

end SchemaCompiler.Decimal
