import SchemaCompiler.Decimal.Binary64

/-!
# Shortest decimals

The decimal of a floating-point number is the one with the fewest digits that reads back as the
same number, and of several such the nearest. Every real between the midpoints to the two
neighbouring numbers reads back, the midpoints included when the significand is even. For one,
two, … seventeen digits the two decimals of that length around the number are tested; the first
length with a hit wins. All comparisons are between natural numbers.

How the digits are laid out is a decision of the place where a number is written: `plain` never
uses an exponent, `scientific` does for very large and very small numbers.
-/

namespace SchemaCompiler.Decimal

/-- Which of two equally near decimals is taken. -/
inductive Tie where
  /-- The larger one. -/
  | up
  /-- The one with an even last digit. -/
  | toEven

/-- The number `digits · 10 ^ power`. -/
structure Digits where
  /-- The significant digits, read as one number. -/
  digits : Nat
  /-- The power of ten of the last digit. -/
  power : Int

/-- The interval of reals around a number, with its ends and the number itself scaled to natural
numbers over one denominator. -/
structure Neighbourhood where
  /-- The lower end. -/
  low : Nat
  /-- The number. -/
  value : Nat
  /-- The upper end. -/
  high : Nat
  /-- The common denominator. -/
  den : Nat
  /-- Whether the ends belong to the interval. -/
  closed : Bool

namespace Binary64

/-- The interval of reals that round to a positive finite number. -/
def neighbourhood (x : Binary64) : Neighbourhood :=
  let m := x.significand
  let e := x.exponent
  let num := if 0 ≤ e then Nat.pow 2 e.toNat else 1
  let den := if 0 ≤ e then 1 else Nat.pow 2 (-e).toNat
  let below := if m == hiddenBit && -1074 < e then 1 else 2
  { low := (4 * m - below) * num
    value := 4 * m * num
    high := (4 * m + 2) * num
    den := 4 * den
    closed := m % 2 == 0 }

end Binary64

namespace Neighbourhood

/-- Whether `k · 10 ^ power` lies in the interval. -/
def contains (n : Neighbourhood) (k : Nat) (power : Int) : Bool :=
  let scaled := if 0 ≤ power then k * Nat.pow 10 power.toNat * n.den else k * n.den
  let unit := if 0 ≤ power then 1 else Nat.pow 10 (-power).toNat
  if n.closed then n.low * unit ≤ scaled && scaled ≤ n.high * unit
  else n.low * unit < scaled && scaled < n.high * unit

/-- The decimal of the given power of ten that lies in the interval, the nearest to the number. -/
def candidate? (tie : Tie) (n : Neighbourhood) (power : Int) : Option Nat :=
  let num := if 0 ≤ power then n.value else n.value * Nat.pow 10 (-power).toNat
  let den := if 0 ≤ power then n.den * Nat.pow 10 power.toNat else n.den
  let floor := num / den
  let twice := 2 * (num % den)
  let nearer :=
    if twice < den then floor
    else if den < twice then floor + 1
    else match tie with
      | .up => floor + 1
      | .toEven => if floor % 2 == 0 then floor else floor + 1
  let other := if nearer == floor then floor + 1 else floor
  if n.contains nearer power then some nearer
  else if n.contains other power then some other
  else none

/-- The power of ten just above the number. -/
def decimalExponent (n : Neighbourhood) : Int :=
  let whole := n.value / n.den
  if 0 < whole then (Nat.toDigits 10 whole).length
  else
    -- The value is below one: count the zeros after the point.
    let inverse := (n.den + n.value - 1) / n.value
    let length : Int := (Nat.toDigits 10 inverse).length
    -- `10 ^ (length - 1) ≤ den / value` up to rounding, so at most one step is left.
    if n.den ≤ n.value * Nat.pow 10 (length - 1).toNat then 2 - length else 1 - length

/-- Tries `count` digits, then one more, as long as `fuel` lasts. -/
def search (tie : Tie) (n : Neighbourhood) (top : Int) : Nat → Nat → Digits
  | 0, _ => ⟨0, 0⟩
  | fuel + 1, count =>
    let power := top - count
    match n.candidate? tie power with
    | some k => if 0 < k then ⟨k, power⟩ else n.search tie top fuel (count + 1)
    | none => n.search tie top fuel (count + 1)

end Neighbourhood

/-- Moves the zeros at the end of the digits into the power of ten. -/
def Digits.strip (d : Digits) : Nat → Digits
  | 0 => d
  | fuel + 1 =>
    if 0 < d.digits && d.digits % 10 == 0 then
      Digits.strip ⟨d.digits / 10, d.power + 1⟩ fuel
    else d

/-- The shortest decimal of a positive finite number. -/
def Binary64.shortest (tie : Tie) (x : Binary64) : Digits :=
  let n := x.neighbourhood
  (n.search tie n.decimalExponent 18 1).strip 20

/-! ### Layouts -/

/-- Digits with the point at its place and zeros where digits are missing. -/
def Digits.positional (d : Digits) (pointZero : Bool) : List Char :=
  let cs := Nat.toDigits 10 d.digits
  let zeros (n : Int) : List Char := List.replicate n.toNat '0'
  let point : Int := cs.length + d.power
  if 0 ≤ d.power then cs ++ zeros d.power ++ (if pointZero then ['.', '0'] else [])
  else if 0 < point then cs.take point.toNat ++ ['.'] ++ cs.drop point.toNat
  else ['0', '.'] ++ zeros (-point) ++ cs

/-- Digits with the point after the first one, and an exponent. -/
def Digits.exponential (d : Digits) : List Char :=
  let cs := Nat.toDigits 10 d.digits
  let point : Int := cs.length + d.power
  let rest := cs.drop 1
  cs.take 1 ++ (if rest.isEmpty then [] else ['.'] ++ rest) ++ ['e'] ++ (ofInt (point - 1)).toList

/-- The sign of a number and the text of its magnitude. -/
def Binary64.signed (x : Binary64) (text : List Char) : String :=
  String.ofList (if x.isNegative then '-' :: text else text)

/-- A number in plain notation: no exponent, no point after a whole number. -/
def Binary64.plain (x : Binary64) : String :=
  if x.isNaN then "NaN"
  else if x.isInfinite then x.signed "inf".toList
  else if x.isZero then x.signed ['0']
  else x.signed ((x.shortest .up).positional false)

/-- A number in scientific notation: an exponent from `10 ^ 16` up and below `10 ^ -5`, otherwise
a point in every number. -/
def Binary64.scientific (x : Binary64) : String :=
  if x.isNaN then ".nan"
  else if x.isInfinite then x.signed ".inf".toList
  else if x.isZero then x.signed ['0', '.', '0']
  else
    let d := x.shortest .toEven
    let point : Int := (Nat.toDigits 10 d.digits).length + d.power
    x.signed (if -5 < point && point ≤ 16 then d.positional true else d.exponential)

end SchemaCompiler.Decimal
