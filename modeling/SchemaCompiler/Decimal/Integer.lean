/-!
# Decimal integers

An integer is written as an optional sign and one or more decimal digits; leading zeros are
allowed. A natural number may have a plus sign, an integer a plus or a minus sign. Limits on the
size of a number are set where a number of limited width is read.
-/

namespace SchemaCompiler.Decimal

/-- The number that a list of decimal digits stands for; nothing for any other list. -/
def ofDigits? (cs : List Char) : Option Nat :=
  if !cs.isEmpty && cs.all Char.isDigit then some (Nat.ofDigitChars 10 cs 0) else none

/-- A natural number with an optional plus sign. -/
def natural? : List Char → Option Nat
  | '+' :: digits => ofDigits? digits
  | digits => ofDigits? digits

/-- An integer with an optional sign. -/
def integer? : List Char → Option Int
  | '-' :: digits => (ofDigits? digits).map (fun n => -(n : Int))
  | digits => (natural? digits).map (fun n => (n : Int))

/-- A natural number with an optional plus sign that is at most `limit`. -/
def naturalUpTo? (limit : Nat) (s : String) : Option Nat :=
  (natural? s.toList).filter (fun n => n ≤ limit)

/-- An integer with an optional sign that lies between two limits. -/
def integerBetween? (low high : Int) (s : String) : Option Int :=
  (integer? s.toList).filter (fun n => low ≤ n && n ≤ high)

/-- The decimal digits of a natural number. -/
def ofNat (n : Nat) : String :=
  String.ofList (Nat.toDigits 10 n)

/-- The decimal digits of an integer, after a minus sign if it is negative. -/
def ofInt (n : Int) : String :=
  if n < 0 then "-" ++ ofNat n.natAbs else ofNat n.natAbs

/-- The greatest number of an unsigned word of 64 bits, which bounds sizes and capacities. -/
def maxWord : Nat :=
  Nat.pow 2 64 - 1

end SchemaCompiler.Decimal
