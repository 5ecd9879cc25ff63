import SchemaCompiler.Toml.Lexeme

/-!
# Dates and times

A moment is a date, a time of day, or both, and then perhaps the distance from universal time. Days
must exist in their month, and a minute may have a leap second. Fractions of a second are kept to
nine places.
-/

namespace SchemaCompiler.Toml

/-- Two digits that stand for a number between two limits. -/
def twoDigits? (low high : Nat) : List Char → Read (List Char)
  | a :: b :: rest =>
    if a.isDigit && b.isDigit then
      let n := Nat.ofDigitChars 10 [a, b] 0
      if low ≤ n && n ≤ high then some ([a, b], rest) else none
    else none
  | _ => none

/-- A character that must stand here. -/
def expect? (c : Char) : List Char → Option (List Char)
  | d :: rest => if c == d then some rest else none
  | [] => none

/-- Whether a year has a leap day. -/
def isLeapYear (year : Nat) : Bool :=
  year % 4 == 0 && (year % 100 != 0 || year % 400 == 0)

/-- The number of days of a month. -/
def daysInMonth (year month : Nat) : Nat :=
  if month == 2 then (if isLeapYear year then 29 else 28)
  else if [4, 6, 9, 11].contains month then 30
  else 31

/-- A date. -/
def date? (cs : List Char) : Option (List Char × List Char) :=
  let year := cs.take 4
  if year.length < 4 || !year.all Char.isDigit then none
  else do
    let rest ← expect? '-' (cs.drop 4)
    let (month, rest) ← twoDigits? 1 12 rest
    let rest ← expect? '-' rest
    let limit := daysInMonth (Nat.ofDigitChars 10 year 0) (Nat.ofDigitChars 10 month 0)
    let (day, rest) ← twoDigits? 1 limit rest
    some (year ++ ['-'] ++ month ++ ['-'] ++ day, rest)

/-- The fraction of a second with its point, to nine places and without zeros at its end; empty if
it is nothing. -/
def shownFraction (digits : List Char) : List Char :=
  let places := ((digits.take 9).reverse.dropWhile (· == '0')).reverse
  if places.isEmpty then [] else '.' :: places

/-- What the numbers of a time may be at most. -/
structure ClockLimits where
  /-- The greatest hour of a day. -/
  hour : Nat
  /-- The greatest number of hours from universal time. -/
  offsetHour : Nat
  /-- The greatest number of minutes beside those hours. -/
  offsetMinute : Nat

/-- The limits of a moment that is written as such. -/
def ClockLimits.written : ClockLimits :=
  ⟨23, 23, 59⟩

/-- The greatest distance from universal time in minutes. -/
def maxOffset : Nat := 24 * 60

/-- A time of day. -/
def time? (limits : ClockLimits) (cs : List Char) : Option (List Char × List Char) := do
  let (hour, rest) ← twoDigits? 0 limits.hour cs
  let rest ← expect? ':' rest
  let (minute, rest) ← twoDigits? 0 59 rest
  let rest ← expect? ':' rest
  let (second, rest) ← twoDigits? 0 60 rest
  let whole := hour ++ [':'] ++ minute ++ [':'] ++ second
  match rest with
  | '.' :: tail =>
    let digits := tail.takeWhile Char.isDigit
    if digits.isEmpty then some (whole, rest)
    else some (whole ++ shownFraction digits, tail.drop digits.length)
  | _ => some (whole, rest)

/-- A number with two digits at least. -/
def shownPair (n : Nat) : List Char :=
  if n < 10 then '0' :: Nat.toDigits 10 n else Nat.toDigits 10 n

/-- The spelling of a distance from universal time in minutes. No distance is ahead. -/
def shownOffset (behind : Bool) (minutes : Nat) : List Char :=
  (if behind && minutes != 0 then '-' else '+') ::
    shownPair (minutes / 60) ++ [':'] ++ shownPair (minutes % 60)

/-- The distance from universal time, if one stands here. -/
def offset (limits : ClockLimits) (cs : List Char) : List Char × List Char :=
  match cs with
  | 'Z' :: rest | 'z' :: rest => (['Z'], rest)
  | sign :: rest =>
    let found : Option (List Char × List Char) := do
      let (hour, rest) ← twoDigits? 0 limits.offsetHour rest
      let rest ← expect? ':' rest
      let (minute, rest) ← twoDigits? 0 limits.offsetMinute rest
      let minutes := Nat.ofDigitChars 10 hour 0 * 60 + Nat.ofDigitChars 10 minute 0
      if minutes ≤ maxOffset then some (shownOffset (sign == '-') minutes, rest) else none
    if sign == '+' || sign == '-' then found.getD ([], cs) else ([], cs)
  | [] => ([], [])

/-- A moment in its normal spelling. A date and a time are joined by a letter or a space. -/
def moment? (limits : ClockLimits) (cs : List Char) : Read String :=
  match date? cs with
  | some (date, rest) =>
    let time := match rest with
      | mark :: tail =>
        if mark == 'T' || mark == 't' || mark == ' ' then time? limits tail else none
      | [] => none
    match time with
    | some (time, rest) =>
      let (zone, rest) := offset limits rest
      some (String.ofList (date ++ ['T'] ++ time ++ zone), rest)
    | none => some (String.ofList date, rest)
  | none => (time? limits cs).map (fun p => (String.ofList p.1, p.2))

end SchemaCompiler.Toml
