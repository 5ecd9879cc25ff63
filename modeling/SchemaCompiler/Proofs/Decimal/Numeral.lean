import Mathlib.Data.Nat.Digits.Defs
import SchemaCompiler.Proofs.Decimal.Integer

/-!
# Numerals

A decimal numeral is one or more digits, possibly after a sign. This is said here without a reader:
digits spell the number that they have by place value (`SchemaCompiler.Decimal.Spells`), and a sign
stands before digits (`SchemaCompiler.Decimal.Numeral`), where a minus sign is for those who allow
negative numbers only.

The readers take the digits from the left and know no places. They accept the numerals and nothing
else, however many digits there are, and read the number that is spelled: `ofDigits?_eq_some_iff`,
`natural?_eq_some_iff` and `integer?_eq_some_iff`.
-/

namespace SchemaCompiler.Decimal

/-! ### Place value -/

/-- The number that digits have by place value: the last one counts ones, the one before it tens. -/
def placeValue (digits : List Char) : Nat :=
  Nat.ofDigits 10 (digits.reverse.map fun c => c.toNat - 48)

/-- One more digit moves the others up by one place. -/
theorem placeValue_concat (digits : List Char) (c : Char) :
    placeValue (digits ++ [c]) = 10 * placeValue digits + (c.toNat - 48) := by
  rw [placeValue, List.reverse_append, List.reverse_singleton, List.singleton_append, List.map_cons,
    Nat.ofDigits_cons, ← placeValue, Nat.add_comm]

/-- **Taking digits from the left gives their place value.** -/
theorem ofDigitChars_eq_placeValue (digits : List Char) :
    Nat.ofDigitChars 10 digits 0 = placeValue digits := by
  induction digits using List.reverseRecOn with
  | nil => rfl
  | append_singleton digits c ih =>
    rw [Nat.ofDigitChars_append, ih, placeValue_concat]
    rfl

/-- **Digits that spell a number**: at least one, and the number is their place value. -/
structure Spells (digits : List Char) (n : Nat) : Prop where
  /-- There is a digit. -/
  ne_nil : digits ≠ []
  /-- There are only digits. -/
  isDigit : ∀ c ∈ digits, c.isDigit = true
  /-- They have the number as their place value. -/
  value : placeValue digits = n

/-- **Digits are read as what they spell.** -/
theorem ofDigits?_eq_some_iff {cs : List Char} {n : Nat} :
    ofDigits? cs = some n ↔ Spells cs n := by
  rw [ofDigits?, ofDigitChars_eq_placeValue]
  constructor
  · intro h
    split at h
    · rename_i hdigits
      obtain ⟨hne, hall⟩ := Bool.and_eq_true_iff.mp hdigits
      exact ⟨by simpa using hne, List.all_eq_true.mp hall, Option.some.inj h⟩
    · cases h
  · rintro ⟨hne, hall, rfl⟩
    rw [if_pos]
    rw [Bool.and_eq_true, List.all_eq_true]
    exact ⟨by simpa using hne, hall⟩

/-! ### Signs -/

/-- **What a number is written like**: digits, possibly after a plus sign, or after a minus sign
where negative numbers are allowed. -/
inductive Numeral : (signed : Bool) → List Char → Int → Prop
  /-- Digits alone. -/
  | plain {signed : Bool} {digits : List Char} {n : Nat} (h : Spells digits n) :
      Numeral signed digits n
  /-- Digits after a plus sign. -/
  | plus {signed : Bool} {digits : List Char} {n : Nat} (h : Spells digits n) :
      Numeral signed ('+' :: digits) n
  /-- Digits after a minus sign. -/
  | minus {digits : List Char} {n : Nat} (h : Spells digits n) :
      Numeral true ('-' :: digits) (-n)

/-- Where negative numbers are allowed, the others are written as before. -/
theorem Numeral.signed {cs : List Char} {n : Int} (h : Numeral false cs n) : Numeral true cs n := by
  cases h with
  | plain h => exact .plain h
  | plus h => exact .plus h

/-- Digits do not start with a sign. -/
theorem Spells.ne_cons {cs digits : List Char} {c : Char} {n : Nat} (h : Spells cs n)
    (hc : c.isDigit = false) : cs ≠ c :: digits := by
  rintro rfl
  exact Bool.false_ne_true (hc.symm.trans (h.isDigit c List.mem_cons_self))

/-- **Natural numbers are read from numerals without a minus sign**, and from nothing else. -/
theorem natural?_eq_some_iff {cs : List Char} {n : Nat} :
    natural? cs = some n ↔ Numeral false cs n := by
  constructor
  · intro h
    by_cases hplus : ∃ digits, cs = '+' :: digits
    · obtain ⟨digits, rfl⟩ := hplus
      exact .plus (ofDigits?_eq_some_iff.mp h)
    · rw [natural?_of_ne (not_exists.mp hplus)] at h
      exact .plain (ofDigits?_eq_some_iff.mp h)
  · intro h
    generalize hm : (n : Int) = m at h
    cases h with
    | plain h =>
      rw [natural?_of_ne fun digits => h.ne_cons (by decide), ofDigits?_eq_some_iff.mpr h,
        Int.natCast_inj.mp hm]
    | plus h => rw [natural?, ofDigits?_eq_some_iff.mpr h, Int.natCast_inj.mp hm]

/-- **Integers are read from numerals**, and from nothing else. -/
theorem integer?_eq_some_iff {cs : List Char} {n : Int} :
    integer? cs = some n ↔ Numeral true cs n := by
  constructor
  · intro h
    by_cases hminus : ∃ digits, cs = '-' :: digits
    · obtain ⟨digits, rfl⟩ := hminus
      rw [integer?_minus] at h
      obtain ⟨m, hm, rfl⟩ := Option.map_eq_some_iff.mp h
      exact .minus (ofDigits?_eq_some_iff.mp hm)
    · rw [integer?_of_ne (not_exists.mp hminus)] at h
      obtain ⟨m, hm, rfl⟩ := Option.map_eq_some_iff.mp h
      exact (natural?_eq_some_iff.mp hm).signed
  · intro h
    cases h with
    | plain h =>
      rw [integer?_of_ne fun digits => h.ne_cons (by decide),
        natural?_eq_some_iff.mpr (.plain h), Option.map_some]
    | plus h =>
      rw [integer?_of_ne (by simp), natural?_eq_some_iff.mpr (.plus h), Option.map_some]
    | minus h => rw [integer?_minus, ofDigits?_eq_some_iff.mpr h, Option.map_some]

/-! ### Limits -/

theorem naturalUpTo?_eq_some_iff {limit n : Nat} {s : String} :
    naturalUpTo? limit s = some n ↔ Numeral false s.toList n ∧ n ≤ limit := by
  rw [naturalUpTo?, Option.filter_eq_some_iff, natural?_eq_some_iff, decide_eq_true_eq]

theorem integerBetween?_eq_some_iff {low high n : Int} {s : String} :
    integerBetween? low high s = some n ↔ Numeral true s.toList n ∧ low ≤ n ∧ n ≤ high := by
  rw [integerBetween?, Option.filter_eq_some_iff, integer?_eq_some_iff, Bool.and_eq_true,
    decide_eq_true_eq, decide_eq_true_eq]

end SchemaCompiler.Decimal
