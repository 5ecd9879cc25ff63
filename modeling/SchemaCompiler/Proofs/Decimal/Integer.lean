import SchemaCompiler.Decimal.Integer
import SchemaCompiler.Proofs.Text.Trim

/-!
# Decimal integers read back

What is written for a natural number or an integer reads back as that number, and has no blank
characters in it that trimming could drop. The sign is what separates the cases of the reader: the
digits of a number start with neither sign.
-/

namespace SchemaCompiler.Decimal

/-! ### Digits -/

/-- Decimal digits are the characters from zero to nine. -/
theorem isDigit_iff (c : Char) : c.isDigit = true ↔ 48 ≤ c.toNat ∧ c.toNat ≤ 57 := by
  simp [Char.isDigit, UInt32.le_iff_toNat_le]

/-- A decimal digit is not blank. -/
theorem isBlank_of_isDigit {c : Char} (h : c.isDigit = true) : Text.isBlank c = false := by
  obtain ⟨hlow, hhigh⟩ := (isDigit_iff c).mp h
  simp only [Text.isBlank, Text.inRuns, Text.blankRuns, Text.Run.contains, List.any_cons,
    List.any_nil, Bool.or_false, Bool.or_eq_false_iff, Bool.and_eq_false_iff,
    decide_eq_false_iff_not]
  omega

theorem isDigit_of_mem_toDigits {n : Nat} {c : Char} (h : c ∈ Nat.toDigits 10 n) :
    c.isDigit = true :=
  Nat.isDigit_of_mem_toDigits (by decide) (by decide) h

/-- **The digits of a number stand for it.** -/
@[simp] theorem ofDigits?_toDigits (n : Nat) : ofDigits? (Nat.toDigits 10 n) = some n := by
  have hne : (Nat.toDigits 10 n).isEmpty = false := by
    rw [List.isEmpty_eq_false_iff]
    exact Nat.toDigits_ne_nil
  have hall : (Nat.toDigits 10 n).all Char.isDigit = true := by
    rw [List.all_eq_true]
    exact fun c hc => isDigit_of_mem_toDigits hc
  rw [ofDigits?, hne, hall, Nat.ofDigitChars_ten_toDigits]
  rfl

/-- The digits of a number do not start with a sign. -/
theorem toDigits_ne_cons {c : Char} (hc : c.isDigit = false) (n : Nat) (rest : List Char) :
    Nat.toDigits 10 n ≠ c :: rest := by
  intro h
  have hdigit : c.isDigit = true := isDigit_of_mem_toDigits (h ▸ List.mem_cons_self)
  exact Bool.false_ne_true (hc.symm.trans hdigit)

/-! ### Numbers with a sign -/

/-- Without a plus sign a natural number is read from its digits. -/
theorem natural?_of_ne {cs : List Char} (h : ∀ digits, cs ≠ '+' :: digits) :
    natural? cs = ofDigits? cs := by
  rw [natural?.eq_def]
  split
  · exact absurd rfl (h _)
  · rfl

/-- Without a minus sign an integer is read as a natural number. -/
theorem integer?_of_ne {cs : List Char} (h : ∀ digits, cs ≠ '-' :: digits) :
    integer? cs = (natural? cs).map fun n : Nat => (n : Int) := by
  rw [integer?.eq_def]
  split
  · exact absurd rfl (h _)
  · cases natural? cs <;> rfl

/-- Behind a minus sign an integer is read from its digits. -/
theorem integer?_minus (digits : List Char) :
    integer? ('-' :: digits) = (ofDigits? digits).map fun n : Nat => -(n : Int) := by
  rw [integer?]
  cases ofDigits? digits <;> rfl

theorem natural?_toDigits (n : Nat) : natural? (Nat.toDigits 10 n) = some n := by
  rw [natural?_of_ne (toDigits_ne_cons (by decide) n), ofDigits?_toDigits]

theorem integer?_toDigits (n : Nat) : integer? (Nat.toDigits 10 n) = some (n : Int) := by
  rw [integer?_of_ne (toDigits_ne_cons (by decide) n), natural?_toDigits, Option.map_some]

@[simp] theorem toList_ofNat (n : Nat) : (ofNat n).toList = Nat.toDigits 10 n := by
  simp [ofNat]

/-- The characters of an integer are the digits of its absolute value, after a minus sign if it is
negative. -/
theorem toList_ofInt (n : Int) :
    (ofInt n).toList = (if n < 0 then ['-'] else []) ++ Nat.toDigits 10 n.natAbs := by
  by_cases h : n < 0
  · simp [ofInt, h]
  · simp [ofInt, h]

/-- **A natural number reads back**, if it is within the limit. -/
theorem naturalUpTo?_ofNat {limit n : Nat} (h : n ≤ limit) :
    naturalUpTo? limit (ofNat n) = some n := by
  rw [naturalUpTo?, toList_ofNat, natural?_toDigits]
  simp [h]

/-- **An integer reads back**, if it lies between the limits. -/
theorem integerBetween?_ofInt {low high n : Int} (hlow : low ≤ n) (hhigh : n ≤ high) :
    integerBetween? low high (ofInt n) = some n := by
  have hread : integer? (ofInt n).toList = some n := by
    rw [toList_ofInt]
    by_cases hneg : n < 0
    · have habs : -(n.natAbs : Int) = n := by omega
      rw [if_pos hneg, List.singleton_append, integer?_minus, ofDigits?_toDigits, Option.map_some,
        habs]
    · have habs : (n.natAbs : Int) = n := by omega
      rw [if_neg hneg, List.nil_append, integer?_toDigits, habs]
  rw [integerBetween?, hread]
  simp [hlow, hhigh]

/-! ### No blanks -/

@[simp] theorem trim_ofNat (n : Nat) : Text.trim (ofNat n) = ofNat n := by
  apply Text.trim_eq_self
  intro c hc
  rw [toList_ofNat] at hc
  exact isBlank_of_isDigit (isDigit_of_mem_toDigits hc)

@[simp] theorem trim_ofInt (n : Int) : Text.trim (ofInt n) = ofInt n := by
  apply Text.trim_eq_self
  intro c hc
  rw [toList_ofInt, List.mem_append] at hc
  rcases hc with hsign | hdigit
  · have hc' : c = '-' := by
      split at hsign
      · exact List.mem_singleton.mp hsign
      · exact absurd hsign List.not_mem_nil
    rw [hc']
    decide
  · exact isBlank_of_isDigit (isDigit_of_mem_toDigits hdigit)

end SchemaCompiler.Decimal
