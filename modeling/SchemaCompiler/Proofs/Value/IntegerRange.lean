import SchemaCompiler.Proofs.TypeName
import SchemaCompiler.Proofs.Value.Row

/-!
# The range of an integer type

A text is read for an integer type in two steps: the number must be a word of 64 bits, and then it
must fit the width of the type. Together the two accept what the type can hold and nothing else:
the numerals of the numbers in the range of the width (`SchemaCompiler.Kind.InRange`), with any
number of zeros before them, and with a minus sign only where the type is signed
(`SchemaCompiler.FieldValue.read?_integer_iff`). The widths of the registered types are all at most
that of a word, so neither step hides what the other would have refused.
-/

namespace SchemaCompiler

/-! ### Ranges -/

/-- **The range of a width**: from the least to the greatest integer of so many bits. -/
def Kind.InRange (bits : Nat) (signed : Bool) (n : Int) : Prop :=
  if signed then -(Int.pow 2 (bits - 1)) ≤ n ∧ n ≤ Int.pow 2 (bits - 1) - 1
  else 0 ≤ n ∧ n ≤ Int.pow 2 bits - 1

theorem Kind.inRange_signed {bits : Nat} {n : Int} :
    InRange bits true n ↔ -(Int.pow 2 (bits - 1)) ≤ n ∧ n ≤ Int.pow 2 (bits - 1) - 1 := by
  rw [InRange, if_pos rfl]

theorem Kind.inRange_unsigned {bits : Nat} {n : Int} :
    InRange bits false n ↔ 0 ≤ n ∧ n ≤ Int.pow 2 bits - 1 := by
  rw [InRange, if_neg Bool.false_ne_true]

namespace FieldValue

/-- The value that holds an integer. -/
def ofInteger (signed : Bool) (n : Int) : FieldValue :=
  if signed then .int n else .uint n.toNat

theorem pow_two_le {a b : Nat} (h : a ≤ b) : Int.pow 2 a ≤ Int.pow 2 b := by
  have hone : (1 : Int) ≤ 2 := by decide
  exact pow_le_pow_right₀ hone h

theorem natCast_pow_two (bits : Nat) : ((Nat.pow 2 bits : Nat) : Int) = Int.pow 2 bits :=
  Int.natCast_pow 2 bits

/-- **A word that fits a width is in its range**, and the other way round, for every width up to
that of a word. -/
theorem inRange_and_fits_iff {bits : Nat} (hbits : bits ≤ 64) {signed : Bool} {n : Int} :
    Kind.InRange 64 signed n ∧ (ofInteger signed n).fits (.int bits signed) = true ↔
      Kind.InRange bits signed n := by
  cases signed with
  | true =>
    have hpow : Int.pow 2 (bits - 1) ≤ Int.pow 2 (64 - 1) := pow_two_le (by omega)
    rw [Kind.inRange_signed, Kind.inRange_signed, ofInteger, if_pos rfl, fits, Bool.and_eq_true,
      decide_eq_true_eq, decide_eq_true_eq]
    omega
  | false =>
    have hpow : Int.pow 2 bits ≤ Int.pow 2 64 := pow_two_le hbits
    have hcast := natCast_pow_two bits
    rw [Kind.inRange_unsigned, Kind.inRange_unsigned, ofInteger, if_neg Bool.false_ne_true, fits,
      Bool.or_eq_true, decide_eq_true_eq, decide_eq_true_eq]
    rcases Nat.lt_or_eq_of_le hbits with hlt | rfl
    · omega
    · -- the width of a word asks nothing more of a word
      omega

/-! ### Reading -/

/-- **The words that are read** are the numerals of their range. -/
theorem readAny?_integer_iff {bits : Nat} {signed : Bool} {raw : String} {v : FieldValue} :
    readAny? (.int bits signed) raw = some v ↔
      ∃ core, Text.Trims raw.toList core ∧ ∃ n, Decimal.Numeral signed core n ∧
        Kind.InRange 64 signed n ∧ v = ofInteger signed n := by
  rw [Text.exists_trims_iff (P := fun core => ∃ n, Decimal.Numeral signed core n ∧
    Kind.InRange 64 signed n ∧ v = ofInteger signed n)]
  cases signed with
  | true =>
    rw [readAny?, Option.map_eq_some_iff]
    constructor
    · rintro ⟨n, hn, rfl⟩
      obtain ⟨hnumeral, hrange⟩ := Decimal.integerBetween?_eq_some_iff.mp hn
      exact ⟨n, hnumeral, Kind.inRange_signed.mpr hrange, rfl⟩
    · rintro ⟨n, hnumeral, hrange, rfl⟩
      have hrange := Kind.inRange_signed.mp hrange
      exact ⟨n, Decimal.integerBetween?_eq_some_iff.mpr ⟨hnumeral, hrange⟩, rfl⟩
  | false =>
    have hmax : (Decimal.maxWord : Int) = Int.pow 2 64 - 1 := by decide
    rw [readAny?, Option.map_eq_some_iff]
    constructor
    · rintro ⟨n, hn, rfl⟩
      obtain ⟨hnumeral, hle⟩ := Decimal.naturalUpTo?_eq_some_iff.mp hn
      refine ⟨n, hnumeral, Kind.inRange_unsigned.mpr ⟨Int.natCast_nonneg n, ?_⟩, rfl⟩
      omega
    · rintro ⟨m, hnumeral, hrange, rfl⟩
      obtain ⟨hlow, hhigh⟩ := Kind.inRange_unsigned.mp hrange
      obtain ⟨n, rfl⟩ := Int.eq_ofNat_of_zero_le hlow
      refine ⟨n, Decimal.naturalUpTo?_eq_some_iff.mpr ⟨hnumeral, ?_⟩, rfl⟩
      omega

/-- **A text is read exactly if it is a numeral of the range**, and then its number is read. -/
theorem read?_integer_iff {bits : Nat} (hbits : bits ≤ 64) {signed : Bool} {raw : String}
    {v : FieldValue} :
    read? (.int bits signed) raw = some v ↔
      ∃ core, Text.Trims raw.toList core ∧ ∃ n, Decimal.Numeral signed core n ∧
        Kind.InRange bits signed n ∧ v = ofInteger signed n := by
  rw [read?_eq_some, readAny?_integer_iff]
  constructor
  · rintro ⟨⟨core, htrims, n, hnumeral, hword, rfl⟩, hfits⟩
    exact ⟨core, htrims, n, hnumeral, (inRange_and_fits_iff hbits).mp ⟨hword, hfits⟩, rfl⟩
  · rintro ⟨core, htrims, n, hnumeral, hrange, rfl⟩
    obtain ⟨hword, hfits⟩ := (inRange_and_fits_iff hbits).mpr hrange
    exact ⟨⟨core, htrims, n, hnumeral, hword, rfl⟩, hfits⟩

/-- **Integer types read exactly what they hold.** A registered integer type has 8, 16, 32 or 64
bits; a text is read for it exactly if, without the blanks around it, it is a numeral whose number
lies in the range of the type, and then that number is read; and every value that fits the type is
read back from its written form. -/
theorem read?_registered_integer {p : Primitive} (hp : p ∈ Primitive.registry) {bits : Nat}
    {signed : Bool} (hkind : p.kind = .int bits signed) :
    bits ∈ [8, 16, 32, 64] ∧
    (∀ (raw : String) (v : FieldValue), read? p.kind raw = some v ↔
      ∃ core, Text.Trims raw.toList core ∧ ∃ n, Decimal.Numeral signed core n ∧
        Kind.InRange bits signed n ∧ v = ofInteger signed n) ∧
    ∀ v : FieldValue, v.InWord → v.fits p.kind = true → read? p.kind v.display = some v := by
  obtain ⟨hwidth, -⟩ := Primitive.integer_of_mem_registry hp hkind
  have hbits : bits ≤ 64 := by
    have hall : ∀ b ∈ [8, 16, 32, 64], b ≤ 64 := by decide
    exact hall bits hwidth
  rw [hkind]
  refine ⟨hwidth, fun raw v => read?_integer_iff hbits, fun v hword hfits => ?_⟩
  refine read?_display (exact_of_fits rfl hfits hword ?_ nofun)
  rintro bs rfl
  cases hfits

/-- The type of signed integers of eight bits. -/
def int8 : Primitive :=
  .integer "int8" 8 true "i8" "int32" "tinyint(3)"

/-- The least integer of eight bits is read, with more zeros before it than a word has digits and
with a wide blank before its sign; and it is read back. -/
theorem read?_least_int8 :
    int8 ∈ Primitive.registry ∧
      read? int8.kind "\u3000-0000000000000000000000128\n" = some (.int (-128)) ∧
      read? int8.kind (FieldValue.int (-128)).display = some (.int (-128)) := by
  have hmem : int8 ∈ Primitive.registry := List.mem_cons_self
  obtain ⟨-, hread, hdisplay⟩ := read?_registered_integer hmem rfl
  have hdigits : Decimal.Spells "0000000000000000000000128".toList 128 :=
    Decimal.ofDigits?_eq_some_iff.mp (by decide)
  have hrange : Kind.InRange 8 true (-128) := Kind.inRange_signed.mpr (by decide)
  refine ⟨hmem, (hread _ _).mpr ⟨_, Text.trimChars_eq_iff.mp ?_, _, .minus hdigits, hrange, rfl⟩,
    hdisplay _ ⟨by decide, by decide⟩ (by decide)⟩
  decide

end FieldValue

end SchemaCompiler
