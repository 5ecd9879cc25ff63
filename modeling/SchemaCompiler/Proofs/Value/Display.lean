import SchemaCompiler.Proofs.Decimal.Integer
import SchemaCompiler.Proofs.Text.Utf8
import SchemaCompiler.Value.Field

/-!
# Values read back

A value that was read from text, or that a fresh member starts from, is written so that reading the
writing gives it back. This holds of every kind but floating-point numbers, and the reason differs
from kind to kind: integers lie within their width and within a word, a bounded text is already cut
to its capacity, bytes are the bytes of a text. `SchemaCompiler.FieldValue.Exact` collects these
facts, and everything else is derived from it:

* fresh values and values that were read are exact (`exact_initial`, `exact_of_read?`);
* an exact value reads back from its written form (`read?_display`).

Content is trimmed before it is read, so there the written form must not change when it is trimmed
(`trim_display_of_read?`). A bounded text may: cutting can leave a blank at the end.
-/

namespace SchemaCompiler

/-- Whether the values of a kind are floating-point numbers. -/
def Kind.isFloat : Kind → Bool
  | .float _ => true
  | _ => false

/-- Whether the values of a kind are texts of bounded length. -/
def Kind.isFixedText : Kind → Bool
  | .fixedText _ => true
  | _ => false

namespace FieldValue

/-- **What a member of a kind holds**, whatever it was read from. -/
inductive Exact : Kind → FieldValue → Prop
  /-- A signed integer within its width and within a word. -/
  | int {bits : Nat} {n : Int} (hfits : fits (.int n) (.int bits true) = true)
      (hlow : -(Int.pow 2 63) ≤ n) (hhigh : n ≤ Int.pow 2 63 - 1) : Exact (.int bits true) (.int n)
  /-- An unsigned integer within its width and within a word. -/
  | uint {bits n : Nat} (hfits : fits (.uint n) (.int bits false) = true)
      (hmax : n ≤ Decimal.maxWord) : Exact (.int bits false) (.uint n)
  /-- A truth value. -/
  | bool (b : Bool) : Exact .bool (.bool b)
  /-- A text. -/
  | text (s : String) : Exact .text (.text s)
  /-- A text that is not longer than its capacity. -/
  | fixedText {capacity : Nat} {s : String} (hcut : Text.truncate capacity s = s) :
      Exact (.fixedText capacity) (.text s)
  /-- The bytes of a text. -/
  | bytes (s : String) : Exact .bytes (.bytes (Text.encode s))

/-- Reading is reading without regard to the width, and then looking at the width. -/
theorem read?_eq_some {kind : Kind} {raw : String} {v : FieldValue} :
    read? kind raw = some v ↔ readAny? kind raw = some v ∧ v.fits kind = true := by
  rw [read?, Option.filter_eq_some_iff]

/-! ### Exact values -/

/-- **The initial value of a kind fits it.** -/
theorem fits_initial (kind : Kind) : (initial kind).fits kind = true := by
  cases kind with
  | int bits signed =>
    cases signed with
    | true =>
      have hpos : 0 < Int.pow 2 (bits - 1) := Int.pow_pos (by decide)
      simp only [initial, fits, Bool.and_eq_true, decide_eq_true_eq]
      omega
    | false =>
      have hpos : 0 < Nat.pow 2 bits := Nat.two_pow_pos bits
      simp only [initial, fits, hpos, decide_true, Bool.or_true]
  | float bits => rfl
  | bool => rfl
  | text => rfl
  | bytes => rfl
  | fixedText capacity => rfl

/-- **The initial value of a kind is exact.** -/
theorem exact_initial {kind : Kind} (hk : kind.isFloat = false) : Exact kind (initial kind) := by
  cases kind with
  | int bits signed =>
    cases signed with
    | true => exact .int (fits_initial (.int bits true)) (by decide) (by decide)
    | false => exact .uint (fits_initial (.int bits false)) (Nat.zero_le _)
  | float bits => exact absurd hk (by simp [Kind.isFloat])
  | bool => exact .bool false
  | text => exact .text ""
  | bytes => exact .bytes ""
  | fixedText capacity => exact .fixedText rfl

/-- **A value that was read is exact.** -/
theorem exact_of_read? {kind : Kind} {raw : String} {v : FieldValue} (hk : kind.isFloat = false)
    (h : read? kind raw = some v) : Exact kind v := by
  obtain ⟨hany, hfits⟩ := read?_eq_some.mp h
  cases kind with
  | int bits signed =>
    cases signed with
    | true =>
      rw [readAny?, Option.map_eq_some_iff] at hany
      obtain ⟨n, hn, rfl⟩ := hany
      rw [Decimal.integerBetween?, Option.filter_eq_some_iff, Bool.and_eq_true, decide_eq_true_eq,
        decide_eq_true_eq] at hn
      exact .int hfits hn.2.1 hn.2.2
    | false =>
      rw [readAny?, Option.map_eq_some_iff] at hany
      obtain ⟨n, hn, rfl⟩ := hany
      rw [Decimal.naturalUpTo?, Option.filter_eq_some_iff, decide_eq_true_eq] at hn
      exact .uint hfits hn.2
  | float bits => exact absurd hk (by simp [Kind.isFloat])
  | bool =>
    rw [readAny?, Option.map_eq_some_iff] at hany
    obtain ⟨b, -, rfl⟩ := hany
    exact .bool b
  | text =>
    obtain rfl : FieldValue.text raw = v := Option.some.inj hany
    exact .text raw
  | bytes =>
    obtain rfl : FieldValue.bytes (Text.encode raw) = v := Option.some.inj hany
    exact .bytes raw
  | fixedText capacity =>
    obtain rfl : FieldValue.text (Text.truncate capacity raw) = v := Option.some.inj hany
    exact .fixedText (Text.truncate_truncate capacity raw)

theorem readBool?_display (b : Bool) : readBool? (if b then "1" else "0") = some b := by
  cases b <;> decide

theorem trim_display_bool (b : Bool) :
    Text.trim (FieldValue.bool b).display = display (.bool b) := by
  cases b <;> decide

/-- **An exact value reads back from its written form.** -/
theorem read?_display {kind : Kind} {v : FieldValue} (h : Exact kind v) :
    read? kind v.display = some v := by
  rw [read?_eq_some]
  cases h with
  | int hfits hlow hhigh =>
    refine ⟨?_, hfits⟩
    rw [readAny?, display, Decimal.trim_ofInt, Decimal.integerBetween?_ofInt hlow hhigh,
      Option.map_some]
  | uint hfits hmax =>
    refine ⟨?_, hfits⟩
    rw [readAny?, display, Decimal.trim_ofNat, Decimal.naturalUpTo?_ofNat hmax, Option.map_some]
  | bool b =>
    refine ⟨?_, rfl⟩
    rw [readAny?, trim_display_bool, display, readBool?_display, Option.map_some]
  | text s => exact ⟨rfl, rfl⟩
  | fixedText hcut =>
    refine ⟨?_, rfl⟩
    rw [readAny?, display, hcut]
  | bytes s =>
    refine ⟨?_, rfl⟩
    rw [readAny?, display, Text.decodeLossy_encode]

/-- An exact value is equal to itself as a value. -/
theorem same_of_exact {kind : Kind} {v : FieldValue} (h : Exact kind v) : v.same v = true := by
  cases h <;> exact beq_self_eq_true _

/-! ### Content -/

/-- The written form of an initial value has no blanks around it. -/
theorem trim_display_initial {kind : Kind} (hk : kind.isFloat = false) :
    Text.trim (initial kind).display = (initial kind).display := by
  have hempty : Text.trim "" = "" := by decide
  cases kind with
  | int bits signed =>
    cases signed with
    | true => exact Decimal.trim_ofInt 0
    | false => exact Decimal.trim_ofNat 0
  | float bits => exact absurd hk (by simp [Kind.isFloat])
  | bool => exact trim_display_bool false
  | text => exact hempty
  | bytes => exact hempty
  | fixedText capacity => exact hempty

/-- **A value that was read from a trimmed text has no blanks around its written form**, unless it
is a bounded text, which cutting may end at a blank. -/
theorem trim_display_of_read? {kind : Kind} {raw : String} {v : FieldValue}
    (hk : kind.isFloat = false) (hb : kind.isFixedText = false)
    (htrim : Text.trim raw = raw) (h : read? kind raw = some v) :
    Text.trim v.display = v.display := by
  have hany := (read?_eq_some.mp h).1
  cases exact_of_read? hk h with
  | int => exact Decimal.trim_ofInt _
  | uint => exact Decimal.trim_ofNat _
  | bool b => exact trim_display_bool b
  | text s =>
    obtain rfl : raw = s := by simpa [readAny?] using hany
    exact htrim
  | fixedText => exact absurd hb (by simp [Kind.isFixedText])
  | bytes s =>
    have hraw : Text.encode raw = Text.encode s := by simpa [readAny?] using hany
    obtain rfl : raw = s := Text.encode_injective hraw
    rw [display, Text.decodeLossy_encode, htrim]

end FieldValue

end SchemaCompiler
