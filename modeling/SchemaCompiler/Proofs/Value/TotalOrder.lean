import SchemaCompiler.Proofs.Value.Rereading

/-!
# Keys are totally ordered

Which of two keys comes first is said here by a relation with one rule for each variant and one for
two variants (`SchemaCompiler.FieldValue.Precedes`): integers by size, floating-point numbers by the
total order of their patterns, truth values with `false` first, texts by their bytes, and bytes as
they are. `SchemaCompiler.FieldValue.compareKeys` decides this relation
(`compareKeys_eq_lt_iff`).

The laws of the order come from the codes of values (`SchemaCompiler.Proofs.Value.KeyOrder`). They
make a sorted list of keys unique, and the entry that is found under a key the only one there
(`SchemaCompiler.FieldValue.keys_totally_ordered`).
-/

namespace SchemaCompiler

namespace Decimal.Binary64

/-- **The total order of patterns.** A pattern that is no number has a greater magnitude than all
numbers, so it stands at the end of its sign. -/
inductive Precedes (x y : Binary64) : Prop where
  /-- A negative pattern comes before a positive one. -/
  | signs (hx : x.isNegative = true) (hy : y.isNegative = false) : Precedes x y
  /-- Positive patterns are ordered by their magnitudes. -/
  | positive (hx : x.isNegative = false) (hy : y.isNegative = false)
      (h : x.magnitude < y.magnitude) : Precedes x y
  /-- Negative patterns are ordered the other way round. -/
  | negative (hx : x.isNegative = true) (hy : y.isNegative = true)
      (h : y.magnitude < x.magnitude) : Precedes x y

theorem totalCompare_eq_lt_iff {x y : Binary64} : x.totalCompare y = .lt ↔ x.Precedes y := by
  rw [totalCompare, compare_lt_iff_lt, rank, rank]
  constructor
  · intro h
    cases hx : x.isNegative <;> cases hy : y.isNegative <;> simp only [hx, hy] at h
    · exact .positive hx hy (by simpa using h)
    · exact absurd h (by simp; omega)
    · exact .signs hx hy
    · exact .negative hx hy (by simpa using h)
  · rintro (⟨hx, hy⟩ | ⟨hx, hy, h⟩ | ⟨hx, hy, h⟩) <;> simp only [hx, hy] <;> simp <;> omega

end Decimal.Binary64

namespace FieldValue

/-- **One key comes before another.** -/
inductive Precedes : FieldValue → FieldValue → Prop where
  /-- Signed integers by size. -/
  | int {m n : Int} (h : m < n) : Precedes (.int m) (.int n)
  /-- Unsigned integers by size. -/
  | uint {m n : Nat} (h : m < n) : Precedes (.uint m) (.uint n)
  /-- Floating-point numbers by the total order of their patterns. -/
  | float {x y : Decimal.Binary64} (h : x.Precedes y) : Precedes (.float x) (.float y)
  /-- What is false comes first. -/
  | bool : Precedes (.bool false) (.bool true)
  /-- Texts by their bytes. -/
  | text {s t : String} (h : Text.encode s < Text.encode t) : Precedes (.text s) (.text t)
  /-- Bytes, of which the first difference decides. -/
  | bytes {as bs : List UInt8} (h : as < bs) : Precedes (.bytes as) (.bytes bs)
  /-- Values of different variants. -/
  | variants {v w : FieldValue} (h : v.variantRank < w.variantRank) : Precedes v w

/-- Comparing bytes is the order of lists of bytes. -/
theorem compareBytes_eq_lt_iff {as bs : List UInt8} : compareBytes as bs = .lt ↔ as < bs := by
  induction as generalizing bs with
  | nil => cases bs <;> simp [compareBytes]
  | cons a as ih =>
    cases bs with
    | nil => simp [compareBytes]
    | cons b bs =>
      rw [compareBytes, Ordering.then_eq_lt, ih, List.cons_lt_cons_iff, compare_lt_iff_lt,
        compare_eq_iff_eq, UInt8.toNat_inj, UInt8.lt_iff_toNat_lt]

theorem compareKeys_eq_lt_iff {v w : FieldValue} : v.compareKeys w = .lt ↔ Precedes v w := by
  constructor
  · intro h
    by_cases hrank : v.variantRank = w.variantRank
    · -- the ranks rule out all pairs but the six of one variant
      cases v <;> cases w <;> simp [variantRank] at hrank
      · exact .int (compare_lt_iff_lt.mp h)
      · exact .uint (compare_lt_iff_lt.mp h)
      · exact .float (Decimal.Binary64.totalCompare_eq_lt_iff.mp h)
      · next a b =>
        cases a <;> cases b
        · cases h
        · exact .bool
        · cases h
        · cases h
      · exact .text (compareBytes_eq_lt_iff.mp h)
      · exact .bytes (compareBytes_eq_lt_iff.mp h)
    · rw [compareKeys_of_variantRank_ne hrank, Nat.compare_eq_lt] at h
      exact .variants h
  · intro h
    cases h with
    | int h => exact compare_lt_iff_lt.mpr h
    | uint h => exact compare_lt_iff_lt.mpr h
    | float h => exact Decimal.Binary64.totalCompare_eq_lt_iff.mpr h
    | bool => rfl
    | text h => exact compareBytes_eq_lt_iff.mpr h
    | bytes h => exact compareBytes_eq_lt_iff.mpr h
    | variants h =>
      rw [compareKeys_of_variantRank_ne (Nat.ne_of_lt h), Nat.compare_eq_lt]
      exact h

/-- Keys in order, of which neighbours may be the same. -/
def Sorted (keys : List FieldValue) : Prop :=
  keys.Pairwise fun v w => (v.compareKeys w).isLE = true

/-- **Keys can be sorted in one way only.** -/
theorem existsUnique_sorted (keys : List FieldValue) :
    ∃! sorted : List FieldValue, sorted.Perm keys ∧ Sorted sorted := by
  have hsorted : Sorted (keys.mergeSort fun v w => (v.compareKeys w).isLE) := by
    refine List.pairwise_mergeSort (fun u v w => Std.TransCmp.isLE_trans) (fun v w => ?_) keys
    have hswap : w.compareKeys v = (v.compareKeys w).swap := Std.OrientedCmp.eq_swap
    rw [hswap]
    cases v.compareKeys w <;> rfl
  refine ⟨_, ⟨List.mergeSort_perm keys _, hsorted⟩, ?_⟩
  rintro others ⟨hperm, hothers⟩
  refine (hperm.trans (List.mergeSort_perm keys _).symm).eq_of_pairwise ?_ hothers hsorted
  intro v w _ _ hvw hwv
  exact Std.LawfulEqCmp.eq_of_compare (Std.OrientedCmp.isLE_antisymm hvw hwv)

/-- **Keys are totally ordered.** Comparing decides which of two keys comes first, each key is equal
to itself, turning the keys round turns the answer round, and the order is transitive, for all mixes
of variants. Keys are equal only if they are the same value of the same variant, down to the pattern
of a floating-point number. So keys are sorted in one way only, and what is found under a key of a
map is the only entry there. -/
theorem keys_totally_ordered :
    (∀ v w : FieldValue, v.compareKeys w = .lt ↔ Precedes v w) ∧
      (∀ v : FieldValue, v.compareKeys v = .eq) ∧
      (∀ v w : FieldValue, w.compareKeys v = (v.compareKeys w).swap) ∧
      (∀ u v w : FieldValue, u.compareKeys v = .lt → v.compareKeys w = .lt →
        u.compareKeys w = .lt) ∧
      (∀ u v w : FieldValue, (u.compareKeys v).isLE = true → (v.compareKeys w).isLE = true →
        (u.compareKeys w).isLE = true) ∧
      (∀ v w : FieldValue, v.compareKeys w = .eq ↔ v = w) ∧
      (∀ keys : List FieldValue, ∃! sorted : List FieldValue, sorted.Perm keys ∧ Sorted sorted) ∧
      ∀ (β : Type) (entries : List (FieldValue × β)), Held.Ordered entries →
        ∀ k b, Held.lookup? k entries = some b ↔ (k, b) ∈ entries :=
  ⟨fun _ _ => compareKeys_eq_lt_iff, fun _ => Std.ReflCmp.compare_self,
    fun _ _ => Std.OrientedCmp.eq_swap, fun _ _ _ => Std.TransCmp.lt_trans,
    fun _ _ _ => Std.TransCmp.isLE_trans, fun _ _ => Std.LawfulEqCmp.compare_eq_iff_eq,
    existsUnique_sorted, fun _ _ h _ _ => Held.lookup?_eq_some_iff h⟩

/-- Keys of all variants in order. The patterns are those of a negative and a positive zero between
two that are no numbers, and the letter with an accent has the greater first byte. -/
def mixedKeys : List FieldValue :=
  [.int 7, .uint 0, .float ⟨0xfff8000000000000⟩, .float ⟨0x8000000000000000⟩, .float ⟨0⟩,
    .float ⟨0x7ff8000000000000⟩, .bool false, .bool true, .text "z", .text "é", .bytes [],
    .bytes [0, 255], .bytes [1]]

/-- Mixed keys are in order, and the entry of each one is found. As keys, the zeros differ and a
pattern that is no number is equal to itself; as values, it is the other way round. -/
theorem mixedKeys_ordered :
    Held.Ordered (mixedKeys.zip (List.range 13)) ∧
      Held.lookup? (.float ⟨0x7ff8000000000000⟩) (mixedKeys.zip (List.range 13)) = some 5 ∧
      compareKeys (.int 7) (.bytes [1]) = .lt ∧
      compareKeys (.float ⟨0x8000000000000000⟩) (.float ⟨0⟩) = .lt ∧
      same (.float ⟨0x8000000000000000⟩) (.float ⟨0⟩) = true ∧
      compareKeys (.float ⟨0x7ff8000000000000⟩) (.float ⟨0x7ff8000000000000⟩) = .eq ∧
      same (.float ⟨0x7ff8000000000000⟩) (.float ⟨0x7ff8000000000000⟩) = false := by
  obtain ⟨hlt, hself, -, htrans, -, -, -, hlookup⟩ := keys_totally_ordered
  have hordered : Held.Ordered (mixedKeys.zip (List.range 13)) := by
    rw [Held.Ordered]
    decide
  refine ⟨hordered, (hlookup _ _ hordered _ _).mpr (by decide), ?_, ?_, by decide, hself _,
    by decide⟩
  · exact htrans _ (.text "é") _ ((hlt _ _).mpr (.variants (by decide)))
      ((hlt _ _).mpr (.variants (by decide)))
  · exact (hlt _ _).mpr (.float (.signs (by decide) (by decide)))

end FieldValue

end SchemaCompiler
