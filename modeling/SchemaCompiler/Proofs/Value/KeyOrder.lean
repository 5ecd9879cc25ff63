import SchemaCompiler.Proofs.Text.Utf8
import SchemaCompiler.Value.Held

/-!
# The order of keys

Keys are compared variant by variant, each in its own way. To see that this is one total order,
every value is given a *code*: the rank of its variant, followed by the number it is, or by its
bytes. Comparing keys is comparing codes as lists of numbers (`compareKeys_eq_compareLex`), and
different values have different codes (`code_injective`), so the laws of the order are those of
lists:

* `SchemaCompiler.FieldValue.compareKeys` is oriented, transitive, and tells all values apart.

The entries of a map are kept in increasing order of their keys
(`SchemaCompiler.Held.Ordered`), and `SchemaCompiler.Held.alter` keeps them so. A key above
all others goes to the end, which is why entries that are put in again in order make the same list.
-/

namespace SchemaCompiler

/-! ### Ranks of floating-point numbers -/

/-- **The rank of a pattern determines it.** -/
theorem Decimal.Binary64.rank_injective {x y : Decimal.Binary64} (h : x.rank = y.rank) : x = y := by
  have hx : x.bits.toNat < 2 ^ 64 := x.bits.toNat_lt
  have hy : y.bits.toNat < 2 ^ 64 := y.bits.toNat_lt
  have hbits : x.bits.toNat = y.bits.toNat := by
    have hsign : signBit = 2 ^ 63 := rfl
    simp only [rank, isNegative, magnitude, decide_eq_true_eq] at h
    rw [hsign] at h
    -- the sign is the highest bit: two patterns of one sign differ below it
    split at h <;> split at h <;> omega
  cases x
  cases y
  exact congrArg _ (UInt64.toNat_inj.mp hbits)

namespace FieldValue

/-! ### Codes -/

/-- The numbers by which a value is compared after its variant. -/
def payload : FieldValue → List Int
  | .int n => [n]
  | .uint n => [(n : Int)]
  | .float x => [x.rank]
  | .bool b => [(b.toNat : Int)]
  | .text s => (Text.encode s).map (fun b => (b.toNat : Int))
  | .bytes bs => bs.map (fun b => (b.toNat : Int))

/-- **The code of a value as a key**: the rank of its variant, then its payload. -/
def code (v : FieldValue) : List Int :=
  (v.variantRank : Int) :: v.payload

/-- Natural numbers compare as integers do. -/
theorem compare_natCast (a b : Nat) : compare a b = compare (a : Int) (b : Int) := by
  simp [Nat.compare_eq_ite_lt, Int.compare_eq_ite_lt]

/-- Comparing bytes is comparing the lists of their numbers. -/
theorem compareBytes_eq_compareLex (as bs : List UInt8) :
    compareBytes as bs =
      List.compareLex compare (as.map (fun b => (b.toNat : Int)))
        (bs.map (fun b => (b.toNat : Int))) := by
  induction as generalizing bs with
  | nil => cases bs <;> rfl
  | cons a as ih =>
    cases bs with
    | nil => rfl
    | cons b bs =>
      rw [compareBytes, List.map_cons, List.map_cons, List.compareLex_cons_cons, ih,
        compare_natCast]

/-- Values of one variant compare by their payloads. -/
theorem compareKeys_of_variantRank_eq {v w : FieldValue} (h : v.variantRank = w.variantRank) :
    v.compareKeys w = List.compareLex compare v.payload w.payload := by
  have hone : ∀ a b : Int, compare a b = List.compareLex compare [a] [b] := by
    intro a b
    rw [List.compareLex_cons_cons, List.compareLex_nil_nil, Ordering.then_eq]
  -- the ranks rule out all pairs but the six of one variant
  cases v <;> cases w <;> simp [variantRank] at h
  · exact hone _ _
  · exact (compare_natCast _ _).trans (hone _ _)
  · exact hone _ _
  · exact (compare_natCast _ _).trans (hone _ _)
  · exact compareBytes_eq_compareLex _ _
  · exact compareBytes_eq_compareLex _ _

/-- Values of different variants compare by their variants. -/
theorem compareKeys_of_variantRank_ne {v w : FieldValue} (h : v.variantRank ≠ w.variantRank) :
    v.compareKeys w = compare v.variantRank w.variantRank := by
  cases v <;> cases w <;> simp [variantRank] at h <;> rfl

/-- **Comparing keys is comparing codes.** -/
theorem compareKeys_eq_compareLex (v w : FieldValue) :
    v.compareKeys w = List.compareLex compare v.code w.code := by
  rw [code, code, List.compareLex_cons_cons, ← compare_natCast]
  by_cases h : v.variantRank = w.variantRank
  · rw [compareKeys_of_variantRank_eq h, h, Nat.compare_eq_eq.mpr rfl, Ordering.eq_then]
  · have hne : compare v.variantRank w.variantRank ≠ .eq := fun he => h (Nat.compare_eq_eq.mp he)
    rw [compareKeys_of_variantRank_ne h]
    cases hc : compare v.variantRank w.variantRank with
    | lt => rfl
    | eq => exact absurd hc hne
    | gt => rfl

theorem map_toNat_injective {as bs : List UInt8}
    (h : as.map (fun b => (b.toNat : Int)) = bs.map (fun b => (b.toNat : Int))) : as = bs := by
  refine (List.map_inj_right ?_).mp h
  intro a b hab
  exact UInt8.toNat_inj.mp (Int.ofNat.inj hab)

/-- **Different values have different codes.** -/
theorem code_injective {v w : FieldValue} (h : v.code = w.code) : v = w := by
  obtain ⟨hrank, hpay⟩ := List.cons.inj h
  have hbool : ∀ a b : Bool, a.toNat = b.toNat → a = b := by decide
  cases v <;> cases w <;> simp [variantRank] at hrank
  · exact congrArg _ (List.cons.inj hpay).1
  · exact congrArg _ (Int.ofNat.inj (List.cons.inj hpay).1)
  · exact congrArg _ (Decimal.Binary64.rank_injective (List.cons.inj hpay).1)
  · exact congrArg _ (hbool _ _ (Int.ofNat.inj (List.cons.inj hpay).1))
  · exact congrArg _ (Text.encode_injective (map_toNat_injective hpay))
  · exact congrArg _ (map_toNat_injective hpay)

instance : Std.TransCmp compareKeys where
  eq_swap := by
    intro v w
    rw [compareKeys_eq_compareLex, compareKeys_eq_compareLex]
    exact Std.OrientedCmp.eq_swap
  isLE_trans := by
    intro u v w huv hvw
    rw [compareKeys_eq_compareLex] at huv hvw ⊢
    exact Std.TransCmp.isLE_trans huv hvw

instance : Std.LawfulEqCmp compareKeys where
  eq_of_compare := by
    intro v w h
    rw [compareKeys_eq_compareLex] at h
    exact code_injective (Std.LawfulEqCmp.eq_of_compare h)

end FieldValue

namespace Held

/-! ### Ordered entries -/

variable {β : Type}

/-- Entries in increasing order of their keys. -/
def Ordered (entries : List (FieldValue × β)) : Prop :=
  entries.Pairwise (fun p q => p.1.compareKeys q.1 = .lt)

theorem ordered_nil : Ordered ([] : List (FieldValue × β)) :=
  List.Pairwise.nil

/-- **What one change of entries can leave behind**: the entries that were there, and one under the
key, which is new or changed. -/
theorem mem_alter {key : FieldValue} {change : Option β → β} {entries : List (FieldValue × β)}
    {p : FieldValue × β} (h : p ∈ alter key change entries) :
    p ∈ entries ∨ p = (key, change none) ∨
      ∃ old, (key, old) ∈ entries ∧ p = (key, change (some old)) := by
  induction entries with
  | nil => exact Or.inr (Or.inl (List.mem_singleton.mp h))
  | cons entry rest ih =>
    obtain ⟨k, v⟩ := entry
    rw [alter] at h
    split at h
    · rcases List.mem_cons.mp h with hp | hold
      · exact Or.inr (Or.inl hp)
      · exact Or.inl hold
    · next heq =>
      obtain rfl : key = k := Std.LawfulEqCmp.eq_of_compare heq
      rcases List.mem_cons.mp h with hp | hold
      · exact Or.inr (Or.inr ⟨v, List.mem_cons_self, hp⟩)
      · exact Or.inl (List.mem_cons_of_mem _ hold)
    · rcases List.mem_cons.mp h with hp | hrest
      · exact Or.inl (hp ▸ List.mem_cons_self)
      · rcases ih hrest with hold | hnew | ⟨old, hmem, hp⟩
        · exact Or.inl (List.mem_cons_of_mem _ hold)
        · exact Or.inr (Or.inl hnew)
        · exact Or.inr (Or.inr ⟨old, List.mem_cons_of_mem _ hmem, hp⟩)

/-- **Changing an entry keeps the order.** -/
theorem ordered_alter {entries : List (FieldValue × β)} (h : Ordered entries) (key : FieldValue)
    (change : Option β → β) : Ordered (alter key change entries) := by
  induction entries with
  | nil => exact List.pairwise_singleton _ _
  | cons entry rest ih =>
    obtain ⟨k, v⟩ := entry
    obtain ⟨hhead, htail⟩ := List.pairwise_cons.mp h
    rw [alter]
    split
    · next hlt =>
      -- the key is below the first one, and so below all
      refine List.pairwise_cons.mpr ⟨fun q hq => ?_, h⟩
      rcases List.mem_cons.mp hq with rfl | hrest
      · exact hlt
      · exact Std.TransCmp.lt_trans hlt (hhead q hrest)
    · exact List.pairwise_cons.mpr ⟨hhead, htail⟩
    · next hgt =>
      have hlt : k.compareKeys key = .lt := Std.OrientedCmp.gt_iff_lt.mp hgt
      refine List.pairwise_cons.mpr ⟨fun q hq => ?_, ih htail⟩
      rcases mem_alter hq with hold | rfl | ⟨old, -, rfl⟩
      · exact hhead q hold
      · exact hlt
      · exact hlt

/-- **A key above all others goes to the end.** -/
theorem alter_of_forall_lt {entries : List (FieldValue × β)} {key : FieldValue}
    (h : ∀ p ∈ entries, p.1.compareKeys key = .lt) (change : Option β → β)
    (rest : List (FieldValue × β)) :
    alter key change (entries ++ rest) = entries ++ alter key change rest := by
  induction entries with
  | nil => rfl
  | cons entry entries ih =>
    obtain ⟨k, v⟩ := entry
    have hgt : key.compareKeys k = .gt := Std.OrientedCmp.gt_of_lt (h _ List.mem_cons_self)
    rw [List.cons_append, alter, hgt, ih fun p hp => h p (List.mem_cons_of_mem _ hp),
      List.cons_append]

/-- Changing the entry of a key that is the first one. -/
theorem alter_self (key : FieldValue) (change : Option β → β) (v : β)
    (rest : List (FieldValue × β)) :
    alter key change ((key, v) :: rest) = (key, change (some v)) :: rest := by
  have hself : key.compareKeys key = .eq := Std.ReflCmp.compare_self
  rw [alter, hself]

/-- The keys before an entry of an ordered list are below its key. -/
theorem Ordered.lt_of_append {entries rest : List (FieldValue × β)} {p : FieldValue × β}
    (h : Ordered (entries ++ p :: rest)) : ∀ q ∈ entries, q.1.compareKeys p.1 = .lt :=
  fun q hq => (List.pairwise_append.mp h).2.2 q hq p List.mem_cons_self

end Held

end SchemaCompiler
