import SchemaCompiler.Proofs.Decimal.Numeral
import SchemaCompiler.Proofs.Name.FirstOccurrences
import SchemaCompiler.Schema.Flat

/-!
# The grammar of type names

A type name is a registered name, or `char` and the digits of a capacity that is not zero and that
a word holds. `SchemaCompiler.Primitive.TypeName` says so, together with the type that the name
stands for; blanks around a name do not count, and blanks inside it do. Resolving follows this
grammar and nothing else (`SchemaCompiler.Primitive.resolve?_eq_some_iff`).

A bounded text has many names, since a capacity may have leading zeros, and it can be declared by a
type and a size besides. All of them come to the one name that the type itself carries
(`SchemaCompiler.Primitive.resolve?_name`, `SchemaCompiler.FlatSchema.readField_sized`).
-/

namespace SchemaCompiler

namespace Primitive

/-! ### Registered types -/

theorem nodup_registry : (registry.map name).Nodup := by
  decide

theorem registered?_eq_some_iff {s : String} {p : Primitive} :
    registered? s = some p ↔ p ∈ registry ∧ p.name = s := by
  constructor
  · intro h
    have hname := List.find?_some h
    exact ⟨List.mem_of_find?_eq_some h, beq_iff_eq.mp hname⟩
  · rintro ⟨hp, rfl⟩
    exact find?_name_eq_some nodup_registry hp

/-- No registered name is one of a bounded text. -/
theorem toList_ne_of_mem_registry {p : Primitive} (h : p ∈ registry) (digits : List Char) :
    p.name.toList ≠ "char".toList ++ digits := by
  have hall : ∀ q ∈ registry, q.name.toList.take 4 ≠ "char".toList := by decide
  intro heq
  refine hall p h ?_
  rw [heq]
  rfl

/-- Registered names have no blanks around them. -/
theorem trim_name_of_mem_registry {p : Primitive} (h : p ∈ registry) :
    Text.trim p.name = p.name := by
  have hall : ∀ q ∈ registry, Text.trim q.name = q.name := by decide
  exact hall p h

/-! ### Integer types -/

/-- The word for an integer type in generated code. -/
def integerWord (bits : Nat) (signed : Bool) : String :=
  (if signed then "i" else "u") ++ Decimal.ofNat bits

/-- Only registered types have integers as values. -/
theorem mem_registry_of_resolve? {typeName : String} {p : Primitive} {bits : Nat} {signed : Bool}
    (h : resolve? typeName = some p) (hkind : p.kind = .int bits signed) : p ∈ registry := by
  rw [resolve?, lookup?] at h
  split at h
  · rename_i q hq
    cases h
    exact List.mem_of_find?_eq_some hq
  · obtain ⟨capacity, -, rfl⟩ := Option.map_eq_some_iff.mp h
    cases hkind

/-- **The integer types of the registry.** They have 8, 16, 32 or 64 bits, and travel with at least
32; those of eight bits alone are widened. -/
theorem integer_of_mem_registry {p : Primitive} {bits : Nat} {signed : Bool} (h : p ∈ registry)
    (hkind : p.kind = .int bits signed) :
    bits ∈ [8, 16, 32, 64] ∧ p.repr = integerWord bits signed ∧
      p.wireRepr = integerWord (max 32 bits) signed ∧
      p.widen?.map Primitive.repr = if bits = 8 then some p.wireRepr else none := by
  simp only [registry, List.mem_cons, List.not_mem_nil, or_false] at h
  rcases h with rfl | rfl | rfl | rfl | rfl | rfl | rfl | rfl | rfl | rfl | rfl | rfl | rfl | rfl |
    rfl | rfl | rfl | rfl
  all_goals cases hkind
  all_goals decide

/-! ### Bounded texts -/

/-- **The bounded text of a capacity**, with the words that the artifacts use for it. -/
structure IsBoundedText (p : Primitive) (capacity : Nat) : Prop where
  /-- Its values are texts of at most so many bytes. -/
  kind : p.kind = .fixedText capacity
  /-- Its name in schemas. -/
  name : p.name = "char" ++ Decimal.ofNat capacity
  /-- The type of a member. -/
  repr : p.repr = "FixedText<" ++ Decimal.ofNat capacity ++ ">"
  /-- The type of a message field. -/
  wire : p.wire = "string"
  /-- The definition of a table column. -/
  storage : p.storage = "varchar(" ++ Decimal.ofNat capacity ++ ") NOT NULL default \x27\x27"
  /-- The literal that a fresh member starts from. -/
  initial : p.initial = "FixedText::new()"

theorem isBoundedText_iff {p : Primitive} {capacity : Nat} :
    IsBoundedText p capacity ↔ p = bounded capacity := by
  constructor
  · rintro ⟨hkind, hname, hrepr, hwire, hstorage, hinitial⟩
    cases p
    simp_all [bounded]
  · rintro rfl
    exact ⟨rfl, rfl, rfl, rfl, rfl, rfl⟩

theorem boundedCapacity?_eq_some_iff {s : String} {n : Nat} :
    boundedCapacity? s = some n ↔
      ∃ digits, s.toList = "char".toList ++ digits ∧ Decimal.Spells digits n ∧ 1 ≤ n ∧
        n ≤ Decimal.maxWord := by
  rw [boundedCapacity?]
  split
  · rename_i digits hs
    rw [Option.filter_eq_some_iff, Decimal.ofDigits?_eq_some_iff, Bool.and_eq_true,
      decide_eq_true_eq, decide_eq_true_eq, hs]
    constructor
    · rintro ⟨hdigits, hpos, hmax⟩
      exact ⟨digits, rfl, hdigits, hpos, hmax⟩
    · rintro ⟨others, hothers, hdigits, hpos, hmax⟩
      have hsame : "char".toList ++ digits = "char".toList ++ others := hothers
      obtain rfl : digits = others := List.append_cancel_left hsame
      exact ⟨hdigits, hpos, hmax⟩
  · rename_i hno
    constructor
    · exact nofun
    · rintro ⟨digits, hs, -⟩
      exact absurd hs (hno digits)

/-! ### Names -/

/-- **What a type name is written like**, and the type that it stands for. -/
inductive TypeName : List Char → Primitive → Prop
  /-- A registered name stands for its type. -/
  | registered {p : Primitive} (h : p ∈ registry) : TypeName p.name.toList p
  /-- `char` and the digits of a capacity stand for the bounded text of that capacity. -/
  | bounded {digits : List Char} {n : Nat} {p : Primitive} (hdigits : Decimal.Spells digits n)
      (hpos : 1 ≤ n) (hmax : n ≤ Decimal.maxWord) (hp : IsBoundedText p n) :
      TypeName ("char".toList ++ digits) p

theorem lookup?_eq_some_iff {s : String} {p : Primitive} :
    lookup? s = some p ↔ TypeName s.toList p := by
  constructor
  · intro h
    rw [lookup?] at h
    split at h
    · rename_i q hq
      obtain rfl : q = p := Option.some.inj h
      obtain ⟨hmem, rfl⟩ := registered?_eq_some_iff.mp hq
      exact .registered hmem
    · obtain ⟨n, hn, rfl⟩ := Option.map_eq_some_iff.mp h
      obtain ⟨digits, hs, hdigits, hpos, hmax⟩ := boundedCapacity?_eq_some_iff.mp hn
      rw [hs]
      exact .bounded hdigits hpos hmax (isBoundedText_iff.mpr rfl)
  · intro h
    generalize hcs : s.toList = cs at h
    rw [lookup?]
    cases h with
    | registered hmem =>
      obtain rfl : s = p.name := String.toList_inj.mp hcs
      rw [registered?_eq_some_iff.mpr ⟨hmem, rfl⟩]
    | bounded hdigits hpos hmax hp =>
      have hfree : registered? s = none := by
        rw [Option.eq_none_iff_forall_ne_some]
        intro q hq
        obtain ⟨hmem, rfl⟩ := registered?_eq_some_iff.mp hq
        exact toList_ne_of_mem_registry hmem _ hcs
      have hcapacity := boundedCapacity?_eq_some_iff.mpr ⟨_, hcs, hdigits, hpos, hmax⟩
      rw [hfree, hcapacity, isBoundedText_iff.mp hp]
      rfl

/-- **Resolving follows the grammar**: a type is found exactly for the names of it, with or without
blanks around them. -/
theorem resolve?_eq_some_iff {s : String} {p : Primitive} :
    resolve? s = some p ↔ ∃ core, Text.Trims s.toList core ∧ TypeName core p := by
  rw [resolve?, lookup?_eq_some_iff, Text.exists_trims_iff]

theorem spells_toDigits (n : Nat) : Decimal.Spells (Nat.toDigits 10 n) n :=
  Decimal.ofDigits?_eq_some_iff.mp (Decimal.ofDigits?_toDigits n)

/-- The name of a bounded text has no blanks in it. -/
theorem trim_char_append (n : Nat) :
    Text.trim ("char" ++ Decimal.ofNat n) = "char" ++ Decimal.ofNat n := by
  apply Text.trim_eq_self
  intro c hc
  rw [String.toList_append, Decimal.toList_ofNat, List.mem_append] at hc
  rcases hc with hchar | hdigit
  · have hall : "char".toList.all (fun d => !Text.isBlank d) = true := by decide
    simpa using List.all_eq_true.mp hall c hchar
  · exact Decimal.isBlank_of_isDigit (Decimal.isDigit_of_mem_toDigits hdigit)

/-- **The name of a type resolves to that type**, whatever name it was found by. -/
theorem resolve?_name {s : String} {p : Primitive} (h : resolve? s = some p) :
    resolve? p.name = some p := by
  obtain ⟨core, -, hname⟩ := resolve?_eq_some_iff.mp h
  cases hname with
  | registered hmem =>
    rw [resolve?, trim_name_of_mem_registry hmem, lookup?_eq_some_iff]
    exact .registered hmem
  | bounded hdigits hpos hmax hp =>
    rw [resolve?, hp.name, trim_char_append, lookup?_eq_some_iff, String.toList_append,
      Decimal.toList_ofNat]
    exact .bounded (spells_toDigits _) hpos hmax hp

end Primitive

namespace FlatSchema

/-! ### Sizes -/

/-- **A mapping that declares the type `char` and a size**: the size is a numeral that a word holds,
and blanks count in neither. -/
structure DeclaresSized (pairs : List (String × String)) (n : Nat) : Prop where
  /-- The type is `char`. -/
  type : ∃ typeName, pairs.lookup "type" = some typeName ∧
    Text.Trims typeName.toList "char".toList
  /-- The size is a number. -/
  size : ∃ size core, pairs.lookup "size" = some size ∧ Text.Trims size.toList core ∧
    Decimal.Numeral false core n ∧ n ≤ Decimal.maxWord

/-- What a mapping with the type `char` and a size declares. -/
theorem readDeclaration_sized {pairs : List (String × String)} {n : Nat}
    (h : DeclaresSized pairs n) (element : String) :
    readDeclaration element (.mapping pairs) = .ok ⟨"char" ++ Decimal.ofNat n,
      pairs.lookup "comment", pairs.lookup "primary_key" == some "true"⟩ := by
  obtain ⟨typeName, htype, hchar⟩ := h.type
  obtain ⟨size, core, hsize, htrims, hnumeral, hmax⟩ := h.size
  have hname : Text.trim typeName = "char" := by
    rw [← String.toList_inj, Text.toList_trim, Text.trimChars_eq_iff.mpr hchar]
  have heffective : effectiveType typeName (some n) = "char" ++ Decimal.ofNat n := by
    rw [effectiveType, hname]
    rfl
  have hread : readSize element (some size) = .ok (some n) := by
    have hnatural : Decimal.naturalUpTo? Decimal.maxWord (Text.trim size) = some n := by
      rw [Decimal.naturalUpTo?_eq_some_iff, Text.toList_trim, Text.trimChars_eq_iff.mpr htrims]
      exact ⟨hnumeral, hmax⟩
    rw [readSize, hnatural]
  rw [readDeclaration]
  simp only [EntryValue.get?, htype, hsize, hread, heffective]

/-- **A size is part of the name.** A field of the type `char` with a size is the field of the type
`char` followed by that size, or is refused as that one is; it may have a comment besides. -/
theorem readField_sized {pairs : List (String × String)} {n : Nat} (h : DeclaresSized pairs n)
    (unit key : String) :
    (readField unit ⟨key, .mapping pairs⟩).map (fun r => { r.1 with comment := none }) =
      (readField unit ⟨key, .scalar ("char" ++ Decimal.ofNat n)⟩).map
        (fun r => { r.1 with comment := none }) := by
  have hsized := readDeclaration_sized h (unit ++ "." ++ key)
  have hbare : readDeclaration (unit ++ "." ++ key) (.scalar ("char" ++ Decimal.ofNat n)) =
      .ok ⟨"char" ++ Decimal.ofNat n, none, false⟩ := by
    rw [readDeclaration, effectiveType, Primitive.trim_char_append]
  simp only [readField, hsized, hbare]
  cases Primitive.resolve? ("char" ++ Decimal.ofNat n) with
  | none => rfl
  | some type => rfl

/-! ### One grammar -/

open Primitive in
/-- **Type names have one grammar.** A name resolves exactly if, without the blanks around it, it is
registered or is `char` followed by the digits of a capacity from one to the greatest word, and it
resolves to the type that the grammar tells. The name that a type carries resolves to the type
itself, and a field of the type `char` with a size has the type of the name with that size behind
`char`, or is refused as that name is. -/
theorem typeName_resolves :
    (∀ (s : String) (p : Primitive),
      resolve? s = some p ↔ ∃ core, Text.Trims s.toList core ∧ TypeName core p) ∧
    (∀ (s : String) (p : Primitive), resolve? s = some p → resolve? p.name = some p) ∧
    ∀ (unit key : String) (pairs : List (String × String)) (n : Nat), DeclaresSized pairs n →
      (readField unit ⟨key, .mapping pairs⟩).map (fun r => { r.1 with comment := none }) =
        (readField unit ⟨key, .scalar ("char" ++ Decimal.ofNat n)⟩).map
          (fun r => { r.1 with comment := none }) :=
  ⟨fun _ _ => resolve?_eq_some_iff, fun _ _ => resolve?_name,
    fun unit key _ _ h => readField_sized h unit key⟩

/-- What a schema says about a tag: its type and its size have blanks around them, and the size has
a sign and a zero before it. -/
def tagPairs : List (String × String) :=
  [("type", " char"), ("size", "+016 "), ("comment", "display tag")]

/-- The tag is a text of sixteen bytes, and so is what is written with the size in its name. -/
theorem typeName_resolves_tag :
    DeclaresSized tagPairs 16 ∧
      Primitive.resolve? " char016 " = some (.bounded 16) ∧
      Primitive.resolve? (Primitive.bounded 16).name = some (.bounded 16) ∧
      (readField "Player" ⟨"tag", .mapping tagPairs⟩).map (fun r => { r.1 with comment := none }) =
        .ok ⟨"tag", .bounded 16, some 16, none⟩ := by
  have hcapacity : Decimal.Spells "016".toList 16 :=
    Decimal.ofDigits?_eq_some_iff.mp (by decide)
  have htag : DeclaresSized tagPairs 16 :=
    ⟨⟨" char", rfl, Text.trimChars_eq_iff.mp (by decide)⟩,
      ⟨"+016 ", "+016".toList, rfl, Text.trimChars_eq_iff.mp (by decide), .plus hcapacity,
        by decide⟩⟩
  obtain ⟨hgrammar, hname, hsized⟩ := typeName_resolves
  have hresolve : Primitive.resolve? " char016 " = some (.bounded 16) :=
    (hgrammar _ _).mpr ⟨"char016".toList, Text.trimChars_eq_iff.mp (by decide),
      .bounded hcapacity (by decide) (by decide) (Primitive.isBoundedText_iff.mpr rfl)⟩
  exact ⟨htag, hresolve, hname _ _ hresolve, (hsized _ _ _ _ htag).trans (by decide)⟩

end FlatSchema

end SchemaCompiler
