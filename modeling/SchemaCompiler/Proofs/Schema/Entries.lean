import Mathlib.Data.List.Forall2
import SchemaCompiler.Proofs.Diagnostic
import SchemaCompiler.Proofs.Schema.Fields

/-!
# Flat units that lose nothing

A flat schema is built entry by entry, and an entry that is no good is recorded and dropped. Here it
is shown that a unit whose diagnostics are clean has lost nothing (`covers_build`). The invariant of
the loop over the entries is that everything the entries so far declare is in the schema
(`SchemaCompiler.FlatSchema.Covers`): `kept_of_clean` says that an entry is dropped only with an
error, and `Covers.after` that one that is kept keeps the invariant.
-/

namespace SchemaCompiler

open Diagnostics

namespace FlatSchema

/-- A field as an entry of a unit declares it. -/
def FieldOf (unit : String) (f : Field) (entry : Entry) : Prop :=
  f.name = entry.key ∧ ∃ isKey, readField unit entry = .ok (f, isKey)

/-- An index as an entry declares it: the names of the entry, each once and in order. -/
structure IndexOf (index : List String) (entry : Entry) : Prop where
  /-- An index has a field. -/
  ne_nil : index ≠ []
  /-- No name is there twice. -/
  nodup : index.Nodup
  /-- The names are in the order of the entry. -/
  sublist : index.Sublist entry.value.names
  /-- No name of the entry is missing. -/
  mem : ∀ name ∈ entry.value.names, name ∈ index

/-- **An entry that is not dropped**: an index lists a name, and what is no directive is read as a
field with a new name. -/
structure Kept (m : FlatSchema) (entry : Entry) : Prop where
  /-- An index lists a name. -/
  index : entry.key = "$index" → entry.value.names ≠ []
  /-- What is no directive is a field, and its name is not taken. -/
  field : Build.isDirective entry = false → ∃ f isKey, readField m.name entry = .ok (f, isKey) ∧
    m.fields.any (fun g => g.name == f.name) = false

/-! ### Fields as they are read -/

/-- Whether an entry declares its field a key. -/
def declaresKey (entry : Entry) : Bool :=
  entry.value.get? "primary_key" == some "true"

/-- What a field has from its entry: its name, the size that its type has, and whether it is a
key. -/
theorem eq_of_readField {unit : String} {entry : Entry} {f : Field} {isKey : Bool}
    (h : readField unit entry = .ok (f, isKey)) :
    f.name = entry.key ∧ f.size = f.type.capacity? ∧ isKey = declaresKey entry := by
  rw [readField] at h
  cases hread : readDeclaration (unit ++ "." ++ entry.key) entry.value with
  | error fault =>
    rw [hread] at h
    cases h
  | ok d =>
    have hkey : d.isKey = declaresKey entry := by
      rw [declaresKey]
      cases hvalue : entry.value with
      | scalar _ =>
        rw [hvalue] at hread
        cases hread
        rfl
      | list _ =>
        rw [hvalue] at hread
        cases hread
      | malformed _ =>
        rw [hvalue] at hread
        cases hread
      | mapping pairs =>
        rw [hvalue, readDeclaration] at hread
        split at hread
        · cases hread
        · split at hread
          · cases hread
          · cases hread
            rfl
    rw [hread] at h
    dsimp only at h
    split at h
    · cases h
    · cases h
      exact ⟨rfl, rfl, hkey⟩

namespace Build

/-- An error in a report rules out that the diagnostics are clean. -/
theorem not_clean_report {b : Build} {fault : SchemaFault} (h : fault.code.severity = .error) :
    ¬Clean (b.report fault).diagnostics := by
  intro hclean
  refine not_clean_cons ?_ (clean_append.mp hclean).2
  rw [Diagnostic.isError, Diagnostic.severity]
  exact beq_iff_eq.mpr h

theorem severity_of_readDeclaration_error {element : String} {value : EntryValue}
    {fault : SchemaFault} (h : readDeclaration element value = .error fault) :
    fault.code.severity = .error := by
  cases value with
  | scalar _ => cases h
  | list _ =>
    cases h
    rfl
  | malformed _ =>
    cases h
    rfl
  | mapping pairs =>
    rw [readDeclaration] at h
    split at h
    · cases h
      rfl
    · split at h
      · rename_i hsize
        cases h
        rw [readSize.eq_def] at hsize
        split at hsize
        · cases hsize
        · split at hsize
          · cases hsize
          · cases hsize
            rfl
      · cases h

/-- An entry that is refused as a field is refused with an error. -/
theorem severity_of_readField_error {unit : String} {entry : Entry} {fault : SchemaFault}
    (h : readField unit entry = .error fault) : fault.code.severity = .error := by
  rw [readField] at h
  cases hd : readDeclaration (unit ++ "." ++ entry.key) entry.value with
  | error cause =>
    rw [hd] at h
    cases h
    exact severity_of_readDeclaration_error hd
  | ok d =>
    rw [hd] at h
    dsimp only at h
    cases hr : Primitive.resolve? d.typeName with
    | none =>
      rw [hr] at h
      cases h
      rfl
    | some type =>
      rw [hr] at h
      cases h

/-- **An index is dropped only with an error.** -/
theorem names_ne_nil_of_clean {b : Build} {entry : Entry} (hname : entry.key = "$index")
    (hclean : Clean (b.applyDirective entry).diagnostics) : entry.value.names ≠ [] := by
  have hmalformed : ¬Clean (applyDirective.malformed b entry).diagnostics := not_clean_report rfl
  rw [applyDirective, if_neg (by rw [hname]; decide), if_neg (by rw [hname]; decide),
    if_pos (beq_iff_eq.mpr hname)] at hclean
  cases hvalue : entry.value with
  | scalar name => exact List.cons_ne_nil _ _
  | list names =>
    rintro rfl
    rw [hvalue] at hclean
    exact not_clean_report rfl hclean
  | mapping _ =>
    rw [hvalue] at hclean
    exact absurd hclean hmalformed
  | malformed _ =>
    rw [hvalue] at hclean
    exact absurd hclean hmalformed

/-- **An entry is dropped only with an error.** -/
theorem kept_of_clean {b : Build} {entry : Entry} (hclean : Clean (b.step entry).diagnostics) :
    Kept b.schema entry := by
  rw [step] at hclean
  constructor
  · intro hindex
    rw [if_pos (isDirective_of_key hindex rfl)] at hclean
    exact names_ne_nil_of_clean hindex hclean
  · intro hdirective
    rw [hdirective, if_neg Bool.false_ne_true] at hclean
    cases hread : readField b.schema.name entry with
    | error fault =>
      rw [hread] at hclean
      exact absurd hclean (not_clean_report (severity_of_readField_error hread))
    | ok read =>
      rw [hread] at hclean
      refine ⟨read.1, read.2, rfl, Bool.eq_false_iff.mpr fun htaken => ?_⟩
      dsimp only at hclean
      rw [addField, if_pos htaken] at hclean
      exact not_clean_report rfl hclean

/-! ### Diagnostics stay -/

theorem diagnostics_foldl {α : Type} {f : Build → α → Build}
    (h : ∀ b x, b.diagnostics <+: (f b x).diagnostics) (b : Build) (xs : List α) :
    b.diagnostics <+: (xs.foldl f b).diagnostics := by
  induction xs generalizing b with
  | nil => exact List.prefix_refl _
  | cons x xs ih => exact (h b x).trans (ih (f b x))

theorem diagnostics_report (b : Build) (fault : SchemaFault) :
    b.diagnostics <+: (b.report fault).diagnostics :=
  List.prefix_append _ _

theorem diagnostics_addKey (b : Build) (name : String) :
    b.diagnostics <+: (b.addKey name).diagnostics := by
  rw [addKey]
  split_ifs
  · exact diagnostics_report b _
  · exact List.prefix_refl _

theorem diagnostics_addIndex (b : Build) (names : List String) :
    b.diagnostics <+: (b.addIndex names).diagnostics := by
  have hreported := diagnostics_foldl
    (fun b name => diagnostics_report b (.duplicateKeyField (b.schema.listName "$index") name))
    b (distinct [] names).2
  rw [addIndex]
  dsimp only
  split_ifs
  · exact hreported.trans (diagnostics_report _ _)
  · exact hreported

/-- **No entry takes a diagnostic back.** -/
theorem diagnostics_step (b : Build) (entry : Entry) :
    b.diagnostics <+: (b.step entry).diagnostics := by
  rw [step]
  split_ifs
  · rw [applyDirective]
    split_ifs
    · split
      · exact List.prefix_refl _
      · exact diagnostics_report _ _
    · split
      · exact diagnostics_addKey b _
      · exact diagnostics_foldl diagnostics_addKey b _
      · exact diagnostics_report _ _
    · split
      · exact diagnostics_addIndex b _
      · exact diagnostics_addIndex b _
      · exact diagnostics_report _ _
    · exact diagnostics_report _ _
  · split
    · exact diagnostics_report _ _
    · rw [addField]
      split_ifs
      · exact diagnostics_report _ _
      · exact diagnostics_addKey b _
      · exact List.prefix_refl _

end Build

/-! ### All entries -/

/-- **A schema that lost nothing of the entries of a unit**: every entry that is no directive is a
field, every index directive an index, and every name of a key is a key. -/
structure Covers (unit : String) (entries : List Entry) (m : FlatSchema) : Prop where
  /-- The schema has the name of the unit. -/
  name : m.name = unit
  /-- The fields are the entries that are no directives, in order. -/
  fields : List.Forall₂ (FieldOf unit) m.fields (entries.filter (fun e => !Build.isDirective e))
  /-- The indexes are the index directives, in order. -/
  indexes : List.Forall₂ IndexOf m.indexes (entries.filter (fun e => e.key == "$index"))
  /-- The names in key directives are keys. -/
  keys : ∀ entry ∈ entries, entry.key = "$key" → ∀ name ∈ entry.value.names, name ∈ m.keys
  /-- The fields that declare themselves keys are keys. -/
  keyFields : ∀ entry ∈ entries, Build.isDirective entry = false →
    entry.value.get? "primary_key" = some "true" → entry.key ∈ m.keys

section Concat

variable {done : List Entry} {entry : Entry} {p : Entry → Bool}

theorem filter_concat_of_pos (h : p entry = true) :
    (done ++ [entry]).filter p = done.filter p ++ [entry] := by
  rw [List.filter_append, List.filter_cons_of_pos h, List.filter_nil]

theorem filter_concat_of_neg (h : p entry = false) :
    (done ++ [entry]).filter p = done.filter p := by
  rw [List.filter_append, List.filter_cons_of_neg (Bool.eq_false_iff.mp h), List.filter_nil,
    List.append_nil]

theorem forall_mem_concat {P : Entry → Prop} (hdone : ∀ e ∈ done, P e) (hentry : P entry) :
    ∀ e ∈ done ++ [entry], P e :=
  List.forall_mem_append.mpr ⟨hdone, List.forall_mem_singleton.mpr hentry⟩

end Concat

theorem indexOf_eraseDups {entry : Entry} (h : entry.value.names ≠ []) :
    IndexOf entry.value.names.eraseDups entry where
  ne_nil := by
    obtain ⟨name, hname⟩ := List.exists_mem_of_ne_nil _ h
    exact List.ne_nil_of_mem (List.mem_eraseDups.mpr hname)
  nodup := nodup_eraseDups _
  sublist := eraseDups_sublist _
  mem _ hname := List.mem_eraseDups.mpr hname

/-- **One entry that is kept keeps the schema complete.** -/
theorem Covers.after {unit : String} {done : List Entry} {entry : Entry} {m : FlatSchema}
    (h : Covers unit done m) (hkept : Kept m entry) :
    Covers unit (done ++ [entry]) (m.after entry) where
  name := (name_after m entry).trans h.name
  fields := by
    rw [FlatSchema.after]
    cases hdirective : Build.isDirective entry with
    | true =>
      rw [if_pos rfl, fields_withDirective, filter_concat_of_neg (by simp [hdirective])]
      exact h.fields
    | false =>
      obtain ⟨f, isKey, hread, hnew⟩ := hkept.field hdirective
      have hfield : FieldOf unit f entry := ⟨(eq_of_readField hread).1, isKey, h.name ▸ hread⟩
      rw [if_neg Bool.false_ne_true, hread, filter_concat_of_pos (by simp [hdirective])]
      dsimp only
      rw [fields_withField, hnew, if_neg Bool.false_ne_true]
      exact List.rel_append h.fields (.cons hfield .nil)
  indexes := by
    rw [indexes_after]
    by_cases hindex : entry.key = "$index"
    · have hnames := hkept.index hindex
      have hdeclared : indexesOf entry = [entry.value.names.eraseDups] := by
        simp [indexesOf, hindex, hnames]
      rw [hdeclared, filter_concat_of_pos (by simpa using hindex)]
      exact List.rel_append h.indexes (.cons (indexOf_eraseDups hnames) .nil)
    · rw [indexesOf_of_key_ne hindex, List.append_nil, filter_concat_of_neg (by simpa using hindex)]
      exact h.indexes
  keys := forall_mem_concat
    (fun e he hkey name hin => keys_subset_after m entry (h.keys e he hkey name hin))
    fun hkey _ => mem_keys_after_of_key hkey
  keyFields := by
    refine forall_mem_concat (fun e he hfield hprimary =>
      keys_subset_after m entry (h.keyFields e he hfield hprimary)) fun hdirective hprimary => ?_
    obtain ⟨f, isKey, hread, hnew⟩ := hkept.field hdirective
    obtain ⟨hname, -, hdeclares⟩ := eq_of_readField hread
    have hkey : isKey = true := hdeclares.trans (beq_iff_eq.mpr hprimary)
    rw [FlatSchema.after, hdirective, if_neg Bool.false_ne_true, hread, hkey]
    dsimp only
    rw [withField, hnew, if_neg Bool.false_ne_true, if_pos rfl, ← hname]
    exact mem_keys_withKey.mpr (Or.inr rfl)

/-- Any number of entries keeps the schema complete, if the diagnostics are clean at the end. -/
theorem covers_foldl_step {unit : String} {done rest : List Entry} {b : Build}
    (h : Covers unit done b.schema) (hclean : Clean (rest.foldl Build.step b).diagnostics) :
    Covers unit (done ++ rest) (rest.foldl Build.step b).schema := by
  induction rest generalizing done b with
  | nil => rwa [List.append_nil]
  | cons entry rest ih =>
    -- diagnostics are only added, so they are clean after this entry already
    have hnow : Clean (b.step entry).diagnostics :=
      hclean.of_prefix (Build.diagnostics_foldl Build.diagnostics_step (b.step entry) rest)
    have hafter := h.after (Build.kept_of_clean hnow)
    rw [← Build.schema_step] at hafter
    rw [List.append_cons]
    exact ih hafter hclean

/-- **A flat unit that is built cleanly loses nothing.** -/
theorem covers_build {unit : FlatUnit} (hclean : Clean (build unit).diagnostics) :
    Covers unit.name unit.entries (build unit).schema := by
  have hstart : Covers unit.name [] { name := unit.name } :=
    ⟨rfl, .nil, .nil, fun e he => absurd he List.not_mem_nil,
      fun e he => absurd he List.not_mem_nil⟩
  exact covers_foldl_step hstart hclean

end FlatSchema

end SchemaCompiler
