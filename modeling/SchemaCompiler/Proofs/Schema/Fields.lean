import Mathlib.Data.List.Nodup
import SchemaCompiler.Proofs.Schema.After

/-!
# What every flat schema has

A flat unit with faults has a schema too, so what holds of every schema cannot rest on clean
diagnostics. It follows entry by entry from what an entry makes of a schema, faults or not
(`SchemaCompiler.FlatSchema.sound_build`).

The names in keys and indexes are settled at the end. Where no name is undeclared, a key or index
stands for as many fields as it has names (`SchemaCompiler.FlatSchema.map_name_fieldsNamed`).
-/

namespace SchemaCompiler.FlatSchema

/-! ### All entries -/

/-- The type of a field is what a type name resolves to. -/
theorem exists_resolve?_of_readField {unit : String} {entry : Entry} {f : Field} {isKey : Bool}
    (h : readField unit entry = .ok (f, isKey)) :
    ∃ typeName, Primitive.resolve? typeName = some f.type := by
  rw [readField] at h
  split at h
  · cases h
  · split at h
    · cases h
    · rename_i hresolve
      cases h
      exact ⟨_, hresolve⟩

/-- **What every flat schema has**, whatever was wrong with its unit. -/
structure Sound (m : FlatSchema) : Prop where
  /-- No two fields have the same name. -/
  names : (m.fields.map Field.name).Nodup
  /-- Every field has a type that some name resolves to. -/
  types : ∀ f ∈ m.fields, ∃ typeName, Primitive.resolve? typeName = some f.type
  /-- Every index has a field. -/
  indexes : ∀ index ∈ m.indexes, index ≠ []

/-- **One entry keeps a schema sound.** -/
theorem Sound.after {m : FlatSchema} (h : Sound m) (entry : Entry) : Sound (m.after entry) := by
  have hindexes : ∀ index ∈ (m.after entry).indexes, index ≠ [] := by
    rw [indexes_after]
    exact List.forall_mem_append.mpr ⟨h.indexes, fun _ hin => (ne_nil_of_mem_indexesOf hin).1⟩
  rcases fields_after m entry with hfields | ⟨f, isKey, hread, hnew, hfields⟩
  · exact ⟨hfields ▸ h.names, hfields ▸ h.types, hindexes⟩
  · refine ⟨?_, ?_, hindexes⟩
    · rw [hfields, List.map_append, List.map_singleton]
      refine h.names.append (List.nodup_singleton _) fun name hname hlast => ?_
      obtain ⟨g, hg, rfl⟩ := List.mem_map.mp hname
      exact hnew g hg (List.mem_singleton.mp hlast)
    · rw [hfields]
      exact List.forall_mem_append.mpr
        ⟨h.types, List.forall_mem_singleton.mpr (exists_resolve?_of_readField hread)⟩

/-- **The schema of a flat unit is sound.** -/
theorem sound_build (unit : FlatUnit) : Sound (build unit).schema := by
  have hrun : ∀ (entries : List Entry) (m : FlatSchema), Sound m →
      Sound (entries.foldl FlatSchema.after m) := by
    intro entries
    induction entries with
    | nil => exact fun _ h => h
    | cons entry entries ih => exact fun m h => ih (m.after entry) (h.after entry)
  rw [schema_build]
  refine hrun unit.entries _ ⟨List.nodup_nil, ?_, ?_⟩
  · exact fun f hf => absurd hf List.not_mem_nil
  · exact fun index hindex => absurd hindex List.not_mem_nil

/-! ### References -/

theorem of_field?_eq_some {m : FlatSchema} {name : String} {f : Field}
    (h : m.field? name = some f) : f ∈ m.fields ∧ f.name = name := by
  rw [field?] at h
  have hname := List.find?_some h
  exact ⟨List.mem_of_find?_eq_some h, beq_iff_eq.mp hname⟩

theorem mem_fields_of_mem_fieldsNamed {m : FlatSchema} {names : List String} {f : Field}
    (h : f ∈ m.fieldsNamed names) : f ∈ m.fields := by
  obtain ⟨name, -, hfound⟩ := List.mem_filterMap.mp h
  exact (of_field?_eq_some hfound).1

/-- Names that are all declared stand for a field each, of that name. -/
theorem map_name_fieldsNamed {m : FlatSchema} {names : List String}
    (h : ∀ name ∈ names, (m.field? name).isSome = true) :
    (m.fieldsNamed names).map Field.name = names := by
  induction names with
  | nil => rfl
  | cons name names ih =>
    obtain ⟨f, hf⟩ := Option.isSome_iff_exists.mp (h name List.mem_cons_self)
    have hrest := ih fun other hother => h other (List.mem_cons_of_mem _ hother)
    rw [fieldsNamed] at hrest ⊢
    rw [List.filterMap_cons_some hf, List.map_cons, hrest, (of_field?_eq_some hf).2]

/-- Where no name is undeclared, every name of an index is a field. -/
theorem isSome_field?_of_mem_indexes {m : FlatSchema} (h : m.undeclared? = none)
    {index : List String} (hindex : index ∈ m.indexes) {name : String} (hname : name ∈ index) :
    (m.field? name).isSome = true := by
  have hfound := List.find?_eq_none.mp (Option.map_eq_none_iff.mp h) ("$index", name)
  have hmem : ("$index", name) ∈ m.references := by
    refine List.mem_append_right _ (List.mem_flatMap.mpr ⟨index, hindex, ?_⟩)
    exact List.mem_map.mpr ⟨name, hname, rfl⟩
  cases hfield : m.field? name with
  | none =>
    refine absurd ?_ (hfound hmem)
    rw [hfield]
    rfl
  | some f => rfl

end SchemaCompiler.FlatSchema
