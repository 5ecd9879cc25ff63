import SchemaCompiler.Proofs.Artifact.FlatNames

/-!
# What compiling a flat unit gives

A flat unit has three outcomes, and each has an exact condition. Compiling is aborted if a key or an
index names a field that is not declared, and then the first such name is told
(`SchemaCompiler.FlatSchema.FirstUndeclared`); otherwise the unit is rejected if the policy is
strict and an error was reported; otherwise it is accepted, with the same schema under both policies
(`SchemaCompiler.SchemaUnit.flatOutcomes`).

Behind an accepted unit stand look-ups that leave out names without a field. They leave out nothing:
every name of a key and of an index has its place in each artifact that lists them
(`SchemaCompiler.Artifact.ReferencesKept`).
-/

namespace SchemaCompiler

namespace FlatSchema

/-! ### Names that are declared -/

/-- The name is that of a field. -/
def Declared (m : FlatSchema) (name : String) : Prop :=
  ∃ f ∈ m.fields, f.name = name

/-- The name is one of a key or of an index. -/
def Referenced (m : FlatSchema) (name : String) : Prop :=
  name ∈ m.keys ∨ ∃ index ∈ m.indexes, name ∈ index

/-- The names of the key and then those of the indexes, in order. -/
def referencedNames (m : FlatSchema) : List String :=
  m.keys ++ m.indexes.flatten

/-- **The first name that is not declared**: those before it all are. -/
def FirstUndeclared (m : FlatSchema) (name : String) : Prop :=
  ∃ before after, m.referencedNames = before ++ name :: after ∧
    (∀ earlier ∈ before, m.Declared earlier) ∧ ¬m.Declared name

/-- The directive of the list that a name is first in. -/
def directiveOf (m : FlatSchema) (name : String) : String :=
  if name ∈ m.keys then "$key" else "$index"

theorem isSome_field?_iff {m : FlatSchema} {name : String} :
    (m.field? name).isSome = true ↔ m.Declared name := by
  rw [field?, List.find?_isSome]
  constructor
  · rintro ⟨f, hf, hname⟩
    exact ⟨f, hf, beq_iff_eq.mp hname⟩
  · rintro ⟨f, hf, rfl⟩
    exact ⟨f, hf, beq_self_eq_true _⟩

theorem isNone_field?_iff {m : FlatSchema} {name : String} :
    (m.field? name).isNone = true ↔ ¬m.Declared name := by
  rw [← isSome_field?_iff, Option.isNone_iff_eq_none, Option.isSome_iff_ne_none, not_not]

theorem mem_referencedNames {m : FlatSchema} {name : String} :
    name ∈ m.referencedNames ↔ m.Referenced name := by
  rw [referencedNames, List.mem_append, List.mem_flatten, Referenced]

theorem map_snd_references (m : FlatSchema) : m.references.map Prod.snd = m.referencedNames := by
  simp only [references, referencedNames, List.map_append, List.map_map, List.map_flatMap,
    Function.comp_def, List.map_id', List.flatMap_id']

theorem firstUndeclared_iff {m : FlatSchema} {name : String} :
    m.FirstUndeclared name ↔
      m.referencedNames.find? (fun other => (m.field? other).isNone) = some name := by
  rw [List.find?_eq_some_iff_append]
  constructor
  · rintro ⟨before, after, hsplit, hbefore, hundeclared⟩
    refine ⟨isNone_field?_iff.mpr hundeclared, before, after, hsplit, fun earlier hearlier => ?_⟩
    rw [Bool.not_eq_true', Bool.eq_false_iff]
    exact fun hnone => isNone_field?_iff.mp hnone (hbefore earlier hearlier)
  · rintro ⟨hnone, before, after, hsplit, hbefore⟩
    refine ⟨before, after, hsplit, fun earlier hearlier => ?_, isNone_field?_iff.mp hnone⟩
    by_contra hundeclared
    have hfound := hbefore earlier hearlier
    rw [isNone_field?_iff.mpr hundeclared] at hfound
    cases hfound

theorem exists_firstUndeclared_iff {m : FlatSchema} :
    (∃ name, m.FirstUndeclared name) ↔ ∃ name, m.Referenced name ∧ ¬m.Declared name := by
  simp only [firstUndeclared_iff, ← Option.isSome_iff_exists, List.find?_isSome,
    mem_referencedNames, isNone_field?_iff]

/-- A reference without a field that is found first stands in the list of its directive. -/
theorem directive_of_find? {m : FlatSchema} {directive name : String}
    (h : m.references.find? (fun r => (m.field? r.2).isNone) = some (directive, name)) :
    directive = m.directiveOf name := by
  rw [references, List.find?_append, Option.or_eq_some_iff] at h
  rw [directiveOf]
  rcases h with hkey | ⟨hkeys, hindex⟩
  · obtain ⟨key, hin, heq⟩ := List.mem_map.mp (List.mem_of_find?_eq_some hkey)
    cases heq
    rw [if_pos hin]
  · -- A name of the key would have been found before those of the indexes.
    have hnotKey : name ∉ m.keys := by
      intro hin
      have hnone : (m.field? name).isNone = true := by simpa using List.find?_some hindex
      exact List.find?_eq_none.mp hkeys ("$key", name) (List.mem_map.mpr ⟨name, hin, rfl⟩) hnone
    obtain ⟨index, -, hname⟩ := List.mem_flatMap.mp (List.mem_of_find?_eq_some hindex)
    obtain ⟨other, -, heq⟩ := List.mem_map.mp hname
    cases heq
    rw [if_neg hnotKey]

/-- **The fault that is found** is that of the first name that is not declared. -/
theorem undeclared?_eq_some_iff {m : FlatSchema} {fault : SchemaFault} :
    m.undeclared? = some fault ↔ ∃ name, m.FirstUndeclared name ∧
      fault = .undeclaredField (m.listName (m.directiveOf name)) name := by
  -- the first reference without a field has the first name without one
  have hfind : ∀ name, m.FirstUndeclared name ↔
      ∃ r, m.references.find? (fun r => (m.field? r.2).isNone) = some r ∧ r.2 = name := by
    intro name
    rw [firstUndeclared_iff, ← map_snd_references, List.find?_map, Option.map_eq_some_iff]
    rfl
  rw [undeclared?, Option.map_eq_some_iff]
  constructor
  · rintro ⟨⟨directive, name⟩, hfound, rfl⟩
    exact ⟨name, (hfind name).mpr ⟨_, hfound, rfl⟩, by rw [directive_of_find? hfound]⟩
  · rintro ⟨name, hfirst, rfl⟩
    obtain ⟨⟨directive, _⟩, hfound, rfl⟩ := (hfind name).mp hfirst
    exact ⟨_, hfound, by rw [directive_of_find? hfound]⟩

/-- **No fault is found exactly when all names are declared.** -/
theorem undeclared?_eq_none_iff {m : FlatSchema} :
    m.undeclared? = none ↔ ∀ name, m.Referenced name → m.Declared name := by
  rw [undeclared?, Option.map_eq_none_iff, List.find?_eq_none]
  simp only [isNone_field?_iff, not_not, ← mem_referencedNames, ← map_snd_references, List.mem_map]
  constructor
  · rintro h name ⟨r, hr, rfl⟩
    exact h r hr
  · exact fun h r hr => h r.2 ⟨r, hr, rfl⟩

end FlatSchema

namespace Artifact

open Item

/-! ### Names in artifacts -/

/-- The text is what a key has for the field of a name. -/
def IsKeyColumn (m : FlatSchema) (name part : String) : Prop :=
  ∃ f ∈ m.fields, f.name = name ∧ part = keyColumn f

/-- **No name of a key or of an index is left out**, neither by the look-ups nor in the artifacts
that list them. -/
structure ReferencesKept (m : FlatSchema) (profile : Profile) : Prop where
  /-- The key has a field for each name. -/
  keyFields : m.keyFields.map Field.name = m.keys
  /-- Every index has a field for each name. -/
  indexFields : (indexFields m).map (fun fields => fields.map Field.name) = m.indexes
  /-- No index is without a field. -/
  nonempty : ∀ fields ∈ Artifact.indexFields m, fields ≠ []
  /-- The descriptor lists the columns of the key and of the indexes. -/
  descriptor : DescriptorForm m profile
  /-- The table lists the columns of the key and of the indexes. -/
  table : TableForm m profile
  /-- The columns of the key in the descriptor. -/
  keyColumns : (descriptorItems m profile).find? (·.startsWith "const KEYS") = some (.line
    ("const KEYS: &'static [&'static str] = &[" ++
      ", ".intercalate (m.keys.map (fun name => Text.quote (Text.toUppercase name))) ++ "];"))
  /-- The columns of the indexes in the descriptor. -/
  indexColumns : (descriptorItems m profile).find? (·.startsWith "const INDEXES") = some (.line
    ("const INDEXES: &'static [&'static [&'static str]] = &[" ++
      ", ".intercalate (m.indexes.map (fun index => "&[" ++ ", ".intercalate
        (index.map (fun name => Text.quote (Text.toUppercase name))) ++ "]")) ++ "];"))
  /-- The statements that push the assignments of the key. -/
  keyAssigns : List.Forall₂ (fun name item => ∃ f ∈ m.fields, f.name = name ∧
    item = .line (assignStatement f)) m.keys
    (statements "keys_to_query" "push_key_separator" (descriptorItems m profile))
  /-- The primary key of the table, which is left out if there is no key. -/
  primaryKey : ∃ parts, List.Forall₂ (IsKeyColumn m) m.keys parts ∧
    (tableDefinitions m).filter (Text.startsWith · "  PRIMARY KEY (") =
      if m.keys = [] then [] else ["  PRIMARY KEY (" ++ ", ".intercalate parts ++ ")"]
  /-- The keys of the table, one for each index. -/
  tableKeys : List.Forall₂ (fun index definition => ∃ parts,
    List.Forall₂ (IsKeyColumn m) index parts ∧
    definition = "  KEY `" ++ keyName m index ++ "` (" ++ ", ".intercalate parts ++ ")") m.indexes
    ((tableDefinitions m).filter (Text.startsWith · "  KEY `"))

theorem forall₂_keyColumn {m : FlatSchema} {names : List String}
    (h : (m.fieldsNamed names).map Field.name = names) :
    List.Forall₂ (IsKeyColumn m) names ((m.fieldsNamed names).map keyColumn) := by
  conv => arg 2; rw [← h]
  rw [List.forall₂_map_left_iff, List.forall₂_map_right_iff, List.forall₂_same]
  intro f hf
  exact ⟨f, FlatSchema.mem_fields_of_mem_fieldsNamed hf, rfl, rfl⟩

/-- Columns of fields are columns of their names. -/
theorem map_quote_column {fields : List Field} {names : List String}
    (h : fields.map Field.name = names) :
    fields.map (fun f => Text.quote (Text.toUppercase f.name)) =
      names.map (fun name => Text.quote (Text.toUppercase name)) := by
  rw [← h, List.map_map]
  rfl

/-- **Where all names are declared, none is left out.** -/
theorem referencesKept_of_declared {m : FlatSchema} (hsound : m.Sound)
    (hdeclared : m.undeclared? = none) (profile : Profile) : ReferencesKept m profile := by
  obtain ⟨hindexes, hnames⟩ := indexFields_of_declared hsound hdeclared
  have hkeys : m.keyFields.map Field.name = m.keys := by
    refine FlatSchema.map_name_fieldsNamed fun name hname => ?_
    exact FlatSchema.isSome_field?_iff.mpr
      (FlatSchema.undeclared?_eq_none_iff.mp hdeclared name (Or.inl hname))
  have hdescriptor := descriptorForm m profile
  have htable := tableForm m profile
  refine
    { keyFields := hkeys
      indexFields := ?_
      nonempty := ?_
      descriptor := hdescriptor
      table := htable
      keyColumns := ?_
      indexColumns := ?_
      keyAssigns := ?_
      primaryKey := ⟨_, forall₂_keyColumn hkeys, ?_⟩
      tableKeys := ?_ }
  · rw [hindexes, List.map_map]
    exact (List.map_congr_left hnames).trans (List.map_id _)
  · intro fields hin hempty
    have hkept := (List.mem_filter.mp hin).2
    rw [hempty] at hkept
    cases hkept
  · rw [hdescriptor.keyNames, map_quote_column hkeys]
  · rw [hdescriptor.indexNames, hindexes, List.map_map]
    refine congrArg (fun lists => some (Item.line
      ("const INDEXES: &'static [&'static [&'static str]] = &[" ++ ", ".intercalate lists ++
        "];"))) (List.map_congr_left fun index hindex => ?_)
    rw [Function.comp_apply, map_quote_column (hnames index hindex)]
  · -- each statement belongs to the field that its name has found
    rw [hdescriptor.keyAssigns, ← hkeys, List.forall₂_map_left_iff, List.forall₂_map_right_iff,
      List.forall₂_same]
    intro f hf
    exact ⟨f, FlatSchema.mem_fields_of_mem_fieldsNamed hf, rfl, rfl⟩
  · have hempty : m.keyFields = [] ↔ m.keys = [] := by rw [← hkeys, List.map_eq_nil_iff]
    rw [htable.primaryKey]
    simp only [hempty]
    rfl
  · rw [(emittedNames_of_declared hsound hdeclared profile).keys, List.forall₂_map_right_iff,
      List.forall₂_same]
    exact fun index hindex => ⟨_, forall₂_keyColumn (hnames index hindex), rfl⟩

end Artifact

namespace SchemaUnit

open FlatSchema

/-! ### The three outcomes -/

theorem compile_eq_aborted_iff {unit : SchemaUnit} {policy : Policy} {name : String}
    {fault : SchemaFault} {ds : List Diagnostic} :
    unit.compile policy = .error (.aborted name fault ds) ↔
      undeclared? unit.build.schema = some fault ∧ name = unit.name ∧
        ds = unit.build.diagnostics ++ [Diagnostic.of unit.name fault] := by
  rw [compile]
  cases hfault : undeclared? unit.build.schema with
  | some other =>
    simp only [Except.error.injEq, CompileError.aborted.injEq, Option.some.injEq]
    constructor
    · rintro ⟨rfl, rfl, rfl⟩
      exact ⟨rfl, rfl, rfl⟩
    · rintro ⟨rfl, rfl, rfl⟩
      exact ⟨rfl, rfl, rfl⟩
  | none =>
    dsimp only
    split <;> simp

/-- The condition under which a policy refuses what was reported. -/
theorem refuses_iff {policy : Policy} {ds : List Diagnostic} :
    (policy == .strict && Diagnostics.hasErrors ds) = true ↔
      policy = .strict ∧ ∃ d ∈ ds, d.isError = true := by
  rw [Bool.and_eq_true, beq_iff_eq, Diagnostics.hasErrors, List.any_eq_true]

theorem compile_eq_rejected_iff {unit : SchemaUnit} {policy : Policy} {name : String}
    {ds : List Diagnostic} :
    unit.compile policy = .error (.rejected name ds) ↔
      undeclared? unit.build.schema = none ∧
        (policy = .strict ∧ ∃ d ∈ unit.build.diagnostics, d.isError = true) ∧
        name = unit.name ∧ ds = unit.build.diagnostics := by
  rw [compile, ← refuses_iff]
  cases undeclared? unit.build.schema with
  | some other => simp
  | none =>
    dsimp only
    split_ifs with hrefused
    · simp only [hrefused, true_and, Except.error.injEq, CompileError.rejected.injEq,
        @eq_comm _ unit.name, @eq_comm _ unit.build.diagnostics]
    · simp only [hrefused, false_and, and_false, reduceCtorEq]

theorem compile_eq_ok_iff {unit : SchemaUnit} {policy : Policy} {c : Compiled} :
    unit.compile policy = .ok c ↔
      undeclared? unit.build.schema = none ∧
        ¬(policy = .strict ∧ ∃ d ∈ unit.build.diagnostics, d.isError = true) ∧
        c = unit.build := by
  rw [compile, ← refuses_iff]
  cases undeclared? unit.build.schema with
  | some other => simp
  | none =>
    dsimp only
    split_ifs with hrefused
    · simp only [hrefused, not_true, false_and, and_false]
    · rw [Except.ok.injEq, eq_comm]
      exact ⟨fun hc => ⟨rfl, hrefused, hc⟩, fun h => h.2.2⟩

/-- **The outcomes of a flat unit** with a schema and with what was reported for it, each with its
condition. Neither the schema nor the report depends on the policy. -/
structure FlatOutcomes (unit : SchemaUnit) (m : FlatSchema) (reported : List Diagnostic)
    (policy : Policy) : Prop where
  /-- Compiling is aborted if a name of a key or of an index is not declared. -/
  abortedIff : (∃ name fault ds, unit.compile policy = .error (.aborted name fault ds)) ↔
    ∃ name, m.Referenced name ∧ ¬m.Declared name
  /-- It tells the first such name, behind all that was reported. -/
  aborted : ∀ name fault ds, unit.compile policy = .error (.aborted name fault ds) ↔
    (∃ field, m.FirstUndeclared field ∧
      fault = .undeclaredField (m.listName (m.directiveOf field)) field) ∧
    name = unit.name ∧ ds = reported ++ [Diagnostic.of unit.name fault]
  /-- Otherwise it is rejected if the policy is strict and an error was reported. -/
  rejected : ∀ name ds, unit.compile policy = .error (.rejected name ds) ↔
    (∀ field, m.Referenced field → m.Declared field) ∧
    (policy = .strict ∧ ∃ d ∈ reported, d.isError = true) ∧
    name = unit.name ∧ ds = reported
  /-- Otherwise it is accepted. -/
  accepted : ∀ c, unit.compile policy = .ok c ↔
    (∀ field, m.Referenced field → m.Declared field) ∧
    ¬(policy = .strict ∧ ∃ d ∈ reported, d.isError = true) ∧
    c = ⟨.flat m, reported⟩
  /-- What is accepted leaves out no name of a key or of an index. -/
  kept : ∀ c, unit.compile policy = .ok c → ∀ profile, Artifact.ReferencesKept m profile

/-- **Every flat unit has one of three outcomes**, under the condition that belongs to it. -/
theorem flatOutcomes (name checksum : String) (flat : FlatUnit) (policy : Policy) :
    FlatOutcomes ⟨name, .flat flat, checksum⟩ (FlatSchema.build flat).schema
      (FlatSchema.build flat).diagnostics policy := by
  refine
    { abortedIff := ?_
      aborted := fun _ fault _ => ?_
      rejected := fun _ _ => ?_
      accepted := fun _ => ?_
      kept := fun _ hcompile profile => ?_ }
  · rw [← exists_firstUndeclared_iff]
    constructor
    · rintro ⟨_, fault, _, haborted⟩
      obtain ⟨field, hfirst, -⟩ := undeclared?_eq_some_iff.mp (compile_eq_aborted_iff.mp haborted).1
      exact ⟨field, hfirst⟩
    · rintro ⟨field, hfirst⟩
      exact ⟨_, _, _, compile_eq_aborted_iff.mpr
        ⟨undeclared?_eq_some_iff.mpr ⟨field, hfirst, rfl⟩, rfl, rfl⟩⟩
  · rw [compile_eq_aborted_iff, ← undeclared?_eq_some_iff]
    rfl
  · rw [compile_eq_rejected_iff, ← undeclared?_eq_none_iff]
    rfl
  · rw [compile_eq_ok_iff, ← undeclared?_eq_none_iff]
    rfl
  · have hdeclared := (compile_eq_ok_iff.mp hcompile).1
    exact Artifact.referencesKept_of_declared (sound_build flat) hdeclared profile

end SchemaUnit

end SchemaCompiler
