import Mathlib.Data.List.Forall2
import SchemaCompiler.Proofs.Schema.Entries

/-!
# What becomes of every entry

A flat unit may have faults, and its schema is then made from what is left. This file says what is
left, by looking at the entries alone. An entry that is no directive is *accepted* if it can be read
as a field and no entry before it that can be read has its key
(`SchemaCompiler.FlatSchema.accepts`). The fields are the accepted entries, in order, and the keys
are the names that key directives and accepted entries give, each at its first place. An entry that
is not accepted leaves one error behind and nothing else (`SchemaCompiler.FlatSchema.step_cases`),
so it can be taken out, and what comes behind it never knows.
-/

namespace SchemaCompiler.FlatSchema

/-! ### Accepted entries -/

/-- Whether an entry can be read as a field of a unit. -/
def isReadable (unit : String) (entry : Entry) : Bool :=
  !Build.isDirective entry && (readField unit entry).isOk

/-- **Whether an entry becomes a field**, given the entries before it: it can be read, and none of
those that can be read has its key. -/
def accepts (unit : String) (before : List Entry) (entry : Entry) : Bool :=
  isReadable unit entry && !before.any (fun e => isReadable unit e && e.key == entry.key)

/-- **The names that are taken** are the keys of the entries before that can be read. -/
theorem any_fields_build (unit : String) (before : List Entry) (name : String) :
    (build ⟨unit, before⟩).schema.fields.any (fun f => f.name == name) =
      before.any (fun e => isReadable unit e && e.key == name) := by
  induction before using List.reverseRecOn with
  | nil => rfl
  | append_singleton before entry ih =>
    rw [build_concat, Build.schema_step, after, name_build, List.any_append, ← ih, List.any_cons,
      List.any_nil, Bool.or_false]
    generalize (build ⟨unit, before⟩).schema = m
    cases hdirective : Build.isDirective entry with
    | true =>
      rw [if_pos rfl, fields_withDirective, isReadable, hdirective]
      simp
    | false =>
      rw [if_neg Bool.false_ne_true, isReadable, hdirective]
      cases hread : readField unit entry with
      | error fault => exact (Bool.or_false _).symm
      | ok read =>
        obtain ⟨f, isKey⟩ := read
        obtain ⟨hname, -, -⟩ := eq_of_readField hread
        dsimp only
        rw [any_fields_withField, hname]
        rfl

namespace Build

/-- The build in which an entry has made its name a key, if it declares its field one. -/
def keyed (b : Build) (entry : Entry) : Build :=
  if declaresKey entry then b.addKey entry.key else b

/-- The build with one more field at the end. -/
def push (b : Build) (f : Field) : Build :=
  { b with schema := { b.schema with fields := b.schema.fields ++ [f] } }

/-- The errors among the diagnostics. -/
def errors (b : Build) : List Diagnostic :=
  b.diagnostics.filter Diagnostic.isError

section Push

variable (b : Build) (entry : Entry) (f : Field)

@[simp] theorem fields_push : (b.push f).schema.fields = b.schema.fields ++ [f] := rfl

@[simp] theorem keys_push : (b.push f).schema.keys = b.schema.keys := rfl

@[simp] theorem errors_push : (b.push f).errors = b.errors := rfl

@[simp] theorem fields_keyed : (b.keyed entry).schema.fields = b.schema.fields := by
  rw [keyed]
  split_ifs
  · rw [schema_addKey_eq, fields_withKey]
  · rfl

/-- A name that is a key already is worth a warning, but no error. -/
@[simp] theorem errors_keyed : (b.keyed entry).errors = b.errors := by
  rw [keyed]
  split_ifs
  · rw [addKey]
    split_ifs
    · rw [errors, report, List.filter_append]
      exact List.append_nil _
    · rfl
  · rfl

end Push

end Build

/-- **What becomes of an entry that is no directive.** If it is accepted, its field is added at the
end, after its name is made a key where the entry says so; if not, an error is reported, and that is
all. -/
theorem step_cases (unit : String) (before : List Entry) {entry : Entry}
    (hdirective : Build.isDirective entry = false) :
    (accepts unit before entry = true ∧ ∃ f, FieldOf unit f entry ∧
      (build ⟨unit, before⟩).step entry = ((build ⟨unit, before⟩).keyed entry).push f) ∨
    accepts unit before entry = false ∧ ∃ fault : SchemaFault, fault.code.severity = .error ∧
      (build ⟨unit, before⟩).step entry = (build ⟨unit, before⟩).report fault := by
  have hname : (build ⟨unit, before⟩).schema.name = unit := name_build unit before
  rw [accepts, isReadable, hdirective, ← any_fields_build unit before entry.key, Build.step,
    hdirective, if_neg Bool.false_ne_true, hname]
  generalize build ⟨unit, before⟩ = b
  cases hread : readField unit entry with
  | error fault => exact Or.inr ⟨rfl, fault, Build.severity_of_readField_error hread, rfl⟩
  | ok read =>
    obtain ⟨f, isKey⟩ := read
    obtain ⟨hfield, -, hkey⟩ := eq_of_readField hread
    dsimp only
    rw [Build.addField, hfield]
    by_cases htaken : b.schema.fields.any (fun g => g.name == entry.key) = true
    · rw [if_pos htaken, htaken]
      exact Or.inr ⟨rfl, _, rfl, rfl⟩
    · rw [if_neg htaken, Bool.eq_false_iff.mpr htaken]
      refine Or.inl ⟨rfl, f, ⟨hfield, isKey, hread⟩, ?_⟩
      rw [Build.push, Build.keyed, hkey]

/-! ### All entries -/

/-- What entries give one after another, each in view of those before it. -/
def contributions {α : Type} (given : List Entry → Entry → List α) (before : List Entry) :
    List Entry → List α
  | [] => []
  | entry :: rest => given before entry ++ contributions given (before ++ [entry]) rest

theorem contributions_concat {α : Type} (given : List Entry → Entry → List α)
    (before entries : List Entry) (entry : Entry) :
    contributions given before (entries ++ [entry]) =
      contributions given before entries ++ given (before ++ entries) entry := by
  induction entries generalizing before with
  | nil => simp [contributions]
  | cons first entries ih =>
    rw [List.cons_append, contributions, contributions, ih, List.append_assoc, List.append_assoc,
      List.singleton_append]

/-- The entry itself, if it is accepted. -/
def acceptedAt (unit : String) (before : List Entry) (entry : Entry) : List Entry :=
  if accepts unit before entry then [entry] else []

/-- **The accepted entries of a unit.** -/
def acceptedEntries (unit : FlatUnit) : List Entry :=
  contributions (acceptedAt unit.name) [] unit.entries

/-- The names that an entry makes keys: those that a key directive lists, or its own, if it is
accepted and declares its field a key. -/
def keyNamesAt (unit : String) (before : List Entry) (entry : Entry) : List String :=
  if entry.key == "$key" then entry.value.names
  else if accepts unit before entry && declaresKey entry then [entry.key]
  else []

/-- **The names that the entries of a unit make keys**, as they are met. -/
def keyNames (unit : FlatUnit) : List String :=
  contributions (keyNamesAt unit.name) [] unit.entries

theorem sublist_contributions (unit : String) (before entries : List Entry) :
    (contributions (acceptedAt unit) before entries).Sublist entries := by
  induction entries generalizing before with
  | nil => exact List.Sublist.refl _
  | cons entry entries ih =>
    rw [contributions, acceptedAt]
    split_ifs
    · exact (ih _).cons_cons entry
    · exact (ih _).cons entry

theorem accepts_of_isDirective {unit : String} {before : List Entry} {entry : Entry}
    (h : Build.isDirective entry = true) : accepts unit before entry = false := by
  rw [accepts, isReadable, h]
  rfl

/-- **The fields are the accepted entries**, in order. -/
theorem forall₂_fields_build (unit : String) (entries : List Entry) :
    List.Forall₂ (FieldOf unit) (build ⟨unit, entries⟩).schema.fields
      (contributions (acceptedAt unit) [] entries) := by
  induction entries using List.reverseRecOn with
  | nil => exact .nil
  | append_singleton entries entry ih =>
    rw [build_concat, contributions_concat, List.nil_append, acceptedAt]
    cases hdirective : Build.isDirective entry with
    | true =>
      rw [accepts_of_isDirective hdirective, if_neg Bool.false_ne_true, List.append_nil,
        Build.schema_step, after, if_pos hdirective, fields_withDirective]
      exact ih
    | false =>
      rcases step_cases unit entries hdirective with
        ⟨haccepts, f, hf, hstep⟩ | ⟨hrejects, fault, -, hstep⟩
      · rw [haccepts, if_pos rfl, hstep, Build.fields_push, Build.fields_keyed]
        exact List.rel_append ih (.cons hf .nil)
      · rw [hrejects, if_neg Bool.false_ne_true, List.append_nil, hstep]
        exact ih

/-- **The keys are the first occurrences of the names that the entries make keys.** -/
theorem keys_build (unit : String) (entries : List Entry) :
    (build ⟨unit, entries⟩).schema.keys =
      (contributions (keyNamesAt unit) [] entries).eraseDups := by
  induction entries using List.reverseRecOn with
  | nil => rfl
  | append_singleton entries entry ih =>
    rw [build_concat, contributions_concat, List.nil_append, keyNamesAt]
    cases hdirective : Build.isDirective entry with
    | true =>
      rw [accepts_of_isDirective hdirective, Build.schema_step, after, if_pos hdirective]
      exact keys_withDirective ih entry
    | false =>
      have hkey : (entry.key == "$key") = false :=
        beq_eq_false_iff_ne.mpr (key_ne_of_isDirective hdirective rfl)
      rw [hkey, if_neg Bool.false_ne_true]
      rcases step_cases unit entries hdirective with
        ⟨haccepts, f, -, hstep⟩ | ⟨hrejects, fault, -, hstep⟩
      · rw [haccepts, Bool.true_and, hstep, Build.keys_push, Build.keyed]
        split_ifs
        · rw [Build.schema_addKey_eq]
          exact keys_withKey ih entry.key
        · rw [List.append_nil]
          exact ih
      · rw [hrejects, Bool.false_and, if_neg Bool.false_ne_true, List.append_nil, hstep]
        exact ih

/-! ### Entries left out -/

/-- **An entry that is not accepted can be taken out.** -/
theorem schema_build_without (unit : String) (before : List Entry) {entry : Entry}
    (rest : List Entry) (hdirective : Build.isDirective entry = false)
    (hrejects : accepts unit before entry = false) :
    (build ⟨unit, before ++ rest⟩).schema = (build ⟨unit, before ++ entry :: rest⟩).schema := by
  have hbefore := schema_build ⟨unit, before⟩
  have hstep : (build ⟨unit, before⟩).schema.after entry = (build ⟨unit, before⟩).schema := by
    rcases step_cases unit before hdirective with ⟨haccepts, -⟩ | ⟨-, fault, -, hreport⟩
    · rw [hrejects] at haccepts
      cases haccepts
    · rw [← Build.schema_step, hreport]
      rfl
  rw [schema_build, schema_build, List.foldl_append, List.foldl_append, List.foldl_cons, ← hbefore,
    hstep]

/-! ### The account -/

/-- **An entry becomes a field**: it adds one at the end, and reports no error. -/
structure BecomesField (unit : String) (before : List Entry) (entry : Entry) : Prop where
  /-- The entry is accepted. -/
  accepted : accepts unit before entry = true
  /-- One field is added. -/
  field : ∃ f, FieldOf unit f entry ∧ (build ⟨unit, before ++ [entry]⟩).schema.fields =
    (build ⟨unit, before⟩).schema.fields ++ [f]
  /-- No error is reported. -/
  errors : (build ⟨unit, before ++ [entry]⟩).errors = (build ⟨unit, before⟩).errors

/-- **An entry becomes an error**: it reports one, and changes nothing else. -/
structure BecomesError (unit : String) (before : List Entry) (entry : Entry) : Prop where
  /-- The entry is not accepted. -/
  rejected : accepts unit before entry = false
  /-- The schema stays as it is. -/
  schema : (build ⟨unit, before ++ [entry]⟩).schema = (build ⟨unit, before⟩).schema
  /-- One error is reported. -/
  error : ∃ d : Diagnostic, d.isError = true ∧
    (build ⟨unit, before ++ [entry]⟩).diagnostics = (build ⟨unit, before⟩).diagnostics ++ [d]

/-- **Every entry that is no directive becomes a field or an error.** -/
theorem becomes (unit : String) (before : List Entry) {entry : Entry}
    (hdirective : Build.isDirective entry = false) :
    BecomesField unit before entry ∨ BecomesError unit before entry := by
  rcases step_cases unit before hdirective with
    ⟨haccepts, f, hf, hstep⟩ | ⟨hrejects, fault, hseverity, hstep⟩
  · rw [← build_concat] at hstep
    refine Or.inl ⟨haccepts, ⟨f, hf, ?_⟩, ?_⟩
    · rw [hstep, Build.fields_push, Build.fields_keyed]
    · rw [hstep, Build.errors_push, Build.errors_keyed]
  · rw [← build_concat] at hstep
    refine Or.inr ⟨hrejects, by rw [hstep]; rfl, Diagnostic.of _ fault, ?_, by rw [hstep]; rfl⟩
    rw [Diagnostic.isError, Diagnostic.severity]
    exact beq_iff_eq.mpr hseverity

/-- Where there are no directives, there are as many fields and errors as there are entries. -/
theorem length_fields_build (unit : String) {entries : List Entry}
    (h : ∀ e ∈ entries, Build.isDirective e = false) :
    (build ⟨unit, entries⟩).schema.fields.length + (build ⟨unit, entries⟩).errors.length =
      entries.length := by
  induction entries using List.reverseRecOn with
  | nil => rfl
  | append_singleton entries entry ih =>
    have hrest := ih fun e he => h e (List.mem_append_left _ he)
    have hlast := h entry (List.mem_append_right _ List.mem_cons_self)
    rw [List.length_append, List.length_singleton]
    rcases becomes unit entries hlast with hfield | herror
    · obtain ⟨f, -, hfields⟩ := hfield.field
      rw [hfields, hfield.errors, List.length_append, List.length_singleton]
      omega
    · obtain ⟨d, hd, hdiagnostics⟩ := herror.error
      have herrors : (build ⟨unit, entries ++ [entry]⟩).errors =
          (build ⟨unit, entries⟩).errors ++ [d] := by
        rw [Build.errors, hdiagnostics, List.filter_append, List.filter_cons_of_pos hd]
        rfl
      rw [herror.schema, herrors, List.length_append, List.length_singleton]
      omega

/-- **The account of a flat unit**: what its schema has, and what became of every entry. -/
structure Account (unit : FlatUnit) : Prop where
  /-- No two fields have the same name. -/
  names : ((build unit).schema.fields.map Field.name).Nodup
  /-- No field has the name of a directive. -/
  plain : ∀ f ∈ (build unit).schema.fields, f.name.toList.head? ≠ some '$'
  /-- The fields are the accepted entries, one for each. -/
  fields : List.Forall₂ (FieldOf unit.name) (build unit).schema.fields (acceptedEntries unit)
  /-- They are in declaration order. -/
  order : (acceptedEntries unit).Sublist unit.entries
  /-- A field has the size that its type has. -/
  sizes : ∀ f ∈ (build unit).schema.fields, f.size = f.type.capacity?
  /-- The keys are the first occurrences of the names that entries make keys. -/
  keys : (build unit).schema.keys = (keyNames unit).eraseDups
  /-- No key is there twice. -/
  keysNodup : (build unit).schema.keys.Nodup
  /-- The indexes are those of the index directives, each name at its first place. -/
  indexes : (build unit).schema.indexes = unit.entries.flatMap indexesOf
  /-- An index has a name, and has none twice. -/
  indexesNodup : ∀ index ∈ (build unit).schema.indexes, index ≠ [] ∧ index.Nodup
  /-- Every entry that is no directive becomes a field or an error. -/
  entries : ∀ before entry rest, unit.entries = before ++ entry :: rest →
    Build.isDirective entry = false →
    BecomesField unit.name before entry ∨ BecomesError unit.name before entry
  /-- There are as many fields and errors as there are entries, if directives are left out. -/
  tally : (build unit).schema.fields.length +
    (build ⟨unit.name, unit.entries.filter (fun e => !Build.isDirective e)⟩).errors.length =
      (unit.entries.filter (fun e => !Build.isDirective e)).length
  /-- Without an entry that is not accepted the schema is the same. -/
  rejected : ∀ before entry rest, unit.entries = before ++ entry :: rest →
    Build.isDirective entry = false → accepts unit.name before entry = false →
    (build ⟨unit.name, before ++ rest⟩).schema = (build unit).schema
  /-- Without the directives the fields are the same. -/
  directives :
    (build ⟨unit.name, unit.entries.filter (fun e => !Build.isDirective e)⟩).schema.fields =
      (build unit).schema.fields

theorem isDirective_of_mem_contributions {unit : String} {before entries : List Entry}
    {entry : Entry} (h : entry ∈ contributions (acceptedAt unit) before entries) :
    Build.isDirective entry = false := by
  induction entries generalizing before with
  | nil => exact absurd h List.not_mem_nil
  | cons first entries ih =>
    rw [contributions, List.mem_append, acceptedAt] at h
    rcases h with hfirst | hrest
    · split_ifs at hfirst with haccepts
      · rw [List.mem_singleton.mp hfirst]
        by_contra hdirective
        rw [accepts_of_isDirective (Bool.not_eq_false _ ▸ hdirective)] at haccepts
        cases haccepts
      · exact absurd hfirst List.not_mem_nil
    · exact ih hrest

/-- **Every flat unit is accounted for.** -/
theorem account_build (unit : FlatUnit) : Account unit := by
  have hfields := forall₂_fields_build unit.name unit.entries
  have hkeys := keys_build unit.name unit.entries
  have hindexes := indexes_build unit
  have hdeclared : ∀ f ∈ (build unit).schema.fields, ∃ e, FieldOf unit.name f e ∧
      Build.isDirective e = false := by
    intro f hf
    obtain ⟨i, hi, rfl⟩ := List.mem_iff_getElem.mp hf
    refine ⟨_, hfields.get hi (hfields.length_eq ▸ hi), ?_⟩
    exact isDirective_of_mem_contributions (List.getElem_mem _)
  refine
    { names := (sound_build unit).names
      plain := ?_
      fields := hfields
      order := sublist_contributions _ _ _
      sizes := ?_
      keys := hkeys
      keysNodup := hkeys ▸ nodup_eraseDups _
      indexes := hindexes
      indexesNodup := ?_
      entries := fun before entry rest _ hdirective => becomes unit.name before hdirective
      tally := ?_
      rejected := ?_
      directives := fields_build_filter unit }
  · intro f hf hhead
    obtain ⟨e, ⟨hname, -⟩, hdirective⟩ := hdeclared f hf
    rw [hname] at hhead
    rw [Build.isDirective, hhead] at hdirective
    cases hdirective
  · intro f hf
    obtain ⟨e, ⟨-, isKey, hread⟩, -⟩ := hdeclared f hf
    exact (eq_of_readField hread).2.1
  · intro index hindex
    rw [hindexes] at hindex
    obtain ⟨entry, -, hin⟩ := List.mem_flatMap.mp hindex
    exact ne_nil_of_mem_indexesOf hin
  · rw [← fields_build_filter unit]
    exact length_fields_build unit.name fun e he => by simpa using (List.mem_filter.mp he).2
  · intro before entry rest hentries hdirective hrejects
    rw [schema_build_without unit.name before rest hdirective hrejects, ← hentries]

end SchemaCompiler.FlatSchema
