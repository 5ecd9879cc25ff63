import SchemaCompiler.Proofs.Name.FirstOccurrences
import SchemaCompiler.Schema.Flat

/-!
# The schema after each entry

The loop that builds a flat schema carries diagnostics along, but what it does to the schema does
not depend on them. What an entry makes of a schema is a function of the two alone
(`SchemaCompiler.FlatSchema.after`), and the schema of a unit is what its entries make of the empty
one, in order (`SchemaCompiler.FlatSchema.schema_build`).

So the parts of a schema can be followed one by one. An entry adds one field or none
(`SchemaCompiler.FlatSchema.fields_after`). The indexes are those that the entries declare
(`SchemaCompiler.FlatSchema.indexes_build`), directives never touch the fields
(`SchemaCompiler.FlatSchema.fields_build_filter`), and a name that is made a key again keeps its
first place (`SchemaCompiler.FlatSchema.keys_withKey`). Whatever holds of all schemas, or of those
that are built cleanly, follows from this one entry after another.
-/

namespace SchemaCompiler

/-- The names that the value of a directive lists. -/
def EntryValue.names : EntryValue → List String
  | .scalar name => [name]
  | .list names => names
  | _ => []

namespace FlatSchema

/-! ### First occurrences -/

/-- What is kept of a list of names are the first occurrences of those that were not seen. -/
theorem distinct_fst (names seen : List String) :
    (Build.distinct seen names).1 = (names.removeAll seen).eraseDups := by
  induction names generalizing seen with
  | nil => rfl
  | cons name names ih =>
    rw [Build.distinct]
    by_cases h : name ∈ seen
    · rw [if_pos (List.contains_iff_mem.mpr h), cons_removeAll_of_mem h]
      exact ih seen
    · rw [if_neg (fun hin => h (List.contains_iff_mem.mp hin)),
        eraseDups_cons_removeAll_of_notMem h, ← ih (name :: seen)]

/-! ### The schema alone -/

/-- The schema with one more key, unless it is one already. -/
def withKey (m : FlatSchema) (name : String) : FlatSchema :=
  if m.keys.contains name then m else { m with keys := m.keys ++ [name] }

/-- The indexes that an entry declares. -/
def indexesOf (entry : Entry) : List (List String) :=
  if entry.key == "$index" && !entry.value.names.isEmpty then [entry.value.names.eraseDups] else []

/-- The schema after a directive. -/
def withDirective (m : FlatSchema) (entry : Entry) : FlatSchema :=
  if entry.key == "$comment" then
    match entry.value with
    | .scalar text => { m with comment := some text }
    | _ => m
  else if entry.key == "$key" then entry.value.names.foldl withKey m
  else { m with indexes := m.indexes ++ indexesOf entry }

/-- The schema with one more field, unless there is one of that name already. -/
def withField (m : FlatSchema) (f : Field) (isKey : Bool) : FlatSchema :=
  if m.fields.any (fun g => g.name == f.name) then m
  else
    let keyed := if isKey then m.withKey f.name else m
    { keyed with fields := m.fields ++ [f] }

/-- **The schema after an entry.** -/
def after (m : FlatSchema) (entry : Entry) : FlatSchema :=
  if Build.isDirective entry then m.withDirective entry
  else
    match readField m.name entry with
    | .error _ => m
    | .ok (f, isKey) => m.withField f isKey

/-- One more key changes nothing but the keys. -/
theorem withKey_eq (m : FlatSchema) (name : String) :
    m.withKey name = { m with keys := (m.withKey name).keys } := by
  rw [withKey]
  split_ifs <;> rfl

theorem foldl_withKey_eq (m : FlatSchema) (names : List String) :
    names.foldl withKey m = { m with keys := (names.foldl withKey m).keys } := by
  induction names generalizing m with
  | nil => rfl
  | cons name names ih =>
    rw [List.foldl_cons]
    refine (ih _).trans ?_
    rw [withKey_eq m name]

theorem fields_withKey (m : FlatSchema) (name : String) : (m.withKey name).fields = m.fields := by
  rw [withKey_eq]

theorem fields_withDirective (m : FlatSchema) (entry : Entry) :
    (m.withDirective entry).fields = m.fields := by
  rw [withDirective]
  split_ifs
  · split <;> rfl
  · rw [foldl_withKey_eq]
  · rfl

/-- A field whose name is taken changes nothing, so in any case the name is taken afterwards. -/
theorem any_fields_withField (m : FlatSchema) (f : Field) (isKey : Bool) (name : String) :
    (m.withField f isKey).fields.any (fun g => g.name == name) =
      (m.fields.any (fun g => g.name == name) || f.name == name) := by
  rw [withField]
  split_ifs with htaken
  · rw [Bool.eq_iff_iff, Bool.or_eq_true, beq_iff_eq]
    refine ⟨Or.inl, ?_⟩
    rintro (h | rfl)
    · exact h
    · exact htaken
  all_goals simp

namespace Build

theorem schema_foldl_report (faultOf : Build → String → SchemaFault) (names : List String)
    (b : Build) : (names.foldl (fun b name => b.report (faultOf b name)) b).schema = b.schema := by
  induction names generalizing b with
  | nil => rfl
  | cons name names ih => exact ih _

theorem schema_addKey_eq (b : Build) (name : String) :
    (b.addKey name).schema = b.schema.withKey name := by
  rw [addKey, withKey]
  split_ifs <;> rfl

theorem schema_foldl_addKey_eq (b : Build) (names : List String) :
    (names.foldl addKey b).schema = names.foldl withKey b.schema := by
  induction names generalizing b with
  | nil => rfl
  | cons name names ih => rw [List.foldl_cons, List.foldl_cons, ih, schema_addKey_eq]

theorem schema_addIndex_eq (b : Build) {entry : Entry} (hkey : entry.key = "$index") :
    (b.addIndex entry.value.names).schema =
      { b.schema with indexes := b.schema.indexes ++ indexesOf entry } := by
  have hkept : (distinct [] entry.value.names).1 = entry.value.names.eraseDups := by
    rw [distinct_fst, List.removeAll_nil]
  rw [addIndex]
  dsimp only
  rw [hkept, indexesOf, hkey]
  cases hnames : entry.value.names with
  | nil =>
    rw [if_pos (by simp), report, schema_foldl_report]
    simp
  | cons name names =>
    rw [if_neg (by simp [List.eraseDups_cons]), schema_foldl_report]
    simp

theorem schema_applyDirective_eq (b : Build) (entry : Entry) :
    (b.applyDirective entry).schema = b.schema.withDirective entry := by
  rw [applyDirective, withDirective]
  by_cases hcomment : entry.key = "$comment"
  · rw [if_pos (beq_iff_eq.mpr hcomment), if_pos (beq_iff_eq.mpr hcomment)]
    cases entry.value <;> rfl
  rw [if_neg (fun h => hcomment (beq_iff_eq.mp h)), if_neg (fun h => hcomment (beq_iff_eq.mp h))]
  by_cases hkey : entry.key = "$key"
  · rw [if_pos (beq_iff_eq.mpr hkey), if_pos (beq_iff_eq.mpr hkey)]
    cases hvalue : entry.value with
    | scalar name => exact schema_addKey_eq b name
    | list names => exact schema_foldl_addKey_eq b names
    | mapping _ => rfl
    | malformed _ => rfl
  rw [if_neg (fun h => hkey (beq_iff_eq.mp h)), if_neg (fun h => hkey (beq_iff_eq.mp h))]
  by_cases hindex : entry.key = "$index"
  · rw [if_pos (beq_iff_eq.mpr hindex)]
    have hadd := schema_addIndex_eq b hindex
    -- a value of another shape names nothing, and declares no index
    have hnone : entry.value.names = [] → b.schema =
        { b.schema with indexes := b.schema.indexes ++ indexesOf entry } := by
      intro hnames
      simp [indexesOf, hnames]
    cases hvalue : entry.value with
    | scalar name =>
      rw [hvalue] at hadd
      exact hadd
    | list names =>
      rw [hvalue] at hadd
      exact hadd
    | mapping _ => exact hnone (by rw [hvalue]; rfl)
    | malformed _ => exact hnone (by rw [hvalue]; rfl)
  · rw [if_neg (fun h => hindex (beq_iff_eq.mp h)), indexesOf,
      if_neg (fun h => hindex (beq_iff_eq.mp (Bool.and_eq_true_iff.mp h).1)), List.append_nil]
    rfl

theorem schema_addField_eq (b : Build) (f : Field) (isKey : Bool) :
    (b.addField f isKey).schema = b.schema.withField f isKey := by
  rw [addField, withField]
  split_ifs
  · rfl
  · dsimp only
    rw [schema_addKey_eq, fields_withKey]
  · rfl

/-- **What an entry does to the schema does not depend on the diagnostics.** -/
theorem schema_step (b : Build) (entry : Entry) : (b.step entry).schema = b.schema.after entry := by
  rw [step, after]
  split_ifs
  · exact schema_applyDirective_eq b entry
  · cases readField b.schema.name entry with
    | error fault => rfl
    | ok read => exact schema_addField_eq b read.1 read.2

theorem schema_foldl_step (b : Build) (entries : List Entry) :
    (entries.foldl step b).schema = entries.foldl after b.schema := by
  induction entries generalizing b with
  | nil => rfl
  | cons entry entries ih => rw [List.foldl_cons, List.foldl_cons, ih, schema_step]

end Build

/-- **The schema of a unit is made entry by entry**, without regard to the diagnostics. -/
theorem schema_build (unit : FlatUnit) :
    (build unit).schema = unit.entries.foldl after { name := unit.name } :=
  Build.schema_foldl_step _ _

theorem build_concat (name : String) (entries : List Entry) (entry : Entry) :
    build ⟨name, entries ++ [entry]⟩ = (build ⟨name, entries⟩).step entry := by
  rw [build, build, List.foldl_append]
  rfl

theorem name_after (m : FlatSchema) (entry : Entry) : (m.after entry).name = m.name := by
  rw [after]
  split_ifs
  · rw [withDirective]
    split_ifs
    · split <;> rfl
    · rw [foldl_withKey_eq]
    · rfl
  · split
    · rfl
    · rw [withField]
      split_ifs
      · rfl
      · dsimp only
        rw [withKey_eq]
      · rfl

theorem name_build (name : String) (entries : List Entry) :
    (build ⟨name, entries⟩).schema.name = name := by
  induction entries using List.reverseRecOn with
  | nil => rfl
  | append_singleton entries entry ih => rw [build_concat, Build.schema_step, name_after, ih]

theorem isDirective_of_key {entry : Entry} {key : String} (h : entry.key = key)
    (hkey : key.toList.head? = some '$') : Build.isDirective entry = true := by
  rw [Build.isDirective, h, hkey]
  rfl

theorem key_ne_of_isDirective {entry : Entry} (h : Build.isDirective entry = false) {key : String}
    (hkey : key.toList.head? = some '$') : entry.key ≠ key := by
  intro hsame
  rw [isDirective_of_key hsame hkey] at h
  cases h

/-! ### Keys -/

section Keys

variable {m : FlatSchema} {listed : List String}

/-- One more name leaves the keys the first occurrences of what was listed. -/
theorem keys_withKey (h : m.keys = listed.eraseDups) (name : String) :
    (m.withKey name).keys = (listed ++ [name]).eraseDups := by
  have hcontains : m.keys.contains name = true ↔ name ∈ listed := by
    rw [List.contains_iff_mem, h, List.mem_eraseDups]
  rw [withKey]
  by_cases hlisted : name ∈ listed
  · rw [if_pos (hcontains.mpr hlisted), h, eraseDups_concat_of_mem hlisted]
  · rw [if_neg (mt hcontains.mp hlisted), eraseDups_concat_of_notMem hlisted, ← h]

theorem keys_foldl_withKey (h : m.keys = listed.eraseDups) (names : List String) :
    (names.foldl withKey m).keys = (listed ++ names).eraseDups := by
  induction names generalizing m listed with
  | nil => rwa [List.append_nil]
  | cons name names ih =>
    rw [List.foldl_cons, List.append_cons]
    exact ih (keys_withKey h name)

theorem keys_withDirective (h : m.keys = listed.eraseDups) (entry : Entry) :
    (m.withDirective entry).keys =
      (listed ++ if entry.key == "$key" then entry.value.names else []).eraseDups := by
  rw [withDirective]
  by_cases hcomment : entry.key = "$comment"
  · rw [if_pos (beq_iff_eq.mpr hcomment), hcomment, if_neg (by decide), List.append_nil, ← h]
    split <;> rfl
  rw [if_neg (fun heq => hcomment (beq_iff_eq.mp heq))]
  split_ifs
  · exact keys_foldl_withKey h _
  · rw [List.append_nil]
    exact h

end Keys

theorem mem_keys_withKey {m : FlatSchema} {name other : String} :
    other ∈ (m.withKey name).keys ↔ other ∈ m.keys ∨ other = name := by
  rw [withKey]
  split_ifs with hin
  · refine ⟨Or.inl, ?_⟩
    rintro (h | rfl)
    · exact h
    · exact List.contains_iff_mem.mp hin
  · simp

theorem mem_keys_foldl_withKey {m : FlatSchema} {names : List String} {other : String} :
    other ∈ (names.foldl withKey m).keys ↔ other ∈ m.keys ∨ other ∈ names := by
  induction names generalizing m with
  | nil => simp
  | cons name names ih => rw [List.foldl_cons, ih, mem_keys_withKey, List.mem_cons, or_assoc]

/-- The names of a key directive are keys afterwards. -/
theorem mem_keys_after_of_key {m : FlatSchema} {entry : Entry} (hkey : entry.key = "$key")
    {name : String} (hname : name ∈ entry.value.names) : name ∈ (m.after entry).keys := by
  rw [after, if_pos (isDirective_of_key hkey rfl), withDirective, hkey, if_neg (by decide),
    if_pos (by decide)]
  exact mem_keys_foldl_withKey.mpr (Or.inr hname)

/-- **No entry takes a key back.** -/
theorem keys_subset_after (m : FlatSchema) (entry : Entry) : m.keys ⊆ (m.after entry).keys := by
  intro name hname
  rw [after]
  split_ifs
  · rw [withDirective]
    split_ifs
    · split <;> exact hname
    · exact mem_keys_foldl_withKey.mpr (Or.inl hname)
    · exact hname
  · split
    · exact hname
    · rw [withField]
      split_ifs
      · exact hname
      · exact mem_keys_withKey.mpr (Or.inl hname)
      · exact hname

/-! ### Indexes -/

theorem indexesOf_of_key_ne {entry : Entry} (h : entry.key ≠ "$index") : indexesOf entry = [] := by
  rw [indexesOf, beq_eq_false_iff_ne.mpr h]
  rfl

theorem ne_nil_of_mem_indexesOf {entry : Entry} {index : List String}
    (h : index ∈ indexesOf entry) : index ≠ [] ∧ index.Nodup := by
  rw [indexesOf] at h
  split_ifs at h with hindex
  · rw [List.mem_singleton.mp h]
    refine ⟨?_, nodup_eraseDups _⟩
    cases hnames : entry.value.names with
    | nil => simp [hnames] at hindex
    | cons name names => simp [List.eraseDups_cons]
  · exact absurd h List.not_mem_nil

theorem indexes_after (m : FlatSchema) (entry : Entry) :
    (m.after entry).indexes = m.indexes ++ indexesOf entry := by
  rw [after]
  split_ifs with hdirective
  · rw [withDirective]
    split_ifs with hcomment hkey
    · rw [indexesOf_of_key_ne (by rw [beq_iff_eq.mp hcomment]; decide), List.append_nil]
      split <;> rfl
    · rw [indexesOf_of_key_ne (by rw [beq_iff_eq.mp hkey]; decide), List.append_nil]
      rw [foldl_withKey_eq]
    · rfl
  · have hother : entry.key ≠ "$index" :=
      key_ne_of_isDirective (Bool.eq_false_iff.mpr hdirective) rfl
    rw [indexesOf_of_key_ne hother, List.append_nil]
    split
    · rfl
    · rw [withField]
      split_ifs
      · rfl
      · dsimp only
        rw [withKey_eq]
      · rfl

/-- **The indexes are those that the entries declare**, in order. -/
theorem indexes_build (unit : FlatUnit) :
    (build unit).schema.indexes = unit.entries.flatMap indexesOf := by
  have hrun : ∀ (entries : List Entry) (m : FlatSchema),
      (entries.foldl after m).indexes = m.indexes ++ entries.flatMap indexesOf := by
    intro entries
    induction entries with
    | nil => simp
    | cons entry entries ih =>
      intro m
      rw [List.foldl_cons, ih, indexes_after, List.flatMap_cons, List.append_assoc]
  rw [schema_build, hrun]
  rfl

/-! ### Fields -/

theorem fields_withField (m : FlatSchema) (f : Field) (isKey : Bool) :
    (m.withField f isKey).fields =
      if m.fields.any (fun g => g.name == f.name) then m.fields else m.fields ++ [f] := by
  rw [withField]
  split_ifs <;> rfl

/-- **An entry adds no field, or one with a new name.** -/
theorem fields_after (m : FlatSchema) (entry : Entry) :
    (m.after entry).fields = m.fields ∨ ∃ f isKey, readField m.name entry = .ok (f, isKey) ∧
      (∀ g ∈ m.fields, g.name ≠ f.name) ∧ (m.after entry).fields = m.fields ++ [f] := by
  rw [after]
  split_ifs
  · exact Or.inl (fields_withDirective m entry)
  · cases hread : readField m.name entry with
    | error fault => exact Or.inl rfl
    | ok read =>
      obtain ⟨f, isKey⟩ := read
      dsimp only
      rw [fields_withField]
      split_ifs with htaken
      · exact Or.inl rfl
      · refine Or.inr ⟨f, isKey, rfl, fun g hg heq => htaken ?_, rfl⟩
        exact List.any_eq_true.mpr ⟨g, hg, beq_iff_eq.mpr heq⟩

/-- The fields after an entry depend on the name of the schema and on its fields only. -/
theorem fields_after_congr {m m' : FlatSchema} (hname : m.name = m'.name)
    (hfields : m.fields = m'.fields) (entry : Entry) :
    (m.after entry).fields = (m'.after entry).fields := by
  rw [after, after]
  split_ifs
  · rw [fields_withDirective, fields_withDirective, hfields]
  · rw [hname]
    cases readField m'.name entry with
    | error fault => exact hfields
    | ok read =>
      dsimp only
      rw [fields_withField, fields_withField, hfields]

/-- **Without its directives a unit has the same fields.** -/
theorem fields_build_filter (unit : FlatUnit) :
    (build ⟨unit.name, unit.entries.filter (fun e => !Build.isDirective e)⟩).schema.fields =
      (build unit).schema.fields := by
  have hrun : ∀ (entries : List Entry) (m m' : FlatSchema), m.name = m'.name →
      m.fields = m'.fields →
      ((entries.filter (fun e => !Build.isDirective e)).foldl after m).fields =
        (entries.foldl after m').fields := by
    intro entries
    induction entries with
    | nil => exact fun _ _ _ hfields => hfields
    | cons entry entries ih =>
      intro m m' hname hfields
      rw [List.foldl_cons]
      cases hdirective : Build.isDirective entry with
      | true =>
        rw [List.filter_cons_of_neg (by simp [hdirective])]
        refine ih m _ (hname.trans (name_after m' entry).symm) ?_
        rw [after, if_pos hdirective, fields_withDirective, hfields]
      | false =>
        rw [List.filter_cons_of_pos (by simp [hdirective]), List.foldl_cons]
        refine ih _ _ ?_ (fields_after_congr hname hfields entry)
        rw [name_after, name_after, hname]
  rw [schema_build, schema_build]
  exact hrun _ _ _ rfl rfl

end FlatSchema

end SchemaCompiler
