import SchemaCompiler.Proofs.Artifact.WholeLines
import SchemaCompiler.Proofs.Schema.Fields

/-!
# Fields and the lines of an artifact

What the artifacts of a flat schema say about its fields, read from their texts line by line
(`SchemaCompiler.Artifact.FieldLines`): members by how they start, columns and statements by the
constant or the function that they stand in, and the table as a whole.

For this reading to be forced, no part of a line may break it (`SchemaCompiler.Artifact.OneLine`).
Names of fields are a case apart: record types and descriptors show them as identifiers or quoted,
and keep their lines whatever the name, while messages and tables show them as they are. So all
artifacts have the lines that they should have exactly if no name of a field has a line feed
(`SchemaCompiler.Artifact.fieldLines_iff`).
-/

namespace SchemaCompiler.Artifact

open Item

section

variable {m : FlatSchema} {profile : Profile}

/-! ### Lines of record types -/

theorem silent_defaultItems (name : String) (members : List Member) :
    Text.Silent "    pub " (rows 0 (defaultItems name members)) := by
  have hlines : AllLines (members.map (fun x => .line (x.name ++ ": " ++ x.initial ++ ","))) :=
    allLines_map _ members
  have hmembers : Text.Silent "    pub "
      (rows 3 (members.map (fun x => .line (x.name ++ ": " ++ x.initial ++ ",")))) :=
    hlines.silent_rows fun i _ => by simp
  rw [defaultItems]
  split
  · simp [block, rows]
  · simp [block, rows, hlines.level 3, hmembers]

theorem startsWith_deriveAttribute? {text : String} (h : profile.deriveAttribute? = some text) :
    Text.startsWith text "    pub " = false := by
  rw [Profile.deriveAttribute?] at h
  split at h
  · cases h
  · cases h
    simp

/-- **The members of the record type** are lines of its text, in the order of the fields. -/
theorem memberLines (h : OneLine m profile) :
    (emittedLines (.flat m) profile .record).filter (Text.startsWith · "    pub ") =
      m.fields.map (fun f => "    " ++ memberText f) := by
  have himport : Level (if m.fields.any (fun f => f.type.isFixedText) then
      [.line ("use " ++ profile.storageRuntime ++ "::FixedText;"), .gap] else []) ∧
      Text.Silent "    pub " (rows 0 (if m.fields.any (fun f => f.type.isFixedText) then
        [.line ("use " ++ profile.storageRuntime ++ "::FixedText;"), .gap] else [])) := by
    split <;> exact ⟨fun _ _ => rfl, by simp [rows]⟩
  have hdoc : Text.Silent "    pub " (rows 0 (doc m.comment)) :=
    (allLines_doc m.comment).silent_rows fun i hi => by
      obtain ⟨text, rfl, -⟩ := isComment_of_mem_doc hi
      simp [Item.text]
  have hderive : Text.Silent "    pub " (rows 0 (deriveItems profile)) :=
    (allLines_deriveItems profile).silent_rows fun i hi => by
      obtain ⟨text, htext, rfl⟩ := List.mem_map.mp hi
      rw [indented_zero]
      exact startsWith_deriveAttribute? (Option.mem_toList.mp htext)
  have hmembers := (allLines_fieldItems m.fields).filter_rows 1 "pub "
  rw [filter_fieldItems, rows_map_line] at hmembers
  -- only the block of the type shows members; what stands before and behind it is silent
  rw [emittedLines_of_items? rfl (oneRows_recordItems h), recordItems]
  simp only [List.append_assoc]
  rw [himport.1, (allLines_doc _).level, (allLines_deriveItems profile).level,
    rows_block (allLines_fieldItems m.fields).level, List.filter_append, List.filter_append,
    List.filter_append, himport.2.filter, hdoc.filter, hderive.filter,
    List.filter_cons_of_neg (by simp), List.filter_append, List.filter_cons_of_neg (by simp),
    List.singleton_append, rows, (silent_defaultItems _ _).filter, List.append_nil]
  exact hmembers

/-! ### Lines of messages -/

/-- **The fields of the message** are lines of its text, in the order of the fields and tagged from
one on, exactly if no name of a field breaks its line. -/
theorem messageLines_iff (h : OneLine m profile) :
    (emittedLines (.flat m) profile .message).filter (Text.startsWith · "    optional ") =
      (m.fields.zipIdx 1).map (fun p => "    " ++ messageLine p.1 p.2) ↔
      ∀ f ∈ m.fields, '\n' ∉ f.name.toList := by
  constructor
  · intro heq f hf
    -- the name is part of a line that was read from a text, and such lines have no line feed
    obtain ⟨index, hindex⟩ : ∃ index, (f, index) ∈ m.fields.zipIdx 1 := by
      obtain ⟨i, hi, rfl⟩ := List.mem_iff_getElem.mp hf
      exact ⟨1 + i, List.mk_add_mem_zipIdx_iff_getElem?.mpr (List.getElem?_eq_getElem hi)⟩
    have hline : "    " ++ messageLine f index ∈ (m.fields.zipIdx 1).map
        (fun p => "    " ++ messageLine p.1 p.2) := List.mem_map.mpr ⟨(f, index), hindex, rfl⟩
    rw [← heq] at hline
    have hfeed := feed_notMem_of_mem_emittedLines (List.mem_filter.mp hline).1
    simp only [messageLine, String.toList_append, List.mem_append, not_or] at hfeed
    exact hfeed.2.1.1.1.2
  · intro hnames
    have hcomment : Text.Silent "    optional " (rows 0 (commentItems m.comment)) :=
      (allLines_commentItems m.comment).silent_rows fun i hi => by
        obtain ⟨text, rfl, -⟩ := isComment_of_mem_commentItems hi
        simp [Item.text]
    have hfields := (allLines_messageFieldItems m.fields).filter_rows 1 "optional "
    rw [filter_messageFieldItems, rows_map_line] at hfields
    rw [emittedLines_of_items? rfl (oneRows_messageItems h hnames), messageItems,
      ← messageFieldItems, List.append_assoc]
    simp only [List.cons_append, List.nil_append, rows]
    rw [(allLines_commentItems m.comment).level, ← List.append_nil (block _ _ _),
      rows_block (allLines_messageFieldItems m.fields).level, List.filter_cons_of_neg (by simp),
      List.filter_cons_of_neg (by simp), List.filter_append, hcomment.filter,
      List.filter_cons_of_neg (by simp), List.filter_append, List.filter_cons_of_neg (by simp),
      rows, List.filter_nil, List.append_nil]
    exact hfields

/-! ### Lines of descriptors -/

/-- The lines of a function. -/
def functionLines (function : String) (lines : List String) : List String :=
  Text.linesBetween ("    fn " ++ function ++ "(") "    \x7d" lines

/-- The lines of a function without those that separate its statements. -/
def statementLines (function separator : String) (lines : List String) : List String :=
  (functionLines function lines).filter (· != "        query." ++ separator ++ "();")

/-- The items of a descriptor up to its columns. -/
def descriptorHead (m : FlatSchema) (profile : Profile) : List Item :=
  [ .line ("use " ++ profile.storageRuntime ++
      "::\x7bColumn, DecodeError, Query, Row, StorageDescriptor\x7d;"),
    .line ("use " ++ profile.recordModuleFor m.name ++ "::" ++ m.name ++ ";"),
    .gap,
    .line ("/// Storage descriptor for [`" ++ m.name ++ "`]"),
    .line ("pub struct " ++ descriptorName m ++ ";"),
    .gap,
    .opening ("impl StorageDescriptor for " ++ descriptorName m ++ " \x7b"),
    .line ("type Object = " ++ m.name ++ ";"),
    .gap,
    .line ("const TABLE: &'static str = " ++ Text.quote m.table ++ ";"),
    .line ("const KEYS: &'static [&'static str] = &[" ++ quotedColumns m.keyFields ++ "];"),
    .line ("const INDEXES: &'static [&'static [&'static str]] = &[" ++
      ", ".intercalate ((indexFields m).map (fun fields => "&[" ++ quotedColumns fields ++ "]")) ++
      "];") ]

theorem descriptorItems_eq (m : FlatSchema) (profile : Profile) :
    descriptorItems m profile = descriptorHead m profile ++
      (block "const COLUMNS: &'static [Column] = &[" (m.fields.map columnLine) "];" ++
        ([.gap] ++ functionItems m)) := by
  rw [descriptorItems, block, functionItems, descriptorHead]
  simp only [List.append_assoc, List.cons_append, List.nil_append]

/-- The rows of a descriptor: its head, its columns, and its functions. -/
theorem rows_descriptorItems (m : FlatSchema) (profile : Profile) :
    rows 0 (descriptorItems m profile) = rows 0 (descriptorHead m profile) ++
      ("    const COLUMNS: &'static [Column] = &[" ::
        (m.fields.map (fun f => "        " ++ columnText f) ++ "    ];" ::
          rows 1 (functionItems m))) := by
  have hcolumns := rows_block (allLines_map (fun f : Field => columnText f) m.fields).level 1
    "const COLUMNS: &'static [Column] = &[" "];" ([.gap] ++ functionItems m)
  have hhead : ∀ rest, rows 0 (descriptorHead m profile ++ rest) =
      rows 0 (descriptorHead m profile) ++ rows 1 rest := by
    intro rest
    simp [descriptorHead, rows]
  rw [rows_map_line] at hcolumns
  rw [descriptorItems_eq, hhead]
  exact congrArg (rows 0 (descriptorHead m profile) ++ ·) hcolumns

/-- A conversion is shown as its head, its statements and its end. -/
theorem rows_pushItems (function record separator : String) (fields : List Field)
    (push : Field → String) (rest : List Item) :
    ∃ signature, rows 1 (pushItems function record separator fields push ++ ([.gap] ++ rest)) =
      ("    fn " ++ function ++ "(" ++ signature) ::
        (rows 2 (separated (separatorLine separator) (fields.map (fun f => .line (push f)))) ++
          "    \x7d" :: rows 1 rest) := by
  obtain ⟨signature, heq⟩ := pushItems_eq_block function record separator fields push
  refine ⟨signature, ?_⟩
  rw [heq, rows_block (allLines_separated separator push fields).level]
  simp [rows, ← String.toList_inj]

/-- **The statements of a conversion** stand for its fields, in order. -/
theorem statementLines_pushItems {function record separator : String} {fields : List Field}
    {push : Field → String} (hpush : ∀ f, push f ≠ "query." ++ separator ++ "();")
    (rest : List Item) :
    statementLines function separator
        (rows 1 (pushItems function record separator fields push ++ ([.gap] ++ rest))) =
      fields.map (fun f => "        " ++ push f) := by
  obtain ⟨signature, heq⟩ := rows_pushItems function record separator fields push rest
  have hlines := allLines_separated separator push fields
  have hinside : ∀ row ∈ rows 2 (separated (separatorLine separator)
      (fields.map (fun f => .line (push f)))), row ≠ "    \x7d" := by
    rw [hlines.rows_eq]
    intro row hrow
    obtain ⟨i, -, rfl⟩ := List.mem_map.mp hrow
    simp [← String.toList_inj]
  have hseparator : "        query." ++ separator ++ "();" =
      indented 2 ("query." ++ separator ++ "();") := by
    simp [← String.toList_inj]
  rw [statementLines, functionLines, heq, Text.linesBetween_found (by simp) hinside, hseparator,
    hlines.filter_rows_ne, ← separatorLine, filter_separated (separatorLine_notMem hpush fields),
    rows_map_line]
  rfl

/-- The other conversions before a function are passed over. -/
theorem functionLines_pushItems {function other : String}
    (h : ∀ rest, Text.startsWith ("    fn " ++ other ++ "(" ++ rest)
      ("    fn " ++ function ++ "(") = false)
    (record separator : String) (fields : List Field) (push : Field → String) (rest : List Item) :
    functionLines function (rows 1 (pushItems other record separator fields push ++
      ([.gap] ++ rest))) = functionLines function (rows 1 rest) := by
  obtain ⟨signature, heq⟩ := rows_pushItems other record separator fields push rest
  have hinside : Text.Silent ("    fn " ++ function ++ "(") (rows 2
      (separated (separatorLine separator) (fields.map (fun f => .line (push f))))) :=
    (allLines_separated separator push fields).silent_rows fun i _ => by simp
  rw [heq, functionLines, Text.linesBetween_cons (h signature), Text.linesBetween_append hinside,
    Text.linesBetween_cons (by simp), functionLines]

/-- **The values of a row** are read in the order of the fields. -/
theorem readLines_rowItems (record : String) (fields : List Field) (rest : List Item) :
    (functionLines "row_to_object" (rows 1 (rowItems record fields ++ rest))).filter
        (Text.startsWith · "        object.") =
      fields.zipIdx.map (fun p => "        " ++ readStatement p.1 p.2) := by
  obtain ⟨signature, heq⟩ := rowItems_eq_block record fields
  have hreads := allLines_map (fun p : Field × Nat => readStatement p.1 p.2) fields.zipIdx
  have hmeasure : Level measureItems :=
    level_block (level_block ((allLines_singleton _).append (allLines_singleton _)).level _ _) _ _
  have hmeasured : ∀ row ∈ rows 2 measureItems,
      row ≠ "    \x7d" ∧ Text.startsWith row "        object." = false := by
    decide
  have hinside : ∀ row ∈ rows 2 (measureItems ++
      fields.zipIdx.map (fun p => .line (readStatement p.1 p.2)) ++ [.line "Ok(())"]),
      row ≠ "    \x7d" := by
    rw [hmeasure.append hreads.level, hmeasure, hreads.rows_eq]
    simp only [List.forall_mem_append, List.forall_mem_map]
    refine ⟨⟨fun row hrow => (hmeasured row hrow).1, fun i _ => ?_⟩, by decide⟩
    simp [← String.toList_inj]
  have hrows : rows 1 (rowItems record fields ++ rest) = ("    fn row_to_object(" ++ signature) ::
      (rows 2 (measureItems ++ fields.zipIdx.map (fun p => .line (readStatement p.1 p.2)) ++
        [.line "Ok(())"]) ++ "    \x7d" :: rows 1 rest) := by
    rw [heq, rows_block ((hmeasure.append hreads.level).append (allLines_singleton _).level)]
    simp [← String.toList_inj]
  have hfilter := hreads.filter_rows 2 "object."
  rw [filter_readStatements, rows_map_line] at hfilter
  have hsilent : Text.Silent "        object." (rows 2 measureItems) :=
    fun row hrow => (hmeasured row hrow).2
  rw [functionLines, hrows, Text.linesBetween_found (by simp) hinside, hmeasure.append hreads.level,
    hmeasure, List.filter_append, List.filter_append, hsilent.filter, rows_map_line]
  exact (List.append_nil _).trans hfilter

/-- **The lines of the descriptor**, by the constant or the function that they stand in. -/
structure DescriptorLines (m : FlatSchema) (lines : List String) : Prop where
  /-- The columns. -/
  columns : Text.linesBetween "    const COLUMNS" "    ];" lines =
    m.fields.map (fun f => "        " ++ columnText f)
  /-- The names of the key. -/
  keyNames : lines.find? (Text.startsWith · "    const KEYS") =
    some ("    const KEYS: &'static [&'static str] = &[" ++
      ", ".intercalate (m.keyFields.map (fun f => Text.quote (Text.toUppercase f.name))) ++ "];")
  /-- The statements that push the values. -/
  values : statementLines "object_to_query" "push_separator" lines =
    m.fields.map (fun f => "        " ++ valueStatement f)
  /-- The statements that push the assignments. -/
  assigns : statementLines "pairs_to_query" "push_separator" lines =
    m.fields.map (fun f => "        " ++ assignStatement f)
  /-- The statements that push the assignments of the key. -/
  keyAssigns : statementLines "keys_to_query" "push_key_separator" lines =
    m.keyFields.map (fun f => "        " ++ assignStatement f)
  /-- The statements that read a row, with the place in the row. -/
  reads : (functionLines "row_to_object" lines).filter (Text.startsWith · "        object.") =
    m.fields.zipIdx.map (fun p => "        " ++ rowStatement p.1 p.2)

theorem functionLines_descriptorItems (function : String) (m : FlatSchema) (profile : Profile) :
    functionLines function (rows 0 (descriptorItems m profile)) =
      functionLines function (rows 1 (functionItems m)) := by
  have hhead : Text.Silent ("    fn " ++ function ++ "(") (rows 0 (descriptorHead m profile)) := by
    simp [descriptorHead, rows]
  have hcolumns : Text.Silent ("    fn " ++ function ++ "(")
      (m.fields.map (fun f => "        " ++ columnText f)) :=
    List.forall_mem_map.mpr fun f _ => by simp
  rw [rows_descriptorItems, functionLines, Text.linesBetween_append hhead,
    Text.linesBetween_cons (by simp), Text.linesBetween_append hcolumns,
    Text.linesBetween_cons (by simp), functionLines]

theorem columnLines_descriptorItems (m : FlatSchema) (profile : Profile) :
    Text.linesBetween "    const COLUMNS" "    ];" (rows 0 (descriptorItems m profile)) =
      m.fields.map (fun f => "        " ++ columnText f) := by
  have hhead : Text.Silent "    const COLUMNS" (rows 0 (descriptorHead m profile)) := by
    simp [descriptorHead, rows]
  rw [rows_descriptorItems, Text.linesBetween_append hhead, Text.linesBetween_found (by decide)]
  intro row hrow
  obtain ⟨f, -, rfl⟩ := List.mem_map.mp hrow
  simp [← String.toList_inj]

theorem keyLine_descriptorItems (m : FlatSchema) (profile : Profile) :
    (rows 0 (descriptorItems m profile)).find? (Text.startsWith · "    const KEYS") =
      some ("    const KEYS: &'static [&'static str] = &[" ++ quotedColumns m.keyFields ++
        "];") := by
  have hline : "    " ++ ("const KEYS: &'static [&'static str] = &[" ++
      quotedColumns m.keyFields ++ "];") =
      "    const KEYS: &'static [&'static str] = &[" ++ quotedColumns m.keyFields ++ "];" := by
    simp only [← String.append_assoc]
    rfl
  rw [rows_descriptorItems, descriptorHead, ← hline]
  simp [rows]

theorem descriptorLines (h : OneLine m profile) :
    DescriptorLines m (emittedLines (.flat m) profile .storage) := by
  have hitems : items? (.flat m) profile .storage = some (descriptorItems m profile) := rfl
  rw [emittedLines_of_items? hitems (oneRows_descriptorItems h)]
  constructor
  · exact columnLines_descriptorItems m profile
  · rw [keyLine_descriptorItems, quotedColumns]
    rfl
  · rw [statementLines, functionLines_descriptorItems, functionItems, ← statementLines,
      statementLines_pushItems pushValue_ne_separator]
    simp only [pushValue_eq]
  · rw [statementLines, functionLines_descriptorItems, functionItems,
      functionLines_pushItems (by simp), ← statementLines,
      statementLines_pushItems (pushAssign_ne (by decide))]
    simp only [pushAssign_eq]
  · rw [statementLines, functionLines_descriptorItems, functionItems,
      functionLines_pushItems (by simp), functionLines_pushItems (by simp), ← statementLines,
      statementLines_pushItems (pushAssign_ne (by decide))]
    simp only [pushAssign_eq]
  · rw [functionLines_descriptorItems, functionItems, functionLines_pushItems (by simp),
      functionLines_pushItems (by simp), functionLines_pushItems (by simp), readLines_rowItems]
    simp only [readStatement_eq]

/-! ### Lines of tables -/

theorem feed_notMem_keyColumn {f : Field} (h : '\n' ∉ f.name.toList) :
    '\n' ∉ (keyColumn f).toList := by
  rw [keyColumn]
  split <;> simp [h]

theorem feed_notMem_keyColumns {fields : List Field} (h : ∀ f ∈ fields, '\n' ∉ f.name.toList) :
    '\n' ∉ (", ".intercalate (fields.map keyColumn)).toList := by
  refine Text.feed_notMem_intercalate (by decide) fun text htext => ?_
  obtain ⟨f, hf, rfl⟩ := List.mem_map.mp htext
  exact feed_notMem_keyColumn (h f hf)

/-- The definitions of a table are lines if no name of a field breaks its line. -/
theorem OneLine.definitionTexts (h : OneLine m profile)
    (hnames : ∀ f ∈ m.fields, '\n' ∉ f.name.toList) {text : String}
    (htext : text ∈ definitionTexts m) : text ≠ "" ∧ '\n' ∉ text.toList := by
  have hcolumns : ∀ names,
      '\n' ∉ (", ".intercalate ((m.fieldsNamed names).map keyColumn)).toList := fun names =>
    feed_notMem_keyColumns fun f hf => hnames f (FlatSchema.mem_fields_of_mem_fieldsNamed hf)
  rw [Artifact.definitionTexts, List.mem_append, List.mem_append] at htext
  rcases htext with (hcolumn | hprimary) | hindex
  · obtain ⟨f, hf, rfl⟩ := List.mem_map.mp hcolumn
    simp [tableColumn, hnames f hf, (h.type hf).storage]
  · split at hprimary
    · cases hprimary
    · obtain rfl := List.mem_singleton.mp hprimary
      simp [-String.toList_intercalate, FlatSchema.keyFields, hcolumns]
  · obtain ⟨fields, hfields, rfl⟩ := List.mem_map.mp hindex
    obtain ⟨names, -, rfl⟩ := List.mem_map.mp (List.mem_filter.mp hfields).1
    have hjoined : '\n' ∉ ("_".intercalate ((m.fieldsNamed names).map
        (fun f => Text.toUppercase f.name))).toList := by
      refine Text.feed_notMem_intercalate (by decide) fun text htext => ?_
      obtain ⟨f, hf, rfl⟩ := List.mem_map.mp htext
      rw [Text.feed_mem_toUppercase_iff]
      exact hnames f (FlatSchema.mem_fields_of_mem_fieldsNamed hf)
    simp [-String.toList_intercalate, indexText, hcolumns, hjoined, h.name]

theorem OneLine.tableLast (h : OneLine m profile) : '\n' ∉ (tableLast profile).toList := by
  have htrim : '\n' ∉ (Text.trim profile.tableOptions).toList := by
    rw [Text.trim, String.toList_ofList]
    exact fun hin => h.profile.tableOptions ((Text.trimChars_sublist _).subset hin)
  rw [Artifact.tableLast]
  split
  · decide
  · simpa using htrim

/-- **The lines of the table** are those of its definitions, exactly if no name of a field breaks
its line. -/
theorem tableLines_iff (h : OneLine m profile) :
    emittedLines (.flat m) profile .table =
      ("CREATE TABLE IF NOT EXISTS `" ++ Text.toUppercase m.name ++ "` (") ::
        (Text.commaLines (definitionTexts m) ++ [tableLast profile]) ↔
      ∀ f ∈ m.fields, '\n' ∉ f.name.toList := by
  constructor
  · intro heq f hf
    have hcolumn : tableColumn f ∈ definitionTexts m :=
      List.mem_append_left _ (List.mem_append_left _ (List.mem_map.mpr ⟨f, hf, rfl⟩))
    have hfeed : ∀ line ∈ Text.commaLines (definitionTexts m), '\n' ∉ line.toList := by
      intro line hline
      have hemitted : line ∈ emittedLines (.flat m) profile .table := by
        rw [heq]
        exact List.mem_cons_of_mem _ (List.mem_append_left _ hline)
      exact feed_notMem_of_mem_emittedLines hemitted
    have hname : '\n' ∉ (tableColumn f).toList → '\n' ∉ f.name.toList := by
      intro hfeed hin
      refine hfeed ?_
      simp [tableColumn, hin]
    -- the last definition has no comma behind it
    rcases Text.mem_commaLines hcolumn with hline | hline
    · exact hname (hfeed _ hline)
    · refine hname fun hin => hfeed _ hline ?_
      rw [String.toList_append]
      exact List.mem_append_left _ hin
  · intro hnames
    have htext : tableStatement m profile = String.ofList
        (("CREATE TABLE IF NOT EXISTS `" ++ Text.toUppercase m.name ++ "` (").toList ++ '\n' ::
          ((",\n".intercalate (definitionTexts m)).toList ++ '\n' ::
            ((Artifact.tableLast profile).toList ++ '\n' :: []))) := by
      rw [tableStatement_eq]
      simp [-String.toList_intercalate, ← String.toList_inj]
    have hfirst : '\n' ∉
        ("CREATE TABLE IF NOT EXISTS `" ++ Text.toUppercase m.name ++ "` (").toList := by
      simp [h.name]
    have hlast : Artifact.tableLast profile ≠ "" := by
      rw [Artifact.tableLast]
      split <;> simp
    have hempty : Text.shownLines (String.ofList []) = [] := rfl
    have hbody : body? (.flat m) profile .table = some (tableStatement m profile) := rfl
    rw [emittedLines, hbody, Option.elim_some, htext, Text.shownLines_append_feed,
      Text.shownLines_append_feed, Text.shownLines_append_feed, String.ofList_toList,
      String.ofList_toList, String.ofList_toList, Text.shownLines_of_notMem hfirst (by simp),
      Text.shownLines_intercalate fun _ htext => h.definitionTexts hnames htext,
      Text.shownLines_of_notMem h.tableLast hlast, hempty]
    simp

/-! ### All of them -/

/-- **The lines of the artifacts of a schema** that say something about its fields. -/
structure FieldLines (m : FlatSchema) (profile : Profile) : Prop where
  /-- The members of the record type. -/
  record : (emittedLines (.flat m) profile .record).filter (Text.startsWith · "    pub ") =
    m.fields.map (fun f => "    " ++ memberText f)
  /-- The columns, the statements and the key of the descriptor. -/
  descriptor : DescriptorLines m (emittedLines (.flat m) profile .storage)
  /-- The table, as a whole. -/
  table : emittedLines (.flat m) profile .table =
    ("CREATE TABLE IF NOT EXISTS `" ++ Text.toUppercase m.name ++ "` (") ::
      (Text.commaLines (definitionTexts m) ++ [tableLast profile])
  /-- The fields of the message, tagged from one on. -/
  message : (emittedLines (.flat m) profile .message).filter (Text.startsWith · "    optional ") =
    (m.fields.zipIdx 1).map (fun p => "    " ++ messageLine p.1 p.2)

/-- **Every artifact has its lines exactly if no name of a field breaks one**: the message and the
table show names as they are. -/
theorem fieldLines_iff (h : OneLine m profile) :
    FieldLines m profile ↔ ∀ f ∈ m.fields, '\n' ∉ f.name.toList :=
  ⟨fun hlines => (messageLines_iff h).mp hlines.message, fun hnames =>
    { record := memberLines h
      descriptor := descriptorLines h
      table := (tableLines_iff h).mpr hnames
      message := (messageLines_iff h).mpr hnames }⟩

end

end SchemaCompiler.Artifact
