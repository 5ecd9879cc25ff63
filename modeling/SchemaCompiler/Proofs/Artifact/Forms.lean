import SchemaCompiler.Artifact
import SchemaCompiler.Proofs.Artifact.Blocks

/-!
# What the artifacts of a flat schema hold

Each artifact of a flat schema is said here once, whatever the schema: what its body is, and what
stands in the blocks that matter (`SchemaCompiler.Artifact.RecordForm`, `DescriptorForm`,
`TableForm`, `MessageForm` and `GlueForm`). What it says about a field is spelled out by the type of
the field (`SchemaCompiler.Artifact.valueStatement`, `assignStatement`, `rowStatement`,
`keyColumn`).

The descriptor has five blocks to look for, one behind the other inside an enclosing one:
`functionBody_descriptorItems` goes to the first function, and from there each function is found
by passing over those before it (`functionBody_pushItems`). Inside a block, lines are told apart
by how they start: a member from the comment on it, a statement from the separators between
statements.
-/

namespace SchemaCompiler.Artifact

open Item

/-! ### What is said about a field -/

/-- The value of a member: integers of eight bits are widened to 32. -/
def memberValue (f : Field) : String :=
  match f.type.kind with
  | .int 8 true => "i32::from(object." ++ Name.memberIdent f.name ++ ")"
  | .int 8 false => "u32::from(object." ++ Name.memberIdent f.name ++ ")"
  | _ => "object." ++ Name.memberIdent f.name

/-- The statement that pushes the value of a field: quoted for text and bytes, and as it is for all
others. -/
def valueStatement (f : Field) : String :=
  match f.type.kind with
  | .text | .bytes | .fixedText _ => "query.push_quoted(&object." ++ Name.memberIdent f.name ++ ");"
  | _ => "query.push_value(" ++ memberValue f ++ ");"

/-- The statement that pushes the value of a field together with the column of the field. -/
def assignStatement (f : Field) : String :=
  let column := Text.quote (Text.toUppercase f.name)
  match f.type.kind with
  | .text | .bytes | .fixedText _ =>
    "query.push_assign_quoted(" ++ column ++ ", &object." ++ Name.memberIdent f.name ++ ");"
  | _ => "query.push_assign(" ++ column ++ ", " ++ memberValue f ++ ");"

/-- The statement that reads a field from a place in a row: text is cut to its capacity or taken
whole, bytes are taken whole, and all others are parsed. -/
def rowStatement (f : Field) (place : Nat) : String :=
  let member := "object." ++ Name.memberIdent f.name
  let index := Decimal.ofNat place
  match f.type.kind with
  | .fixedText _ => member ++ ".copy_truncated(row.text_ref(" ++ index ++ ")?);"
  | .text => member ++ " = row.text(" ++ index ++ ")?;"
  | .bytes => member ++ " = row.bytes(" ++ index ++ ")?;"
  | _ => member ++ " = row.parse(" ++ index ++ ")?;"

/-- The column of a field in a key: of text and bytes of any length, how they start. -/
def keyColumn (f : Field) : String :=
  match f.type.kind with
  | .text | .bytes => "`" ++ Text.toUppercase f.name ++ "`(191)"
  | _ => "`" ++ Text.toUppercase f.name ++ "`"

/-- The declaration of the member of a field. -/
def memberText (f : Field) : String :=
  "pub " ++ Name.memberIdent f.name ++ ": " ++ f.type.repr ++ ","

/-- The column of a field in a list of columns. -/
def columnText (f : Field) : String :=
  "Column::new(" ++ Text.quote (Text.toUppercase f.name) ++ ", " ++ Text.quote f.type.storage ++
    "),"

/-- The definition of the column of a field in a table. -/
def tableColumn (f : Field) : String :=
  "  `" ++ Text.toUppercase f.name ++ "` " ++ f.type.storage

/-- The definition of the key of an index over certain fields. -/
def indexText (m : FlatSchema) (fields : List Field) : String :=
  "  KEY `" ++ ("IDX_" ++ Text.toUppercase m.name ++ "_" ++
    "_".intercalate (fields.map (fun f => Text.toUppercase f.name))) ++ "` (" ++
    ", ".intercalate (fields.map keyColumn) ++ ")"

/-- The definitions of a table: the columns, the primary key unless it has no columns, and the keys
of indexes. -/
def definitionTexts (m : FlatSchema) : List String :=
  m.fields.map tableColumn ++
    (if m.keyFields = [] then []
     else ["  PRIMARY KEY (" ++ ", ".intercalate (m.keyFields.map keyColumn) ++ ")"]) ++
    (indexFields m).map (indexText m)

/-- The line of a field in a message, tagged by a number. -/
def messageLine (f : Field) (number : Nat) : String :=
  "optional " ++ f.type.wire ++ " " ++ f.name ++ " = " ++ Decimal.ofNat number ++ ";"

theorem valueOf_eq (f : Field) : valueOf f = memberValue f := by
  have hsigned : Primitive.registered? "int32" =
      some (.integer "int32" 32 true "i32" "int32" "int(10)") := by decide
  have hunsigned : Primitive.registered? "uint32" =
      some (.integer "uint32" 32 false "u32" "uint32" "int(10)") := by decide
  rw [valueOf, memberValue, Primitive.widen?]
  cases f.type.kind with
  | text => rfl
  | bytes => rfl
  | fixedText capacity => rfl
  | float bits => rfl
  | bool => rfl
  | int bits signed =>
    by_cases hbits : bits = 8
    · subst hbits
      cases signed
      · simp [← String.toList_inj, hunsigned, Primitive.integer]
      · simp [← String.toList_inj, hsigned, Primitive.integer]
    · simp [hbits]

theorem pushValue_eq (f : Field) : pushValue f = valueStatement f := by
  rw [pushValue, valueOf_eq, valueStatement, Primitive.isQuoted]
  cases f.type.kind <;> rfl

theorem pushAssign_eq (f : Field) : pushAssign f = assignStatement f := by
  rw [pushAssign, valueOf_eq, assignStatement, Primitive.isQuoted]
  cases f.type.kind <;> rfl

theorem readStatement_eq (f : Field) (place : Nat) :
    readStatement f place = rowStatement f place := by
  rw [readStatement, rowStatement]
  cases f.type.kind <;> rfl

theorem keyPart_eq (f : Field) : keyPart f = keyColumn f := by
  have hlength : "`(" ++ Decimal.ofNat indexedLength ++ ")" = "`(191)" := by decide
  rw [keyPart, keyColumn]
  cases f.type.kind with
  | text => simp only [Field.column, String.append_assoc, ← hlength]
  | bytes => simp only [Field.column, String.append_assoc, ← hlength]
  | fixedText capacity => rfl
  | int bits signed => rfl
  | float bits => rfl
  | bool => rfl

theorem keyParts_eq (fields : List Field) :
    keyParts fields = ", ".intercalate (fields.map keyColumn) := by
  rw [keyParts, funext keyPart_eq]

theorem indexDefinition_eq (m : FlatSchema) (fields : List Field) :
    indexDefinition m fields = indexText m fields := by
  rw [indexDefinition, keyParts_eq, indexText]
  rfl

theorem primaryKeyDefinition_eq (m : FlatSchema) :
    primaryKeyDefinition m = if m.keyFields = [] then []
      else ["  PRIMARY KEY (" ++ ", ".intercalate (m.keyFields.map keyColumn) ++ ")"] := by
  rw [primaryKeyDefinition, keyParts_eq]
  simp only [List.isEmpty_iff]

theorem tableDefinitions_eq (m : FlatSchema) : tableDefinitions m = definitionTexts m := by
  rw [tableDefinitions, primaryKeyDefinition_eq, funext (indexDefinition_eq m), definitionTexts]
  rfl

/-! ### Record types -/

theorem allLines_fieldItems (fields : List Field) : AllLines (fields.flatMap fieldItems) :=
  allLines_flatMap
    (fun f : Field => (allLines_doc f.comment).append (allLines_singleton _)) fields

/-- The members are told apart from the comments on them. -/
theorem filter_fieldItems (fields : List Field) :
    (fields.flatMap fieldItems).filter (·.startsWith "pub ") =
      fields.map (fun f => .line (memberText f)) := by
  have hdoc : ∀ f : Field, ∀ i ∈ doc f.comment, i.startsWith "pub " = false := by
    intro f i hi
    obtain ⟨text, rfl, -⟩ := isComment_of_mem_doc hi
    simp
  have hmember : ∀ f, (memberLine (fieldMember f)).startsWith "pub " = true := by
    intro f
    simp [memberLine]
  exact filter_flatMap_append hdoc hmember fields

/-- **The members of the record type** stand for the fields, in order. -/
theorem members_recordItems (m : FlatSchema) (profile : Profile) :
    (blockBody "pub struct " (recordItems m profile)).filter (·.startsWith "pub ") =
      m.fields.map (fun f => .line (memberText f)) := by
  have hbefore : Skips "pub struct " ((if m.fields.any (fun f => f.type.isFixedText) then
      [.line ("use " ++ profile.storageRuntime ++ "::FixedText;"), .gap] else []) ++
      doc m.comment ++ deriveItems profile) := by
    refine (Skips.append ?_ ((allLines_doc _).skips _)).append ((allLines_map id _).skips _)
    split <;> simp [Skips]
  rw [recordItems, List.append_assoc, List.append_assoc, blockBody_append hbefore,
    blockBody_block (by simp) (allLines_fieldItems m.fields).balanced, filter_fieldItems]

/-- **The record type of a flat schema.** -/
structure RecordForm (m : FlatSchema) (profile : Profile) : Prop where
  /-- The artifact is made of its items. -/
  body : body? (.flat m) profile .record = some (render (recordItems m profile))
  /-- The members of the type. -/
  members : (blockBody "pub struct " (recordItems m profile)).filter (·.startsWith "pub ") =
    m.fields.map (fun f => .line (memberText f))

theorem recordForm (m : FlatSchema) (profile : Profile) : RecordForm m profile where
  body := body?_of_items? rfl
  members := members_recordItems m profile

/-! ### Messages -/

/-- The comment on a message is made of comments. -/
theorem isComment_of_mem_commentItems {comment : Option String} {item : Item}
    (h : item ∈ commentItems comment) : item.IsComment := by
  cases comment with
  | none => cases h
  | some comment =>
    obtain ⟨line, hline, rfl⟩ := List.mem_map.mp h
    have hfeed : '\n' ∉ Text.trimChars line.toList :=
      fun hin => Text.feed_notMem_of_mem_lines hline ((Text.trimChars_sublist _).subset hin)
    refine ⟨" " ++ Text.trim line, ?_, by simp [hfeed]⟩
    rw [← String.append_assoc]
    rfl

theorem allLines_commentItems (comment : Option String) : AllLines (commentItems comment) :=
  allLines_of_isComment fun _ hi => isComment_of_mem_commentItems hi

/-- The fields of a message with the comments on them. -/
def messageFieldItems (fields : List Field) : List Item :=
  fields.zipIdx.flatMap (fun p => commentItems p.1.comment ++ [messageField p.1 p.2])

theorem allLines_messageFieldItems (fields : List Field) : AllLines (messageFieldItems fields) :=
  allLines_flatMap (fun p : Field × Nat =>
    (allLines_commentItems p.1.comment).append (allLines_singleton _)) fields.zipIdx

theorem zipIdx_map_messageField (fields : List Field) (index : Nat) :
    (fields.zipIdx index).map (fun p => messageField p.1 p.2) =
      (fields.zipIdx (index + 1)).map (fun p => .line (messageLine p.1 p.2)) := by
  induction fields generalizing index with
  | nil => rfl
  | cons f fields ih =>
    rw [List.zipIdx_cons, List.zipIdx_cons, List.map_cons, List.map_cons, ih]
    rfl

/-- The fields are told apart from the comments on them. -/
theorem filter_messageFieldItems (fields : List Field) :
    (messageFieldItems fields).filter (·.startsWith "optional ") =
      (fields.zipIdx 1).map (fun p => .line (messageLine p.1 p.2)) := by
  have hcomment : ∀ p : Field × Nat, ∀ i ∈ commentItems p.1.comment,
      i.startsWith "optional " = false := by
    intro p i hi
    obtain ⟨text, rfl, -⟩ := isComment_of_mem_commentItems hi
    simp
  have hfield : ∀ p : Field × Nat, (messageField p.1 p.2).startsWith "optional " = true := by
    intro p
    simp [messageField]
  rw [messageFieldItems, filter_flatMap_append hcomment hfield, zipIdx_map_messageField]

/-- **The fields of the message** stand for the fields, in order. -/
theorem fields_messageItems (m : FlatSchema) (profile : Profile) :
    (blockBody "message " (messageItems m profile)).filter (·.startsWith "optional ") =
      (m.fields.zipIdx 1).map (fun p => .line (messageLine p.1 p.2)) := by
  have hbody : blockBody "message " (messageItems m profile) = messageFieldItems m.fields := by
    rw [messageItems, blockBody_append (Skips.append (by simp [Skips])
      ((allLines_commentItems m.comment).skips _)), ← List.append_nil (block _ _ _)]
    exact blockBody_block (by simp) (allLines_messageFieldItems m.fields).balanced []
  rw [hbody, filter_messageFieldItems]

/-- **The message of a flat schema.** -/
structure MessageForm (m : FlatSchema) (profile : Profile) : Prop where
  /-- The artifact is made of its items. -/
  body : body? (.flat m) profile .message = some (render (messageItems m profile))
  /-- The fields of the message, tagged from one on. -/
  fields : (blockBody "message " (messageItems m profile)).filter (·.startsWith "optional ") =
    (m.fields.zipIdx 1).map (fun p => .line (messageLine p.1 p.2))

theorem messageForm (m : FlatSchema) (profile : Profile) : MessageForm m profile where
  body := body?_of_items? rfl
  fields := fields_messageItems m profile

/-! ### Tables -/

/-- **The columns of the table** stand for the fields, in order. -/
theorem columns_tableDefinitions (m : FlatSchema) :
    (tableDefinitions m).filter (Text.startsWith · "  `") = m.fields.map columnDefinition := by
  have hcolumns : (m.fields.map columnDefinition).filter (Text.startsWith · "  `") =
      m.fields.map columnDefinition :=
    List.filter_eq_self.mpr (List.forall_mem_map.mpr fun f _ => by simp [columnDefinition])
  have hprimary : (primaryKeyDefinition m).filter (Text.startsWith · "  `") = [] := by
    rw [primaryKeyDefinition]
    split <;> simp
  have hindexes : ((indexFields m).map (indexDefinition m)).filter
      (Text.startsWith · "  `") = [] :=
    List.filter_eq_nil_iff.mpr (List.forall_mem_map.mpr fun fields _ => by simp [indexDefinition])
  rw [tableDefinitions, List.filter_append, List.filter_append, hcolumns, hprimary, hindexes,
    List.append_nil, List.append_nil]

/-- **The primary key of the table** lists the key fields, and is left out if there are none. -/
theorem primaryKey_tableDefinitions (m : FlatSchema) :
    (tableDefinitions m).filter (Text.startsWith · "  PRIMARY KEY (") =
      if m.keyFields = [] then []
      else ["  PRIMARY KEY (" ++ ", ".intercalate (m.keyFields.map keyColumn) ++ ")"] := by
  have hcolumns : (m.fields.map columnDefinition).filter
      (Text.startsWith · "  PRIMARY KEY (") = [] :=
    List.filter_eq_nil_iff.mpr (List.forall_mem_map.mpr fun f _ => by simp [columnDefinition])
  have hindexes : ((indexFields m).map (indexDefinition m)).filter
      (Text.startsWith · "  PRIMARY KEY (") = [] :=
    List.filter_eq_nil_iff.mpr (List.forall_mem_map.mpr fun fields _ => by simp [indexDefinition])
  rw [tableDefinitions, List.filter_append, List.filter_append, hcolumns, hindexes,
    List.append_nil, List.nil_append, primaryKeyDefinition_eq]
  split <;> simp

/-- The keys among the definitions of a table stand for the indexes, in order. -/
theorem keys_tableDefinitions (m : FlatSchema) :
    (tableDefinitions m).filter (Text.startsWith · "  KEY `") =
      (indexFields m).map (indexDefinition m) := by
  have hcolumns : (m.fields.map columnDefinition).filter (Text.startsWith · "  KEY `") = [] :=
    List.filter_eq_nil_iff.mpr (List.forall_mem_map.mpr fun f _ => by simp [columnDefinition])
  have hprimary : (primaryKeyDefinition m).filter (Text.startsWith · "  KEY `") = [] := by
    rw [primaryKeyDefinition]
    split <;> simp
  have hindexes : ((indexFields m).map (indexDefinition m)).filter (Text.startsWith · "  KEY `") =
      (indexFields m).map (indexDefinition m) :=
    List.filter_eq_self.mpr (List.forall_mem_map.mpr fun fields _ => by simp [indexDefinition])
  rw [tableDefinitions, List.filter_append, List.filter_append, hcolumns, hprimary, hindexes,
    List.nil_append, List.nil_append]

/-- The last line of a table. -/
def tableLast (profile : Profile) : String :=
  let options := Text.trim profile.tableOptions
  if options = "" then ");" else ") " ++ options ++ ";"

/-- The table is its definitions between parentheses. -/
theorem tableStatement_eq (m : FlatSchema) (profile : Profile) :
    tableStatement m profile = "CREATE TABLE IF NOT EXISTS `" ++ Text.toUppercase m.name ++
      "` (\n" ++ ",\n".intercalate (definitionTexts m) ++ "\n" ++ tableLast profile ++ "\n" := by
  unfold tableStatement
  rw [tableDefinitions_eq, FlatSchema.table, tableLast]
  simp only [String.isEmpty_iff]

/-- **The table of a flat schema.** -/
structure TableForm (m : FlatSchema) (profile : Profile) : Prop where
  /-- The artifact is a statement around the definitions of the table. -/
  body : body? (.flat m) profile .table = some ("CREATE TABLE IF NOT EXISTS `" ++
    Text.toUppercase m.name ++ "` (\n" ++ ",\n".intercalate (definitionTexts m) ++ "\n" ++
    tableLast profile ++ "\n")
  /-- The definitions. -/
  definitions : tableDefinitions m = definitionTexts m
  /-- The columns among the definitions. -/
  columns : (tableDefinitions m).filter (Text.startsWith · "  `") =
    m.fields.map tableColumn
  /-- The columns of the primary key, which is left out if there are none. -/
  primaryKey : (tableDefinitions m).filter (Text.startsWith · "  PRIMARY KEY (") =
    if m.keyFields = [] then []
    else ["  PRIMARY KEY (" ++ ", ".intercalate (m.keyFields.map keyColumn) ++ ")"]
  /-- The keys of indexes among the definitions. -/
  keys : (tableDefinitions m).filter (Text.startsWith · "  KEY `") =
    (indexFields m).map (indexText m)

theorem tableForm (m : FlatSchema) (profile : Profile) : TableForm m profile where
  body := congrArg some (tableStatement_eq m profile)
  definitions := tableDefinitions_eq m
  columns := columns_tableDefinitions m
  primaryKey := primaryKey_tableDefinitions m
  keys := by rw [keys_tableDefinitions, funext (indexDefinition_eq m)]

/-! ### Statements -/

/-- What stands inside a function. -/
def functionBody (function : String) (items : List Item) : List Item :=
  blockBody ("fn " ++ function ++ "(") items

/-- The statement that separates two others. -/
def separatorLine (separator : String) : Item :=
  .line ("query." ++ separator ++ "();")

/-- The statements of a function without the separators between them. -/
def statements (function separator : String) (items : List Item) : List Item :=
  (functionBody function items).filter (· != separatorLine separator)

theorem mem_separated {separator item : Item} {items : List Item}
    (h : item ∈ separated separator items) : item = separator ∨ item ∈ items := by
  induction items using separated.induct with
  | case1 => exact Or.inr h
  | case2 only => exact Or.inr h
  | case3 first rest hrest ih =>
    rw [separated] at h
    · rcases List.mem_cons.mp h with rfl | hlater
      · exact Or.inr List.mem_cons_self
      · rcases List.mem_cons.mp hlater with rfl | hin
        · exact Or.inl rfl
        · exact (ih hin).imp_right (List.mem_cons_of_mem _)
    · exact hrest

/-- **Leaving out the separators gives the statements back.** -/
theorem filter_separated {separator : Item} {items : List Item} (h : separator ∉ items) :
    (separated separator items).filter (· != separator) = items := by
  induction items using separated.induct with
  | case1 => rfl
  | case2 only =>
    have hne : (only != separator) = true := bne_iff_ne.mpr (Ne.symm (List.ne_of_not_mem_cons h))
    simp [separated, hne]
  | case3 first rest hrest ih =>
    have hne : (first != separator) = true := bne_iff_ne.mpr (Ne.symm (List.ne_of_not_mem_cons h))
    rw [separated, List.filter_cons, if_pos hne, List.filter_cons, if_neg (by simp),
      ih (List.not_mem_of_not_mem_cons h)]
    exact hrest

theorem allLines_separated (separator : String) (push : Field → String) (fields : List Field) :
    AllLines (separated (separatorLine separator) (fields.map (fun f => .line (push f)))) := by
  intro item hitem
  rcases mem_separated hitem with rfl | hin
  · exact ⟨_, rfl⟩
  · exact allLines_map push fields item hin

theorem separatorLine_notMem {separator : String} {push : Field → String}
    (hpush : ∀ f, push f ≠ "query." ++ separator ++ "();") (fields : List Field) :
    separatorLine separator ∉ fields.map (fun f => Item.line (push f)) := by
  intro hin
  obtain ⟨f, -, hf⟩ := List.mem_map.mp hin
  exact hpush f (Item.line.inj hf)

/-- A conversion is a block that opens with the name of its function. -/
theorem pushItems_eq_block (function record separator : String) (fields : List Field)
    (push : Field → String) :
    ∃ rest, pushItems function record separator fields push =
      block ("fn " ++ function ++ "(" ++ rest)
        (separated (separatorLine separator) (fields.map (fun f => .line (push f)))) "\x7d" := by
  refine ⟨parameter "object" fields ++ ": &" ++ record ++ ", " ++ parameter "query" fields ++
    ": &mut Query) \x7b", ?_⟩
  simp only [pushItems, separatorLine, String.append_assoc]

/-- **The statements of a conversion** stand for its fields, in order. -/
theorem statements_pushItems {function record separator : String} {fields : List Field}
    {push : Field → String} (hpush : ∀ f, push f ≠ "query." ++ separator ++ "();")
    (rest : List Item) :
    statements function separator (pushItems function record separator fields push ++ rest) =
      fields.map (fun f => .line (push f)) := by
  obtain ⟨tail, heq⟩ := pushItems_eq_block function record separator fields push
  rw [statements, functionBody, heq, blockBody_block (by simp)
    (allLines_separated _ _ _).balanced, filter_separated (separatorLine_notMem hpush fields)]

/-- The other conversions before a function are passed over. -/
theorem functionBody_pushItems {function other : String}
    (h : ∀ rest, Text.startsWith ("fn " ++ other ++ "(" ++ rest) ("fn " ++ function ++ "(") = false)
    (record separator : String) (fields : List Field) (push : Field → String) (rest : List Item) :
    functionBody function (pushItems other record separator fields push ++ ([.gap] ++ rest)) =
      functionBody function rest := by
  obtain ⟨tail, heq⟩ := pushItems_eq_block other record separator fields push
  rw [functionBody, heq]
  exact blockBody_append_gap
    (skips_block (h tail) ((allLines_separated separator push fields).skips _)) rest

/-! ### Descriptors -/

/-- The functions of a descriptor, one behind the other, up to its end. -/
def functionItems (m : FlatSchema) : List Item :=
  pushItems "object_to_query" m.name "push_separator" m.fields pushValue ++
    ([.gap] ++ (pushItems "pairs_to_query" m.name "push_separator" m.fields pushAssign ++
    ([.gap] ++ (pushItems "keys_to_query" m.name "push_key_separator" m.keyFields pushAssign ++
    ([.gap] ++ (rowItems m.name m.fields ++ [.closing "\x7d"]))))))

/-- The descriptor is gone through up to its columns. -/
theorem blockBody_descriptorItems {start : String} (m : FlatSchema) (profile : Profile)
    (h : ∀ rest, Text.startsWith ("impl StorageDescriptor for " ++ rest) start = false) :
    blockBody start (descriptorItems m profile) = blockBody start
      (block "const COLUMNS: &'static [Column] = &[" (m.fields.map columnLine) "];" ++
        ([.gap] ++ functionItems m)) := by
  rw [descriptorItems, blockBody_append (by simp [Skips]), String.append_assoc,
    blockBody_into (h _), functionItems]
  -- inside the enclosing block, the lines in front of the columns open no block
  simp only [List.append_assoc]
  rw [blockBody_append (by simp [Skips])]

/-- **The columns of the descriptor** stand for the fields, in order. -/
theorem columns_descriptorItems (m : FlatSchema) (profile : Profile) :
    blockBody "const COLUMNS" (descriptorItems m profile) = m.fields.map columnLine := by
  rw [blockBody_descriptorItems m profile (by simp)]
  exact blockBody_block (by decide) (allLines_map _ m.fields).balanced _

/-- The columns are passed over. -/
theorem functionBody_descriptorItems (function : String) (m : FlatSchema) (profile : Profile) :
    functionBody function (descriptorItems m profile) =
      functionBody function (functionItems m) := by
  have hcolumns : Skips ("fn " ++ function ++ "(")
      (block "const COLUMNS: &'static [Column] = &[" (m.fields.map columnLine) "];") :=
    skips_block (by simp) ((allLines_map _ m.fields).skips _)
  rw [functionBody, blockBody_descriptorItems m profile (by simp), blockBody_append_gap hcolumns]
  rfl

theorem pushValue_ne_separator (f : Field) :
    pushValue f ≠ "query." ++ "push_separator" ++ "();" := by
  -- the names of the two calls differ from the separator in the letter behind `push_`
  rw [pushValue]
  split <;> exact fun h => absurd (congrArg String.toList h) (by simp)

theorem pushAssign_ne {separator : String}
    (h : Text.startsWith ("query." ++ separator ++ "();") "query.push_assign" = false) (f : Field) :
    pushAssign f ≠ "query." ++ separator ++ "();" := by
  have hstart : Text.startsWith (pushAssign f) "query.push_assign" = true := by
    rw [pushAssign]
    split <;> simp
  intro heq
  rw [heq, h] at hstart
  cases hstart

/-- **The values of the descriptor** are pushed in the order of the fields. -/
theorem values_descriptorItems (m : FlatSchema) (profile : Profile) :
    statements "object_to_query" "push_separator" (descriptorItems m profile) =
      m.fields.map (fun f => .line (valueStatement f)) := by
  rw [statements, functionBody_descriptorItems, functionItems, ← statements,
    statements_pushItems pushValue_ne_separator]
  simp only [pushValue_eq]

/-- **The assignments of the descriptor** are pushed in the order of the fields. -/
theorem assignments_descriptorItems (m : FlatSchema) (profile : Profile) :
    statements "pairs_to_query" "push_separator" (descriptorItems m profile) =
      m.fields.map (fun f => .line (assignStatement f)) := by
  rw [statements, functionBody_descriptorItems, functionItems, functionBody_pushItems (by simp),
    ← statements, statements_pushItems (pushAssign_ne (by decide))]
  simp only [pushAssign_eq]

/-- **The assignments of the key** are pushed in the order of the key fields. -/
theorem keys_descriptorItems (m : FlatSchema) (profile : Profile) :
    statements "keys_to_query" "push_key_separator" (descriptorItems m profile) =
      m.keyFields.map (fun f => .line (assignStatement f)) := by
  rw [statements, functionBody_descriptorItems, functionItems, functionBody_pushItems (by simp),
    functionBody_pushItems (by simp), ← statements,
    statements_pushItems (pushAssign_ne (by decide))]
  simp only [pushAssign_eq]

theorem startsWith_readStatement (f : Field) (index : Nat) :
    Text.startsWith (readStatement f index) "object." = true := by
  rw [readStatement]
  split <;> simp

theorem filter_readStatements (fields : List Field) :
    (fields.zipIdx.map (fun p => Item.line (readStatement p.1 p.2))).filter
        (·.startsWith "object.") =
      fields.zipIdx.map (fun p => .line (readStatement p.1 p.2)) :=
  List.filter_eq_self.mpr (List.forall_mem_map.mpr fun p _ => startsWith_readStatement p.1 p.2)

/-- A row is measured before it is read. -/
def measureItems : List Item :=
  block "if row.len() != Self::COLUMNS.len() \x7b"
    (block "return Err(DecodeError::FieldCount \x7b"
      [.line "expected: Self::COLUMNS.len(),", .line "actual: row.len(),"] "\x7d);")
    "\x7d"

theorem rowItems_eq_block (record : String) (fields : List Field) :
    ∃ rest, rowItems record fields = block ("fn row_to_object(" ++ rest)
      (measureItems ++ fields.zipIdx.map (fun p => .line (readStatement p.1 p.2)) ++
        [.line "Ok(())"]) "\x7d" := by
  refine ⟨"row: &Row, " ++ parameter "object" fields ++ ": &mut " ++ record ++
    ") -> Result<(), DecodeError> \x7b", ?_⟩
  have hsignature : "fn row_to_object(row: &Row, " = "fn row_to_object(" ++ "row: &Row, " := rfl
  rw [rowItems, measureItems, hsignature]
  simp only [String.append_assoc]

/-- **The values of a row** are read in the order of the fields. -/
theorem reads_rowItems (record : String) (fields : List Field) (rest : List Item) :
    (functionBody "row_to_object" (rowItems record fields ++ rest)).filter
        (·.startsWith "object.") =
      fields.zipIdx.map (fun p => .line (readStatement p.1 p.2)) := by
  obtain ⟨signature, heq⟩ := rowItems_eq_block record fields
  have hmeasure : Balanced measureItems :=
    balanced_block (balanced_block ((allLines_singleton _).append (allLines_singleton _)).balanced)
  have hreads := allLines_map (fun p : Field × Nat => readStatement p.1 p.2) fields.zipIdx
  rw [functionBody, heq, blockBody_block (by simp)
    ((hmeasure.append hreads.balanced).append (allLines_singleton _).balanced),
    List.filter_append, List.filter_append, filter_readStatements]
  simp [measureItems, block]

theorem reads_descriptorItems (m : FlatSchema) (profile : Profile) :
    (functionBody "row_to_object" (descriptorItems m profile)).filter (·.startsWith "object.") =
      m.fields.zipIdx.map (fun p => .line (rowStatement p.1 p.2)) := by
  rw [functionBody_descriptorItems, functionItems, functionBody_pushItems (by simp),
    functionBody_pushItems (by simp), functionBody_pushItems (by simp), reads_rowItems]
  simp only [readStatement_eq]

/-- **The keys of the descriptor** list the key fields. -/
theorem keyNames_descriptorItems (m : FlatSchema) (profile : Profile) :
    (descriptorItems m profile).find? (·.startsWith "const KEYS") = some (.line
      ("const KEYS: &'static [&'static str] = &[" ++ quotedColumns m.keyFields ++ "];")) := by
  simp [descriptorItems, block]

/-- The line of the descriptor that lists the indexes. -/
theorem indexColumns_descriptorItems (m : FlatSchema) (profile : Profile) :
    (descriptorItems m profile).find? (·.startsWith "const INDEXES") = some (.line
      ("const INDEXES: &'static [&'static [&'static str]] = &[" ++
        ", ".intercalate ((indexFields m).map fun fields => "&[" ++ quotedColumns fields ++ "]") ++
        "];")) := by
  simp [descriptorItems, block]

/-- **The storage descriptor of a flat schema.** -/
structure DescriptorForm (m : FlatSchema) (profile : Profile) : Prop where
  /-- The artifact is made of its items. -/
  body : body? (.flat m) profile .storage = some (render (descriptorItems m profile))
  /-- The names of the key. -/
  keyNames : (descriptorItems m profile).find? (·.startsWith "const KEYS") = some (.line
    ("const KEYS: &'static [&'static str] = &[" ++
      ", ".intercalate (m.keyFields.map (fun f => Text.quote (Text.toUppercase f.name))) ++ "];"))
  /-- The names of the indexes. -/
  indexNames : (descriptorItems m profile).find? (·.startsWith "const INDEXES") = some (.line
    ("const INDEXES: &'static [&'static [&'static str]] = &[" ++
      ", ".intercalate ((indexFields m).map (fun fields => "&[" ++ ", ".intercalate
        (fields.map (fun f => Text.quote (Text.toUppercase f.name))) ++ "]")) ++ "];"))
  /-- The columns. -/
  columns : blockBody "const COLUMNS" (descriptorItems m profile) =
    m.fields.map (fun f => .line (columnText f))
  /-- The statements that push the values. -/
  values : statements "object_to_query" "push_separator" (descriptorItems m profile) =
    m.fields.map (fun f => .line (valueStatement f))
  /-- The statements that push the assignments. -/
  assigns : statements "pairs_to_query" "push_separator" (descriptorItems m profile) =
    m.fields.map (fun f => .line (assignStatement f))
  /-- The statements that push the assignments of the key. -/
  keyAssigns : statements "keys_to_query" "push_key_separator" (descriptorItems m profile) =
    m.keyFields.map (fun f => .line (assignStatement f))
  /-- The statements that read a row, with the place in the row. -/
  reads :
    (functionBody "row_to_object" (descriptorItems m profile)).filter (·.startsWith "object.") =
    m.fields.zipIdx.map (fun p => .line (rowStatement p.1 p.2))

theorem descriptorForm (m : FlatSchema) (profile : Profile) : DescriptorForm m profile where
  body := body?_of_items? rfl
  keyNames := keyNames_descriptorItems m profile
  indexNames := indexColumns_descriptorItems m profile
  columns := columns_descriptorItems m profile
  values := values_descriptorItems m profile
  assigns := assignments_descriptorItems m profile
  keyAssigns := keys_descriptorItems m profile
  reads := reads_descriptorItems m profile

/-! ### Conversions of messages -/

theorem startsWith_fromMessage (f : Field) : Text.startsWith (fromMessage f) "record." = true := by
  rw [fromMessage]
  split
  · simp
  · simp
  · simp
  · split <;> simp

/-- **The values of the message** are taken from the members, in order. -/
theorem values_messageGlueItems (m : FlatSchema) (profile : Profile) :
    blockBody "Self \x7b" (messageGlueItems m profile) = m.fields.map (fun f =>
      .line (Name.memberIdent f.name ++ ": Some(" ++ toMessage f ++ "),")) := by
  rw [messageGlueItems, List.append_assoc, List.append_assoc, blockBody_append (by simp [Skips]),
    toMessageItems, blockBody_into_append (by simp),
    blockBody_into_append (by simp)]
  exact blockBody_block (by decide) (allLines_map _ m.fields).balanced _

/-- The conversion to the message is passed over. -/
theorem skips_toMessageItems (m : FlatSchema) : Skips "fn from(message" (toMessageItems m) := by
  refine skips_block (by simp) (skips_block ?_
    (skips_block (by decide) ((allLines_map _ m.fields).skips _)))
  split <;> simp

/-- **The members of the record** are set from the message, in order. -/
theorem statements_messageGlueItems (m : FlatSchema) (profile : Profile) :
    (blockBody "fn from(message" (messageGlueItems m profile)).filter (·.startsWith "record.") =
      m.fields.map (fun f => .line (fromMessage f)) := by
  rw [messageGlueItems, List.append_assoc, List.append_assoc, blockBody_append (by simp [Skips]),
    blockBody_append_gap (skips_toMessageItems m), fromMessageItems,
    blockBody_into (by simp)]
  cases hfields : m.fields with
  | nil =>
    -- without fields the message is not used, and its name says so
    simp [block, blockBody]
  | cons f fields =>
    have hset : ((f :: fields).map (fun f => Item.line (fromMessage f))).filter
        (·.startsWith "record.") = (f :: fields).map (fun f => .line (fromMessage f)) :=
      List.filter_eq_self.mpr (List.forall_mem_map.mpr fun g _ => startsWith_fromMessage g)
    rw [List.isEmpty_cons, if_neg Bool.false_ne_true, if_neg Bool.false_ne_true,
      blockBody_block (by simp)
        (((allLines_singleton _).append (allLines_map _ _)).append (allLines_singleton _)).balanced,
      List.filter_append, List.filter_append, hset]
    simp

/-- **The conversions between the records and the messages of a flat schema.** -/
structure GlueForm (m : FlatSchema) (profile : Profile) : Prop where
  /-- The artifact is made of its items. -/
  body : body? (.flat m) profile .messageGlue = some (render (messageGlueItems m profile))
  /-- The values that the message takes from the record. -/
  values : blockBody "Self \x7b" (messageGlueItems m profile) = m.fields.map (fun f =>
    .line (Name.memberIdent f.name ++ ": Some(" ++ toMessage f ++ "),"))
  /-- The statements that set the members of the record. -/
  statements :
    (blockBody "fn from(message" (messageGlueItems m profile)).filter (·.startsWith "record.") =
    m.fields.map (fun f => .line (fromMessage f))

theorem glueForm (m : FlatSchema) (profile : Profile) : GlueForm m profile where
  body := body?_of_items? rfl
  values := values_messageGlueItems m profile
  statements := statements_messageGlueItems m profile

end SchemaCompiler.Artifact
