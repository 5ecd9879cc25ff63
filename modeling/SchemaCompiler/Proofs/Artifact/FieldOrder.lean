import SchemaCompiler.Proofs.Artifact.FieldLines
import SchemaCompiler.Proofs.Strict
import SchemaCompiler.Proofs.Value.Query

/-!
# One order of fields

The artifacts of a flat schema and the records of it all go through the fields of the schema, each
in its own way. A generated record is only of use if they agree: a value that is pushed in third
place must meet the third column. The artifacts are read by their items, which are those that their
bodies are laid out from (`SchemaCompiler.Artifact.FieldOrder`), and the order of the fields is the
same everywhere (`SchemaCompiler.Artifact.fieldOrder_of_reachable`).

Read by its lines, an artifact has one for each field only where no name breaks one. A name is not
checked for this: with a line feed in it, a message gets more fields than the schema has
(`SchemaCompiler.Artifact.messageLines_brokenHero`).
-/

namespace SchemaCompiler.Artifact

open Item

/-! ### Quoted values -/

theorem startsWith_valueStatement_quoted (f : Field) :
    Text.startsWith (valueStatement f) "query.push_quoted(" = f.type.isQuoted := by
  rw [valueStatement, Primitive.isQuoted]
  cases f.type.kind <;> simp

theorem startsWith_assignStatement_quoted (f : Field) :
    Text.startsWith (assignStatement f) "query.push_assign_quoted(" = f.type.isQuoted := by
  rw [assignStatement, Primitive.isQuoted]
  cases f.type.kind <;> simp

/-- **An item of the list of values is quoted where the type of its field is.** -/
theorem isQuotedItem_listItems {m : FlatSchema} {r : Record} (h : r.Fitting m) :
    (Query.listItems r.valueList).map Query.isQuotedItem =
      m.fields.map (fun f => f.type.isQuoted) := by
  rw [Record.listItems_valueList, ← h.map_fst_pairs, List.map_map, List.map_map]
  refine List.map_congr_left fun p hp => ?_
  exact (FieldValue.isQuotedItem_literal p.2).trans
    (FieldValue.isQuoted_of_fits (h.fits_of_mem_pairs hp))

/-! ### One order -/

/-- **The artifacts of a schema and a record of it agree on one order of the fields**, and on one
order of the key fields. -/
structure FieldOrder (m : FlatSchema) (profile : Profile) (r : Record) : Prop where
  /-- The members of the record type. -/
  record : RecordForm m profile
  /-- The columns, the statements and the key of the descriptor. -/
  descriptor : DescriptorForm m profile
  /-- The columns and the primary key of the table. -/
  table : TableForm m profile
  /-- The fields of the message. -/
  message : MessageForm m profile
  /-- The values of the record. -/
  pairs : r.pairs.map Prod.fst = m.fields
  /-- The items of the list of values. -/
  values : Query.listItems r.valueList = r.pairs.map (fun p => p.2.literal)
  /-- The items of the list of assignments. -/
  assignments : r.assignmentList = ", ".intercalate (List.zipWith
    (fun f item => f.column ++ " = " ++ item) m.fields (Query.listItems r.valueList))
  /-- A value is pushed quoted where the item of the list of values is quoted. -/
  quotedPushes : (statements "object_to_query" "push_separator" (descriptorItems m profile)).map
      (·.startsWith "query.push_quoted(") =
    (Query.listItems r.valueList).map Query.isQuotedItem
  /-- An assignment is pushed quoted where the item of the list of values is quoted. -/
  quotedAssigns : (statements "pairs_to_query" "push_separator" (descriptorItems m profile)).map
      (·.startsWith "query.push_assign_quoted(") =
    (Query.listItems r.valueList).map Query.isQuotedItem
  /-- The items of the assignments of the key. -/
  keyAssignments : ∃ items, r.keyAssignments = " AND ".intercalate items ∧
    List.Forall₂ (fun (f : Field) item => ∃ v, r.get? f.name = some v ∧
      item = f.column ++ " = " ++ v.literal) m.keyFields items

/-- **Every record that can be reached agrees with the artifacts of its schema on the order of the
fields.** The lines of the artifacts are in this order, one for each field, exactly if no name of a
field has a line feed. -/
theorem fieldOrder_of_reachable (m : FlatSchema) (profile : Profile) {r : Record}
    (h : Record.Reachable m r) :
    FieldOrder m profile r ∧
      (OneLine m profile → (FieldLines m profile ↔ ∀ f ∈ m.fields, '\n' ∉ f.name.toList)) where
  left :=
    { record := recordForm m profile
      descriptor := descriptorForm m profile
      table := tableForm m profile
      message := messageForm m profile
      pairs := h.fitting.map_fst_pairs
      values := Record.listItems_valueList r
      assignments := h.fitting.assignmentList_eq
      quotedPushes := by
        rw [values_descriptorItems, isQuotedItem_listItems h.fitting, List.map_map]
        exact List.map_congr_left fun f _ => startsWith_valueStatement_quoted f
      quotedAssigns := by
        rw [assignments_descriptorItems, isQuotedItem_listItems h.fitting, List.map_map]
        exact List.map_congr_left fun f _ => startsWith_assignStatement_quoted f
      keyAssignments := h.fitting.keyAssignments_eq }
  right := fieldLines_iff

/-- A player whose key lists a field twice and a name that is no field. -/
def playerSchema : FlatSchema where
  name := "player"
  fields :=
    [⟨"name", Primitive.bounded 6, some 6, some "optional title"⟩,
     ⟨"level", Primitive.integer "uint8" 8 false "u8" "uint32" "tinyint(3)", none, none⟩,
     ⟨"motto", Primitive.bounded 16, some 16, none⟩]
  keys := ["level", "rank", "name", "level"]

theorem oneLine_playerSchema : OneLine playerSchema {} where
  name := by decide
  types := by
    have hsix : Primitive.resolve? "char6" = some (Primitive.bounded 6) := by decide
    have hlevel : Primitive.resolve? "uint8" =
        some (Primitive.integer "uint8" 8 false "u8" "uint32" "tinyint(3)") := by decide
    have hsixteen : Primitive.resolve? "char16" = some (Primitive.bounded 16) := by decide
    simp only [playerSchema, List.forall_mem_cons]
    exact ⟨⟨_, hsix⟩, ⟨_, hlevel⟩, ⟨_, hsixteen⟩, nofun⟩
  profile := Profile.oneLine_default

/-- A player that was read from a row and renamed, with quotes and a comma in its values. -/
theorem fieldOrder_player :
    let r : Record := ⟨playerSchema, [.text "O\x27Neil", .uint 7, .text "it\x27s, a"]⟩
    Record.Reachable playerSchema r ∧ FieldOrder playerSchema {} r ∧
      OneLine playerSchema {} ∧ FieldLines playerSchema {} ∧
      Query.listItems r.valueList =
        ["\x27O\x27\x27Neil\x27", "7", "\x27it\x27\x27s, a\x27"] ∧
      (Query.listItems r.valueList).map Query.isQuotedItem = [true, false, true] := by
  have hrow : Record.ofRow playerSchema ["Ann", "7", "it\x27s, a"] =
      .ok ⟨playerSchema, [.text "Ann", .uint 7, .text "it\x27s, a"]⟩ := by decide
  -- the new name has one byte too many, and is cut
  have hset : Record.set ⟨playerSchema, [.text "Ann", .uint 7, .text "it\x27s, a"]⟩ "name"
      (.text "O\x27Neill") =
      .ok ⟨playerSchema, [.text "O\x27Neil", .uint 7, .text "it\x27s, a"]⟩ := by decide
  have hreach := (Record.Reachable.ofRow hrow).set hset
  obtain ⟨horder, hlines⟩ := fieldOrder_of_reachable playerSchema {} hreach
  have hitems := horder.values
  refine ⟨hreach, horder, oneLine_playerSchema, (hlines oneLine_playerSchema).mpr (by decide),
    hitems.trans (by decide), ?_⟩
  rw [hitems]
  decide

/-- A hero with one field, whose name breaks its line. -/
def brokenHero : FlatUnit where
  name := "Hero"
  entries := [⟨"x = 1;\n    optional int32 y", .scalar "int32"⟩]

/-- **A message with a field too many.** The hero is accepted under the strict policy without a word
and has one field; its message has two, and both have the tag one. -/
theorem messageLines_brokenHero :
    let m := (FlatSchema.build brokenHero).schema
    (SchemaUnit.ofFlat brokenHero "").compile .strict = .ok ⟨.flat m, []⟩ ∧
      m.fields.length = 1 ∧
      (emittedLines (.flat m) {} .message).filter (Text.startsWith · "    optional ") =
        ["    optional int32 x = 1;", "    optional int32 y = 1;"] ∧
      ¬FieldLines m {} := by
  intro m
  have hclean : (FlatSchema.build brokenHero).diagnostics = [] := by decide
  have hcompile : (SchemaUnit.ofFlat brokenHero "").compile .strict =
      .ok (SchemaUnit.ofFlat brokenHero "").build :=
    SchemaUnit.compile_strict_of_decide (by decide) (by decide)
  have hfields : m.fields.length = 1 := by decide
  have hlines : (emittedLines (.flat m) {} .message).filter (Text.startsWith · "    optional ") =
      ["    optional int32 x = 1;", "    optional int32 y = 1;"] := by decide +kernel
  refine ⟨?_, hfields, hlines, fun hall => ?_⟩
  · rw [hcompile, SchemaUnit.build, SchemaUnit.ofFlat, ← hclean]
  · have hlength := congrArg List.length (hlines.symm.trans hall.message)
    rw [List.length_map, List.length_zipIdx, hfields] at hlength
    cases hlength

end SchemaCompiler.Artifact
