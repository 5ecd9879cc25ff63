import Mathlib.Data.List.Nodup
import SchemaCompiler.Proofs.Artifact.Forms
import SchemaCompiler.Proofs.Name.Words
import SchemaCompiler.Proofs.Schema.Fields
import SchemaCompiler.Proofs.Strict

/-!
# Names in the artifacts of a flat schema

No two fields of a flat schema have the same name, but the artifacts do not use the names as they
are. A member goes by the identifier of the name, a column by the name in capitals, and the key of
an index by the columns of the index with underscores between them. Each of these forgets something,
and what it forgets is said here: two members are the same if the lowered words of the names are,
two columns if the names are the same in capitals, and two keys of a table if their columns, cut at
underscores, give the same pieces (`SchemaCompiler.Artifact.nodup_names_iff`).

A name that is plain, that is, in lower case with its words between underscores, can be told from
its member and from its column. Keys of indexes need more: there the names must have no underscores
at all.
-/

namespace SchemaCompiler

namespace Text

/-! ### Texts joined by underscores -/

/-- The pieces of texts between underscores, one text after another. -/
def pieces (texts : List String) : List (List Char) :=
  texts.flatMap (fun s => s.toList.splitOn '_')

/-- **A joined text is cut into the pieces of its parts.** -/
theorem splitOn_intercalate_underscore {texts : List String} (h : texts ≠ []) :
    ("_".intercalate texts).toList.splitOn '_' = pieces texts := by
  have hmark : "_".toList = ['_'] := rfl
  rw [String.toList_intercalate, hmark]
  induction texts with
  | nil => exact absurd rfl h
  | cons first texts ih =>
    cases texts with
    | nil => simp [pieces]
    | cons second texts =>
      have hrest := ih (List.cons_ne_nil _ _)
      rw [List.map_cons, List.map_cons, List.intercalate_cons_cons, ← List.map_cons,
        List.append_assoc, List.singleton_append, List.splitOn_append_cons_self, hrest]
      rfl

theorem intercalate_underscore_eq_iff {a b : List String} (ha : a ≠ []) (hb : b ≠ []) :
    "_".intercalate a = "_".intercalate b ↔ pieces a = pieces b := by
  rw [← splitOn_intercalate_underscore ha, ← splitOn_intercalate_underscore hb]
  constructor
  · intro h
    rw [h]
  · intro h
    have hjoined := congrArg ['_'].intercalate h
    rw [List.intercalate_splitOn, List.intercalate_splitOn] at hjoined
    exact String.toList_inj.mp hjoined

/-- Texts without underscores are their own pieces. -/
theorem pieces_of_notMem {texts : List String} (h : ∀ s ∈ texts, '_' ∉ s.toList) :
    pieces texts = texts.map String.toList := by
  have hpiece : ∀ s ∈ texts, s.toList.splitOn '_' = [s.toList] := by
    intro s hs
    have hsplit := List.splitOn_intercalate '_'
      (List.forall_mem_singleton.mpr (h s hs)) (List.cons_ne_nil s.toList [])
    rwa [List.intercalate_singleton] at hsplit
  rw [pieces, List.flatMap_congr hpiece]
  exact List.flatMap_pure_eq_map String.toList texts

end Text

namespace Name

open Text

/-! ### Plain names -/

/-- Whether a character can stand in a plain name. -/
def isPlainChar (c : Char) : Bool :=
  c.isLower || c.isDigit || c == '_'

/-- **A name is plain** if it is in lower case, with its words between underscores. -/
structure Plain (name : String) : Prop where
  /-- Lower-case Latin letters, digits and underscores are all it has. -/
  chars : name.toList.all isPlainChar = true
  /-- Snake-casing changes nothing. -/
  snake : snakeCase name = name

instance (name : String) : Decidable (Plain name) :=
  decidable_of_iff (name.toList.all isPlainChar = true ∧ snakeCase name = name)
    ⟨fun h => ⟨h.1, h.2⟩, fun h => ⟨h.chars, h.snake⟩⟩

theorem toNat_lt_of_isPlainChar {c : Char} (h : isPlainChar c = true) : c.toNat < 128 := by
  simp only [isPlainChar, Bool.or_eq_true, beq_iff_eq] at h
  rcases h with (hlower | hdigit) | rfl
  · have hle : c.toNat ≤ 122 := of_decide_eq_true (Bool.and_eq_true_iff.mp hlower).2
    omega
  · have hle : c.toNat ≤ 57 := of_decide_eq_true (Bool.and_eq_true_iff.mp hdigit).2
    omega
  · decide

/-- A plain character is given back by its capital. -/
theorem toLower_toUpper_of_isPlainChar {c : Char} (h : isPlainChar c = true) :
    c.toUpper.toLower = c :=
  of_lt_128 (P := fun c => isPlainChar c = true → c.toUpper.toLower = c) (by decide +kernel)
    (toNat_lt_of_isPlainChar h) h

theorem upperForm_of_isPlainChar {c : Char} (h : isPlainChar c = true) :
    upperForm c = [c.toUpper] := by
  rw [upperForm, if_pos (toNat_lt_of_isPlainChar h)]

namespace Plain

variable {name other : String}

theorem toList_toUppercase (h : Plain name) :
    (toUppercase name).toList = name.toList.map Char.toUpper := by
  have hforms : ∀ c ∈ name.toList, upperForm c = [c.toUpper] :=
    fun c hc => upperForm_of_isPlainChar (List.all_eq_true.mp h.chars c hc)
  rw [toUppercase, String.toList_ofList, List.flatMap_congr hforms]
  exact List.flatMap_pure_eq_map Char.toUpper name.toList

/-- **A plain name is given back by its capitals.** -/
theorem map_toLower_toUppercase (h : Plain name) :
    (toUppercase name).toList.map Char.toLower = name.toList := by
  rw [h.toList_toUppercase, List.map_map]
  refine (List.map_congr_left fun c hc => ?_).trans (List.map_id _)
  exact toLower_toUpper_of_isPlainChar (List.all_eq_true.mp h.chars c hc)

theorem eq_of_toUppercase_eq (h : Plain name) (h' : Plain other)
    (heq : toUppercase name = toUppercase other) : name = other := by
  rw [← String.toList_inj, ← h.map_toLower_toUppercase, heq, h'.map_toLower_toUppercase]

/-- **A plain name is given back by its identifier.** -/
theorem eq_of_loweredWords_eq (h : Plain name) (h' : Plain other)
    (heq : loweredWords name = loweredWords other) : name = other := by
  rw [← h.snake, snakeCase_eq_iff.mpr heq, h'.snake]

theorem underscore_notMem_toUppercase (h : Plain name) (hname : '_' ∉ name.toList) :
    '_' ∉ (toUppercase name).toList := by
  intro hmem
  have hlower := List.mem_map_of_mem (f := Char.toLower) hmem
  rw [h.map_toLower_toUppercase] at hlower
  exact hname hlower

end Plain

end Name

namespace Artifact

open Item

/-! ### Names as they stand in the artifacts -/

/-- The name of the key of an index. -/
def keyName (m : FlatSchema) (index : List String) : String :=
  "IDX_" ++ m.table ++ "_" ++ "_".intercalate (index.map Text.toUppercase)

/-- **The names in the record type and in the table of a schema**, as they stand there. -/
structure EmittedNames (m : FlatSchema) (profile : Profile) : Prop where
  /-- The members of the record type. -/
  record : RecordForm m profile
  /-- The columns of the table. -/
  table : TableForm m profile
  /-- The keys of the table, one for each index. -/
  keys : (tableDefinitions m).filter (Text.startsWith · "  KEY `") =
    m.indexes.map (fun index => "  KEY `" ++ keyName m index ++ "` (" ++
      ", ".intercalate ((m.fieldsNamed index).map keyColumn) ++ ")")

/-- Where all names are declared, no index is left out of the table. -/
theorem indexFields_of_declared {m : FlatSchema} (h : m.Sound) (hdeclared : m.undeclared? = none) :
    indexFields m = m.indexes.map m.fieldsNamed ∧
      ∀ index ∈ m.indexes, (m.fieldsNamed index).map Field.name = index := by
  have hnames : ∀ index ∈ m.indexes, (m.fieldsNamed index).map Field.name = index :=
    fun index hindex => FlatSchema.map_name_fieldsNamed fun name hname =>
      FlatSchema.isSome_field?_of_mem_indexes hdeclared hindex hname
  refine ⟨List.filter_eq_self.mpr fun fields hfields => ?_, hnames⟩
  obtain ⟨index, hindex, rfl⟩ := List.mem_map.mp hfields
  cases hempty : (m.fieldsNamed index).isEmpty with
  | false => rfl
  | true =>
    refine absurd ?_ (h.indexes index hindex)
    rw [← hnames index hindex, List.isEmpty_iff.mp hempty, List.map_nil]

theorem emittedNames_of_declared {m : FlatSchema} (h : m.Sound) (hdeclared : m.undeclared? = none)
    (profile : Profile) : EmittedNames m profile where
  record := recordForm m profile
  table := tableForm m profile
  keys := by
    obtain ⟨hindexes, hnames⟩ := indexFields_of_declared h hdeclared
    rw [(tableForm m profile).keys, hindexes, List.map_map]
    refine List.map_congr_left fun index hindex => ?_
    have hcolumns : (m.fieldsNamed index).map (fun f => Text.toUppercase f.name) =
        index.map Text.toUppercase := by
      conv_rhs => rw [← hnames index hindex, List.map_map]
      rfl
    rw [Function.comp_apply, indexText, hcolumns, keyName, FlatSchema.table]

/-! ### Names that clash -/

theorem keyName_eq_iff (m : FlatSchema) {a b : List String} (ha : a ≠ []) (hb : b ≠ []) :
    keyName m a = keyName m b ↔
      Text.pieces (a.map Text.toUppercase) = Text.pieces (b.map Text.toUppercase) := by
  rw [keyName, keyName, String.append_right_inj]
  exact Text.intercalate_underscore_eq_iff (mt List.map_eq_nil_iff.mp ha)
    (mt List.map_eq_nil_iff.mp hb)

theorem sound_of_compile {unit : SchemaUnit} {policy : Policy} {m : FlatSchema}
    {ds : List Diagnostic} (h : unit.compile policy = .ok ⟨.flat m, ds⟩) :
    m.Sound ∧ m.undeclared? = none := by
  obtain ⟨hbuild, hdeclared⟩ := SchemaUnit.build_of_compile h
  rw [← hbuild] at hdeclared
  refine ⟨?_, hdeclared⟩
  rw [SchemaUnit.build] at hbuild
  cases hsource : unit.source with
  | flat flat =>
    rw [hsource] at hbuild
    cases hbuild
    exact FlatSchema.sound_build flat
  | tree root =>
    rw [hsource] at hbuild
    cases hbuild

/-- Different indexes over plain names without underscores have different keys. -/
theorem eq_of_pieces_eq {a b : List String} (ha : ∀ name ∈ a, Name.Plain name ∧ '_' ∉ name.toList)
    (hb : ∀ name ∈ b, Name.Plain name ∧ '_' ∉ name.toList)
    (h : Text.pieces (a.map Text.toUppercase) = Text.pieces (b.map Text.toUppercase)) : a = b := by
  have hback : ∀ names : List String, (∀ name ∈ names, Name.Plain name ∧ '_' ∉ name.toList) →
      (Text.pieces (names.map Text.toUppercase)).map (fun cs => String.ofList (cs.map Char.toLower))
        = names := by
    intro names hnames
    rw [Text.pieces_of_notMem, List.map_map, List.map_map]
    · refine (List.map_congr_left fun name hname => ?_).trans (List.map_id _)
      rw [Function.comp_apply, Function.comp_apply, (hnames name hname).1.map_toLower_toUppercase,
        String.ofList_toList, id_eq]
    · intro s hs
      obtain ⟨name, hname, rfl⟩ := List.mem_map.mp hs
      exact (hnames name hname).1.underscore_notMem_toUppercase (hnames name hname).2
  rw [← hback a ha, h, hback b hb]

/-- **When the names in the artifacts of a flat unit are different.** A unit that compiles has a
member and a column for each field and a key for each index. Two members are the same only where
different names have the same lowered words, two columns only where different names are the same in
capitals, and two keys only where different indexes have the same pieces; if all names are plain,
members and columns are different, and so are the keys of indexes over names without underscores. -/
theorem nodup_names_iff {unit : SchemaUnit} {policy : Policy} {m : FlatSchema}
    {ds : List Diagnostic} (h : unit.compile policy = .ok ⟨.flat m, ds⟩) (profile : Profile) :
    let names := m.fields.map Field.name
    let members := names.map Name.memberIdent
    let columns := names.map Text.toUppercase
    let keys := m.indexes.map (keyName m)
    EmittedNames m profile ∧
      (members.Nodup ↔
        ∀ a ∈ names, ∀ b ∈ names, Name.loweredWords a = Name.loweredWords b → a = b) ∧
      (columns.Nodup ↔
        ∀ a ∈ names, ∀ b ∈ names, Text.toUppercase a = Text.toUppercase b → a = b) ∧
      (m.indexes.Nodup → (keys.Nodup ↔ ∀ a ∈ m.indexes, ∀ b ∈ m.indexes,
        Text.pieces (a.map Text.toUppercase) = Text.pieces (b.map Text.toUppercase) → a = b)) ∧
      ((∀ name ∈ names, Name.Plain name) → members.Nodup ∧ columns.Nodup ∧
        (m.indexes.Nodup → (∀ index ∈ m.indexes, ∀ name ∈ index, '_' ∉ name.toList) →
          keys.Nodup)) := by
  intro names members columns keys
  obtain ⟨hsound, hdeclared⟩ := sound_of_compile h
  have hmembers : members.Nodup ↔
      ∀ a ∈ names, ∀ b ∈ names, Name.loweredWords a = Name.loweredWords b → a = b := by
    rw [List.nodup_map_iff_inj_on hsound.names]
    simp only [Name.memberIdent_eq_iff]
    rfl
  have hcolumns : columns.Nodup ↔
      ∀ a ∈ names, ∀ b ∈ names, Text.toUppercase a = Text.toUppercase b → a = b :=
    List.nodup_map_iff_inj_on hsound.names
  have hkeys : m.indexes.Nodup → (keys.Nodup ↔ ∀ a ∈ m.indexes, ∀ b ∈ m.indexes,
      Text.pieces (a.map Text.toUppercase) = Text.pieces (b.map Text.toUppercase) → a = b) := by
    intro hindexes
    rw [List.nodup_map_iff_inj_on hindexes]
    refine forall₂_congr fun a ha => forall₂_congr fun b hb => ?_
    rw [keyName_eq_iff m (hsound.indexes a ha) (hsound.indexes b hb)]
  refine ⟨emittedNames_of_declared hsound hdeclared profile, hmembers, hcolumns, hkeys, ?_⟩
  intro hplain
  refine ⟨hmembers.mpr fun a ha b hb => ?_, hcolumns.mpr fun a ha b hb => ?_, ?_⟩
  · exact (hplain a ha).eq_of_loweredWords_eq (hplain b hb)
  · exact (hplain a ha).eq_of_toUppercase_eq (hplain b hb)
  · intro hindexes hnames
    have hindex : ∀ index ∈ m.indexes, ∀ name ∈ index, Name.Plain name ∧ '_' ∉ name.toList := by
      intro index hindex name hname
      refine ⟨hplain name ?_, hnames index hindex name hname⟩
      obtain ⟨f, hf⟩ := Option.isSome_iff_exists.mp
        (FlatSchema.isSome_field?_of_mem_indexes hdeclared hindex hname)
      obtain ⟨hmem, rfl⟩ := FlatSchema.of_field?_eq_some hf
      exact List.mem_map_of_mem hmem
    exact (hkeys hindexes).mpr fun a ha b hb => eq_of_pieces_eq (hindex a ha) (hindex b hb)

/-- A roster of plain names, with a field that is declared twice and one without a known type. -/
def rosterUnit : FlatUnit where
  name := "Roster"
  entries :=
    [⟨"name", .scalar "string"⟩, ⟨"guild_name", .scalar "string"⟩, ⟨"level2", .scalar "uint8"⟩,
     ⟨"name", .scalar "int"⟩, ⟨"type", .scalar "int16"⟩, ⟨"mood", .scalar "colour"⟩,
     ⟨"$index", .list ["name", "level2"]⟩, ⟨"$index", .list ["level2", "name"]⟩,
     ⟨"$index", .scalar "type"⟩]

/-- The names in the artifacts of the roster are different. -/
theorem nodup_names_roster :
    let m := (FlatSchema.build rosterUnit).schema
    (∃ ds, ds.length = 2 ∧
      (SchemaUnit.ofFlat rosterUnit "").compile .lenient = .ok ⟨.flat m, ds⟩) ∧
      (∀ name ∈ m.fields.map Field.name, Name.Plain name) ∧ m.indexes.length = 3 ∧
      m.indexes.Nodup ∧ (∀ index ∈ m.indexes, ∀ name ∈ index, '_' ∉ name.toList) ∧
      EmittedNames m {} ∧ ((m.fields.map Field.name).map Name.memberIdent).Nodup ∧
      ((m.fields.map Field.name).map Text.toUppercase).Nodup ∧
      (m.indexes.map (keyName m)).Nodup := by
  intro m
  have hcompile : (SchemaUnit.ofFlat rosterUnit "").compile .lenient =
      .ok ⟨.flat m, (FlatSchema.build rosterUnit).diagnostics⟩ :=
    SchemaUnit.compile_lenient_of_decide (by decide)
  have hplain : ∀ name ∈ m.fields.map Field.name, Name.Plain name := by decide
  have hindexes : m.indexes.Nodup := by decide
  have hnames : ∀ index ∈ m.indexes, ∀ name ∈ index, '_' ∉ name.toList := by decide
  obtain ⟨hemitted, -, -, -, hdifferent⟩ := nodup_names_iff hcompile {}
  obtain ⟨hmembers, hcolumns, hkeys⟩ := hdifferent hplain
  exact ⟨⟨_, by decide, hcompile⟩, hplain, by decide, hindexes, hnames, hemitted, hmembers,
    hcolumns, hkeys hindexes hnames⟩

/-- A hero with two fields whose names differ in a capital, and with two indexes whose columns
differ in where an underscore belongs. -/
def clashingHero : FlatUnit where
  name := "Hero"
  entries :=
    [⟨"hp", .scalar "int"⟩, ⟨"Hp", .scalar "int"⟩, ⟨"guild", .scalar "int"⟩,
     ⟨"rank_level", .scalar "int"⟩, ⟨"guild_rank", .scalar "int"⟩, ⟨"level", .scalar "int"⟩,
     ⟨"$index", .list ["guild", "rank_level"]⟩, ⟨"$index", .list ["guild_rank", "level"]⟩]

/-- **Names that clash.** The hero is accepted under the strict policy without a word, and has a
member, a column and a key twice. -/
theorem names_clashingHero :
    let m := (FlatSchema.build clashingHero).schema
    (SchemaUnit.ofFlat clashingHero "").compile .strict = .ok ⟨.flat m, []⟩ ∧
      (m.fields.map Field.name).map Name.memberIdent =
        ["hp", "hp", "guild", "rank_level", "guild_rank", "level"] ∧
      (m.fields.map Field.name).map Text.toUppercase =
        ["HP", "HP", "GUILD", "RANK_LEVEL", "GUILD_RANK", "LEVEL"] ∧
      m.indexes.Nodup ∧
      m.indexes.map (keyName m) =
        ["IDX_HERO_GUILD_RANK_LEVEL", "IDX_HERO_GUILD_RANK_LEVEL"] := by
  intro m
  have hclean : (FlatSchema.build clashingHero).diagnostics = [] := by decide
  have hcompile : (SchemaUnit.ofFlat clashingHero "").compile .strict =
      .ok (SchemaUnit.ofFlat clashingHero "").build :=
    SchemaUnit.compile_strict_of_decide (by decide) (by decide)
  refine ⟨?_, by decide, by decide, by decide, by decide⟩
  rw [hcompile, SchemaUnit.build, SchemaUnit.ofFlat, ← hclean]

end Artifact

end SchemaCompiler
