import SchemaCompiler.Artifact
import SchemaCompiler.Proofs.Artifact.Declarations
import SchemaCompiler.Proofs.Name.Legal

/-!
# What a unit is called

The record artifact of a unit declares a type for it, and the unit's other artifacts import that
type from a module. Both names come from the name of the unit, by three ways: the type of a tree is
an identifier made for types, the type of a record is the name as it is, and the module is the name
in snake case. Only the first way mends what is wrong with a name. So a tree has a legal type under
every usable name, a record has one if the name is an identifier already, and the module is legal if
the name in snake case does not start with a digit and is no keyword
(`SchemaCompiler.Artifact.legalUnitNames_iff`).

The names are read back out of the artifacts: the type is the first one that is declared
(`SchemaCompiler.Artifact.declarations`), and the module stands in the last of the imports at the
start of an artifact (`SchemaCompiler.Artifact.Importer.module?`).
-/

namespace SchemaCompiler

namespace Name

/-! ### Identifiers -/

theorem usable_of_all {name : String} (hlatin : name.toList.all (·.toNat < 128) = true)
    (hword : name.toList.any Char.isAlphanum = true) : Usable name where
  latin c hc := of_decide_eq_true (List.all_eq_true.mp hlatin c hc)
  word := List.any_eq_true.mp hword

/-- Whether a character can start an identifier: a letter or an underscore. -/
def isIdentStart (c : Char) : Bool :=
  c.isAlpha || c == '_'

/-- Whether a character can stand in an identifier behind the first: a letter, a digit or an
underscore. -/
def isIdentRest (c : Char) : Bool :=
  c.isAlphanum || c == '_'

/-- **The form of a Latin identifier.** An underscore alone is none. -/
def IdentForm (ident : String) : Prop :=
  ident ≠ "_" ∧ ∃ c rest, ident.toList = c :: rest ∧ isIdentStart c = true ∧
    ∀ d ∈ rest, isIdentRest d = true

/-- **A legal Latin identifier**: a plain one is no keyword, and a raw one none of those that a path
starts with. -/
inductive LegalIdent : String → Prop
  /-- An identifier as it is. -/
  | plain {ident : String} (form : IdentForm ident) (hkeyword : ¬IsKeyword ident) :
      LegalIdent ident
  /-- An identifier behind the mark of raw ones. -/
  | raw {ident : String} (form : IdentForm ident)
      (hpath : ident ∉ ["crate", "self", "Self", "super"]) : LegalIdent ("r#" ++ ident)

/-- Without the mark of raw identifiers, a legal one is plain. -/
theorem legalIdent_iff_of_notMem {ident : String} (h : '#' ∉ ident.toList) :
    LegalIdent ident ↔ IdentForm ident ∧ ¬IsKeyword ident := by
  constructor
  · rintro (⟨form, hkeyword⟩ | ⟨form, hpath⟩)
    · exact ⟨form, hkeyword⟩
    · exact absurd (by simp) h
  · rintro ⟨form, hkeyword⟩
    exact .plain form hkeyword

theorem isIdentStart_of_isUpper {c : Char} (h : c.isUpper = true) : isIdentStart c = true := by
  have halpha : c.isAlpha = true := Bool.or_eq_true_iff.mpr (Or.inl h)
  rw [isIdentStart, halpha, Bool.true_or]

theorem isIdentStart_of_isLower {c : Char} (h : c.isLower = true) : isIdentStart c = true := by
  have halpha : c.isAlpha = true := Bool.or_eq_true_iff.mpr (Or.inr h)
  rw [isIdentStart, halpha, Bool.true_or]

theorem isIdentRest_of_isAlphanum {c : Char} (h : c.isAlphanum = true) : isIdentRest c = true := by
  rw [isIdentRest, h, Bool.true_or]

theorem isIdentRest_of_isMemberChar {c : Char} (h : isMemberChar c = true) :
    isIdentRest c = true := by
  simp only [isMemberChar, Bool.or_eq_true] at h
  rcases h with (hlower | hdigit) | hmark
  · have halpha : c.isAlpha = true := Bool.or_eq_true_iff.mpr (Or.inr hlower)
    exact isIdentRest_of_isAlphanum (Bool.or_eq_true_iff.mpr (Or.inl halpha))
  · exact isIdentRest_of_isAlphanum (Bool.or_eq_true_iff.mpr (Or.inr hdigit))
  · rw [isIdentRest, hmark, Bool.or_true]

theorem ne_underscore_of_cons {ident : String} {c : Char} {rest : List Char}
    (hcons : ident.toList = c :: rest) (hc : c ≠ '_') : ident ≠ "_" := by
  rintro rfl
  have hunderscore : "_".toList = ['_'] := rfl
  rw [hunderscore] at hcons
  exact hc (List.cons.inj hcons).1.symm

/-- **A legal type is a legal identifier.** The only keyword with a capital is reserved. -/
theorem LegalType.legalIdent {ident : String} (h : LegalType ident) : LegalIdent ident := by
  have hcapital : ∀ k ∈ keywords, (k.toList.head?.any Char.isUpper) = true → k ∈ reservedTypes := by
    decide +kernel
  obtain ⟨⟨c, rest, mark, hcons, hupper, hrest, hmark⟩, hfree⟩ := h
  have hc : c ≠ '_' := by
    rintro rfl
    cases hupper
  refine .plain ⟨ne_underscore_of_cons hcons hc, c, rest ++ mark, hcons,
    isIdentStart_of_isUpper hupper, ?_⟩ ?_
  · intro d hd
    rcases List.mem_append.mp hd with hin | hlast
    · exact isIdentRest_of_isAlphanum (hrest d hin)
    · rcases hmark with rfl | rfl
      · exact absurd hlast List.not_mem_nil
      · rw [List.mem_singleton.mp hlast]
        rfl
  · intro hkeyword
    refine hfree (hcapital ident (mem_keywords_iff.mpr hkeyword) ?_)
    rw [hcons]
    exact hupper

/-- **The snake-cased name is legal** unless it starts with a digit or is a keyword. -/
theorem legalIdent_snakeCase_iff {name : String} (h : Usable name) :
    LegalIdent (snakeCase name) ↔
      startsWithDigit (snakeCase name) = false ∧ ¬IsKeyword (snakeCase name) := by
  obtain ⟨c, rest, hcons, hsmall, hchars⟩ := h.snakeCase_eq_cons
  have hdigit : startsWithDigit (snakeCase name) = c.isDigit := by
    rw [startsWithDigit, hcons]
  rw [legalIdent_iff_of_notMem (hash_not_mem_snakeCase name), hdigit]
  refine and_congr_left fun _ => ?_
  constructor
  · rintro ⟨-, d, others, hcons', hstart, -⟩
    rw [hcons] at hcons'
    rw [← (List.cons.inj hcons').1] at hstart
    exact Text.of_lt_128 (P := fun c => isIdentStart c = true → c.isDigit = false)
      (by decide +kernel) hsmall.latin.lt hstart
  · intro hletter
    have hlower : c.isLower = true := hsmall.small.resolve_right (by simp [hletter])
    have hc : c ≠ '_' := by
      rintro rfl
      cases hlower
    exact ⟨ne_underscore_of_cons hcons hc, c, rest, hcons, isIdentStart_of_isLower hlower,
      fun d hd => isIdentRest_of_isMemberChar (hchars d (List.mem_cons_of_mem _ hd))⟩

end Name

namespace Artifact

open Item Name

/-! ### Reading names -/

/-- The items of the record artifact of a schema. -/
def typeItems (schema : Schema) (profile : Profile) : List Item :=
  match schema with
  | .flat m => recordItems m profile
  | .tree root => treeItems root profile

/-- An artifact that imports the types of a unit. -/
structure Importer where
  /-- Its kind. -/
  kind : ArtifactKind
  /-- Its items. -/
  items : List Item
  /-- What follows the module in the import. -/
  ending : String

/-- The artifacts of a schema that import its types. -/
def importers (schema : Schema) (profile : Profile) : List Importer :=
  match schema with
  | .flat m =>
    [⟨.storage, descriptorItems m profile, "::" ++ m.name ++ ";"⟩,
     ⟨.messageGlue, messageGlueItems m profile, "::" ++ m.name ++ ";"⟩]
  | .tree root => [⟨.marshal, marshalItems root profile, " as " ++ recordAlias ++ ";"⟩]

/-- The last of the imports at the start of an artifact. -/
def lastImport? (items : List Item) : Option Item :=
  (items.takeWhile (·.startsWith "use ")).getLast?

/-- The module that the types are imported from: it stands in the last of the imports at the start
of the artifact. -/
def Importer.module? (a : Importer) : Option String :=
  (lastImport? a.items).bind (fun item => Text.between? "use " a.ending item.text)

/-- **The type of a unit is legal**: the first one that its record artifact declares. -/
def LegalUnitType (schema : Schema) (profile : Profile) : Prop :=
  ∃ d, (declarations [] (typeItems schema profile)).head? = some d ∧ LegalIdent d.name

/-- **The module of a unit is legal** wherever it is imported from: apart from the step to the
enclosing module, the path has only legal identifiers. -/
def LegalUnitModule (schema : Schema) (profile : Profile) : Prop :=
  ∀ a ∈ importers schema profile, ∃ path names, a.module? = some path ∧
    segmentsOf path = "super" :: names ∧ ∀ s ∈ names, LegalIdent s

/-! ### The type -/

/-- **A record artifact declares one type**, under the name of the unit. -/
theorem declarations_recordItems (m : FlatSchema) (profile : Profile) :
    declarations [] (recordItems m profile) = [⟨[], m.name, m.fields.flatMap fieldItems⟩] := by
  have hruntime : Plain (if m.fields.any (fun f => f.type.isFixedText) then
      [.line ("use " ++ profile.storageRuntime ++ "::FixedText;"), .gap] else []) := by
    split <;> exact fun _ _ => rfl
  have hfields : AllLines (m.fields.flatMap fieldItems) :=
    allLines_flatMap
      (fun f : Field => (allLines_doc f.comment).append (allLines_singleton _)) m.fields
  have hdefault := plain_gap.append (plain_defaultItems m.name (m.fields.map fieldMember)) [] []
  rw [List.append_nil] at hdefault
  simp only [recordItems, List.append_assoc]
  rw [hruntime, plain_lines (allLines_doc m.comment), plain_lines (allLines_deriveItems profile),
    declarations_struct _ _ hfields, hdefault]
  rfl

theorem legalUnitType_flat_iff (m : FlatSchema) (profile : Profile) :
    LegalUnitType (.flat m) profile ↔ LegalIdent m.name := by
  rw [LegalUnitType, typeItems, declarations_recordItems]
  constructor
  · rintro ⟨d, hd, hlegal⟩
    cases hd
    exact hlegal
  · intro hlegal
    exact ⟨_, rfl, hlegal⟩

/-- **A tree has a legal type** under every usable name. -/
theorem legalUnitType_tree {root : ElementType} (h : Usable root.tag) (profile : Profile) :
    LegalUnitType (.tree root) profile := by
  have hlegal := (legalType_typeIdent h).legalIdent
  have hfirst : (root.places.map (declarationAt profile)).head? =
      some (declarationAt profile ⟨[], root⟩) := by
    rw [ElementType.places, ElementType.placesFrom_eq, List.map_cons, List.head?_cons]
  rw [LegalUnitType, typeItems, declarations_treeItems]
  refine ⟨declarationAt profile ⟨[], root⟩, hfirst, ?_⟩
  simpa only [declarationAt, ElementType.typeName] using hlegal

/-! ### The module -/

theorem startsWith_use (rest : String) : (Item.line ("use " ++ rest)).startsWith "use " = true := by
  simp

/-- An import before another one is not the last. -/
theorem lastImport?_cons (first second : String) (items : List Item) :
    lastImport? (.line ("use " ++ first) :: .line ("use " ++ second) :: items) =
      lastImport? (.line ("use " ++ second) :: items) := by
  simp only [lastImport?, List.takeWhile_cons, startsWith_use, if_true, List.getLast?_cons_cons]

/-- The imports end at a gap. -/
theorem lastImport?_gap (last : String) (items : List Item) :
    lastImport? (.line ("use " ++ last) :: .gap :: items) = some (.line ("use " ++ last)) := by
  have hgap : Item.gap.startsWith "use " = false := rfl
  simp only [lastImport?, List.takeWhile_cons, startsWith_use, hgap, if_true, Bool.false_eq_true,
    if_false, List.getLast?_singleton]

theorem lastImport?_descriptorItems (m : FlatSchema) (profile : Profile) :
    lastImport? (descriptorItems m profile) =
      some (.line ("use " ++ profile.recordModuleFor m.name ++ ("::" ++ m.name ++ ";"))) := by
  simp only [descriptorItems, String.append_assoc, List.cons_append, lastImport?_cons,
    lastImport?_gap]

theorem lastImport?_messageGlueItems (m : FlatSchema) (profile : Profile) :
    lastImport? (messageGlueItems m profile) =
      some (.line ("use " ++ profile.recordModuleFor m.name ++ ("::" ++ m.name ++ ";"))) := by
  simp only [messageGlueItems, String.append_assoc, List.cons_append, lastImport?_cons,
    lastImport?_gap]

theorem lastImport?_marshalItems (root : ElementType) (profile : Profile) :
    lastImport? (marshalItems root profile) =
      some (.line
        ("use " ++ profile.recordModuleFor root.tag ++ (" as " ++ recordAlias ++ ";"))) := by
  -- the gap is the one before the implementation of the root
  rw [marshalItems, ElementType.walk, ElementType.walkFrom_eq]
  split <;>
    simp only [marshalVisit, marshalBlock, List.flatMap_cons, String.append_assoc,
      List.cons_append, List.nil_append, lastImport?_cons, lastImport?_gap]

/-- **All artifacts import the types of a unit from one module.** -/
theorem module?_of_mem_importers {schema : Schema} {profile : Profile} {a : Importer}
    (h : a ∈ importers schema profile) :
    a.module? = some (profile.recordModuleFor schema.name) := by
  have hread : ∀ a : Importer, ∀ path,
      lastImport? a.items = some (.line ("use " ++ path ++ a.ending)) → a.module? = some path := by
    intro a path hlast
    rw [Importer.module?, hlast, Option.bind_some, Item.text, Text.between?_append]
  cases schema with
  | flat m =>
    rcases List.mem_pair.mp h with rfl | rfl
    · exact hread _ _ (lastImport?_descriptorItems m profile)
    · exact hread _ _ (lastImport?_messageGlueItems m profile)
  | tree root =>
    obtain rfl := List.mem_singleton.mp h
    exact hread _ _ (lastImport?_marshalItems root profile)

/-- The module of a unit, if nothing else is asked for. -/
theorem recordModuleFor_default (name : String) :
    ({} : Profile).recordModuleFor name = "super" ++ "::" ++ snakeCase name := by
  have hreplaced : ∀ r, Text.replaceFrom "\x7bunit\x7d".toList r 0 "super::\x7bunit\x7d".toList =
      "super::".toList ++ r := by
    intro r
    simp [Text.replaceFrom, List.isPrefixOf]
  rw [← String.toList_inj, Profile.recordModuleFor, Profile.expand, Text.replaceAll,
    if_neg (by decide), String.toList_ofList, hreplaced, String.toList_append]
  rfl

/-- **A unit is imported from the module of its snake-cased name** in the enclosing one. -/
theorem segmentsOf_recordModuleFor (name : String) :
    segmentsOf (({} : Profile).recordModuleFor name) = ["super", snakeCase name] := by
  have hsuper : IsIdent "super" := List.all_eq_true.mp (by decide)
  rw [recordModuleFor_default, segmentsOf_append hsuper,
    segmentsOf_of_isIdent (isIdent_snakeCase name)]

theorem legalUnitModule_iff (schema : Schema) :
    LegalUnitModule schema {} ↔ LegalIdent (snakeCase schema.name) := by
  have hsegments := segmentsOf_recordModuleFor schema.name
  constructor
  · intro h
    obtain ⟨a, ha⟩ : ∃ a, a ∈ importers schema {} := by
      cases schema with
      | flat m => exact ⟨_, List.mem_cons_self⟩
      | tree root => exact ⟨_, List.mem_cons_self⟩
    obtain ⟨path, names, hpath, hnames, hlegal⟩ := h a ha
    rw [module?_of_mem_importers ha] at hpath
    rw [← Option.some.inj hpath, hsegments] at hnames
    rw [← (List.cons.inj hnames).2] at hlegal
    exact hlegal _ List.mem_cons_self
  · intro hlegal a ha
    exact ⟨_, _, module?_of_mem_importers ha, hsegments, List.forall_mem_singleton.mpr hlegal⟩

/-! ### Units -/

/-- What is read is what is written: the items of an importer are laid out to its body. -/
theorem body?_of_mem_importers {schema : Schema} {profile : Profile} {a : Importer}
    (h : a ∈ importers schema profile) : body? schema profile a.kind = some (render a.items) := by
  refine body?_of_items? ?_
  cases schema with
  | flat m => rcases List.mem_pair.mp h with rfl | rfl <;> rfl
  | tree root =>
    obtain rfl := List.mem_singleton.mp h
    rfl

theorem body?_record (schema : Schema) (profile : Profile) :
    body? schema profile .record = some (render (typeItems schema profile)) :=
  body?_of_items? (by cases schema <;> rfl)

/-- **Where the names of a unit are legal.** If its name is usable, the type of a tree is legal, and
the type of a record is legal exactly if the name is an identifier itself. The module that the other
artifacts import the type from is legal exactly if the name in snake case neither starts with a
digit nor is a keyword. -/
theorem legalUnitNames_iff {schema : Schema} (h : Usable schema.name) :
    body? schema {} .record = some (render (typeItems schema {})) ∧
      (∀ a ∈ importers schema {}, body? schema {} a.kind = some (render a.items)) ∧
      (LegalUnitType schema {} ↔ (schema.dialect = .flat → LegalIdent schema.name)) ∧
      (LegalUnitModule schema {} ↔
        startsWithDigit (snakeCase schema.name) = false ∧ ¬IsKeyword (snakeCase schema.name)) := by
  refine ⟨body?_record schema {}, fun a ha => body?_of_mem_importers ha, ?_, ?_⟩
  · cases schema with
    | flat m =>
      rw [legalUnitType_flat_iff]
      exact ⟨fun hlegal _ => hlegal, fun hlegal => hlegal rfl⟩
    | tree root => exact ⟨fun _ => nofun, fun _ => legalUnitType_tree h {}⟩
  · rw [legalUnitModule_iff, legalIdent_snakeCase_iff h]

/-- A unit under a name of two words, which is an identifier. -/
def hallUnit : FlatSchema :=
  { name := "GuildHall", fields := [⟨"id", .bounded 8, some 8, none⟩] }

/-- Both names of such a unit are legal. -/
theorem legalUnitNames_hall :
    Usable hallUnit.name ∧ LegalUnitType (.flat hallUnit) {} ∧
      LegalUnitModule (.flat hallUnit) {} := by
  have husable : Usable hallUnit.name := usable_of_all (by decide) (by decide)
  have hrest : "uildHall".toList.all isIdentRest = true := by decide
  have hlegal : LegalIdent "GuildHall" :=
    .plain ⟨by decide, 'G', "uildHall".toList, by decide, rfl, List.all_eq_true.mp hrest⟩
      (mt mem_keywords_iff.mpr (by decide))
  have hsnake : snakeCase "GuildHall" = "guild_hall" := by decide
  obtain ⟨-, -, htype, hmodule⟩ := @legalUnitNames_iff (.flat hallUnit) husable
  refine ⟨husable, htype.mpr fun _ => hlegal, hmodule.mpr ?_⟩
  change startsWithDigit (snakeCase "GuildHall") = false ∧ ¬IsKeyword (snakeCase "GuildHall")
  rw [hsnake]
  exact ⟨by decide, mt mem_keywords_iff.mpr (by decide)⟩

/-- A record under the name of a keyword. -/
def keywordRecord : FlatSchema :=
  { name := "type", fields := [⟨"id", .integer "int" 32 true "i32" "int32" "int(10)", none, none⟩] }

/-- A tree under the name of a keyword. -/
def keywordTree : ElementType :=
  ⟨"type", .single, [], none, []⟩

/-- **A unit may have a usable name and no legal ones.** The keyword stands as it is in the name of
the record type and in the module that the type is imported from, which it does for a tree too. -/
theorem not_legalUnitNames_keyword :
    Usable "type" ∧
      (declarations [] (recordItems keywordRecord {})).map Declaration.name = ["type"] ∧
      ¬LegalUnitType (.flat keywordRecord) {} ∧
      (∀ a ∈ importers (.flat keywordRecord) {}, a.module? = some "super::type") ∧
      ¬LegalUnitModule (.flat keywordRecord) {} ∧ ¬LegalUnitModule (.tree keywordTree) {} := by
  have hkeyword : ¬LegalIdent "type" := by
    rw [legalIdent_iff_of_notMem (by decide)]
    exact fun h => h.2 (Or.inl (by decide))
  have hmodule : ({} : Profile).recordModuleFor "type" = "super::type" := by decide
  have hsnake : snakeCase "type" = "type" := by decide
  refine ⟨usable_of_all (by decide) (by decide), ?_, ?_, ?_, ?_, ?_⟩
  · rw [declarations_recordItems]
    rfl
  · rw [legalUnitType_flat_iff]
    exact hkeyword
  · intro a ha
    rw [module?_of_mem_importers ha]
    exact congrArg some hmodule
  · rw [legalUnitModule_iff]
    exact hsnake ▸ hkeyword
  · rw [legalUnitModule_iff]
    exact hsnake ▸ hkeyword

end Artifact

end SchemaCompiler
