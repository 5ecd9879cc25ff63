import Mathlib.Data.List.Nodup
import Mathlib.Data.List.Pairwise
import SchemaCompiler.Output
import SchemaCompiler.Proofs.Name.Characters
import SchemaCompiler.Proofs.Strict

/-!
# The files of several units

A text of the flat dialect may hold many units, and the artifacts of all of them go to the same
directories. The name of a file is the snake-cased name of the unit, its stem, with an ending for
the kind of artifact, and nothing keeps two units apart whose names give one file. This happens in
two ways: the stems are the same, or one stem is the other with `_storage` or `_proto` behind it, in
which case the record type of one unit goes where the descriptor or the glue of the other goes.
There is no third way (`SchemaCompiler.SchemaUnit.nodup_targets_iff`).

A path is taken apart into the directory and the stem of the file (`SchemaCompiler.Target`), both of
which can be told from it (`SchemaCompiler.Target.path_injective`).
-/

namespace SchemaCompiler

/-! ### Targets -/

/-- The directories of the default configuration; all files in one of them have the same ending. -/
inductive Folder where
  /-- Generated code. -/
  | source
  /-- Table definitions. -/
  | table
  /-- Message definitions. -/
  | message
deriving DecidableEq

namespace Folder

/-- How the paths in a directory start. -/
def start : Folder → String
  | source => "generated/src/"
  | table => "generated/sql/"
  | message => "generated/proto/"

/-- How the paths in a directory end. -/
def ending : Folder → String
  | source => ".rs"
  | table => ".sql"
  | message => ".proto"

end Folder

/-- Where an artifact goes. -/
structure Target where
  /-- The directory. -/
  folder : Folder
  /-- The name of the file without its ending. -/
  stem : String
deriving DecidableEq

namespace Target

/-- The path of a target. -/
def path (t : Target) : String :=
  t.folder.start ++ t.stem ++ t.folder.ending

/-- **A target can be told from its path.** -/
theorem path_injective : Function.Injective path := by
  rintro ⟨folder, stem⟩ ⟨folder', stem'⟩ h
  have hfolder : folder = folder' := by
    have hstart := congrArg (fun s : String => s.toList.take 12) h
    cases folder <;> cases folder' <;> simp [path, Folder.start] at hstart ⊢
  subst hfolder
  rw [path, path, String.append_left_inj, String.append_right_inj] at h
  exact congrArg (Target.mk folder) h

end Target

/-- The target of a kind of artifact for a stem. -/
def ArtifactKind.target (kind : ArtifactKind) (stem : String) : Target :=
  match kind with
  | .record => ⟨.source, stem⟩
  | .storage => ⟨.source, stem ++ "_storage"⟩
  | .table => ⟨.table, stem⟩
  | .message => ⟨.message, stem⟩
  | .messageGlue => ⟨.source, stem ++ "_proto"⟩
  | .marshal => ⟨.source, stem ++ "_marshal"⟩

/-- The file of an artifact has no slash in its name. -/
theorem slash_notMem_fileName (kind : ArtifactKind) (unit : String) :
    '/' ∉ (kind.fileName unit).toList := by
  rw [ArtifactKind.fileName, String.toList_append, List.mem_append, not_or]
  refine ⟨fun hmem => ?_, by cases kind <;> decide⟩
  exact absurd (Name.isIdentChar_of_mem_snakeCase unit '/' hmem) (by decide)

theorem isAbsolute_of_notMem {path : String} (h : '/' ∉ path.toList) :
    Path.isAbsolute path = false := by
  rw [Bool.eq_false_iff]
  intro habsolute
  rw [Path.isAbsolute, Text.startsWith, List.isPrefixOf_iff_prefix] at habsolute
  exact h (habsolute.subset (by decide))

/-- The file of an artifact is no absolute path. -/
theorem isAbsolute_fileName (kind : ArtifactKind) (unit : String) :
    Path.isAbsolute (kind.fileName unit) = false :=
  isAbsolute_of_notMem (slash_notMem_fileName kind unit)

/-- **Under the default configuration every artifact goes to its target.** -/
theorem join_fileName (kind : ArtifactKind) (unit : String) :
    Path.join (({} : Directories).of kind) (kind.fileName unit) =
      (kind.target (Name.snakeCase unit)).path := by
  rw [Path.join, isAbsolute_fileName, if_neg Bool.false_ne_true]
  cases kind
  all_goals
    rw [if_neg (by decide)]
    simp [ArtifactKind.fileName, ArtifactKind.fileSuffix, ArtifactKind.target, Target.path,
      Folder.start, Folder.ending, Directories.of, ← String.toList_inj]

/-! ### The targets of a unit -/

/-- The targets of a flat unit with the given stem. -/
def flatTargets (stem : String) : List Target :=
  (ArtifactKind.forDialect .flat).map (fun kind => kind.target stem)

theorem flatTargets_eq (stem : String) : flatTargets stem =
    [⟨.source, stem⟩, ⟨.source, stem ++ "_storage"⟩, ⟨.table, stem⟩, ⟨.message, stem⟩,
     ⟨.source, stem ++ "_proto"⟩] := rfl

theorem storage_ne_proto (s t : String) : s ++ "_storage" ≠ t ++ "_proto" := by
  intro h
  have hlast := congrArg (fun s : String => s.toList.getLast?) h
  simp at hlast

theorem nodup_flatTargets (stem : String) : (flatTargets stem).Nodup := by
  simp [flatTargets_eq, ← String.toList_inj]

theorem nodup_treeTargets (stem : String) :
    ((ArtifactKind.forDialect .tree).map (fun kind => kind.target stem)).Nodup := by
  have htargets : (ArtifactKind.forDialect .tree).map (fun kind => kind.target stem) =
      [⟨.source, stem⟩, ⟨.source, stem ++ "_marshal"⟩] := rfl
  rw [htargets]
  simp [← String.toList_inj]

/-- **One stem does not continue the other** with what marks a descriptor or the glue. -/
def NoContinuation (s t : String) : Prop :=
  s ≠ t ++ "_storage" ∧ s ≠ t ++ "_proto"

theorem noContinuation_self (s : String) : NoContinuation s s := by
  constructor <;> simp [← String.toList_inj]

/-- **Two units share a file exactly when their stems are the same or one continues the other.** -/
theorem disjoint_flatTargets_iff {s t : String} :
    (flatTargets s).Disjoint (flatTargets t) ↔
      s ≠ t ∧ NoContinuation s t ∧ NoContinuation t s := by
  constructor
  · intro h
    have hshared : ∀ x ∈ flatTargets s, x ∉ flatTargets t := fun x hx hy => h hx hy
    simp only [flatTargets_eq, List.mem_cons] at hshared
    refine ⟨?_, ⟨?_, ?_⟩, ?_, ?_⟩
    · rintro rfl
      exact hshared ⟨.table, s⟩ (by simp) (by simp)
    · rintro rfl
      exact hshared ⟨.source, t ++ "_storage"⟩ (by simp) (by simp)
    · rintro rfl
      exact hshared ⟨.source, t ++ "_proto"⟩ (by simp) (by simp)
    · rintro rfl
      exact hshared ⟨.source, s ++ "_storage"⟩ (by simp) (by simp)
    · rintro rfl
      exact hshared ⟨.source, s ++ "_proto"⟩ (by simp) (by simp)
  · rintro ⟨hne, ⟨hstorage, hproto⟩, hstorage', hproto'⟩ x hx hy
    have hmarks := storage_ne_proto s t
    have hmarks' := storage_ne_proto t s
    rw [flatTargets_eq] at hx hy
    simp only [List.mem_cons, List.not_mem_nil, or_false] at hx hy
    rcases hx with rfl | rfl | rfl | rfl | rfl
    all_goals simp_all [eq_comm]

namespace SchemaUnit

/-- What the files of a unit are named after. -/
def stem (unit : SchemaUnit) : String :=
  Name.snakeCase unit.name

/-- The paths of the artifacts of a unit under the default directories, if it compiles. -/
def targetPaths (policy : Policy) (profile : Profile) (unit : SchemaUnit) : List String :=
  match unit.compile policy with
  | .ok compiled => (unit.artifacts compiled profile).map (fun a => a.path {})
  | .error _ => []

/-- Every kind that applies to the dialect of a schema has a body. -/
theorem isSome_body? (schema : Schema) (profile : Profile) {kind : ArtifactKind}
    (h : kind ∈ ArtifactKind.forDialect schema.dialect) :
    ∃ body, Artifact.body? schema profile kind = some body := by
  have happlies := (List.mem_filter.mp h).2
  cases schema with
  | flat m =>
    cases kind with
    | marshal => cases happlies
    | _ => exact ⟨_, rfl⟩
  | tree root =>
    cases kind with
    | record => exact ⟨_, rfl⟩
    | marshal => exact ⟨_, rfl⟩
    | _ => cases happlies

/-- **The artifacts of a unit go to the targets of their kinds.** -/
theorem map_path_artifacts (unit : SchemaUnit) (compiled : Compiled) (profile : Profile) :
    (unit.artifacts compiled profile).map (fun a => a.path {}) =
      (ArtifactKind.forDialect compiled.schema.dialect).map
        (fun kind => (kind.target unit.stem).path) := by
  rw [artifacts, List.map_filterMap]
  refine (List.filterMap_congr fun kind hkind => ?_).trans (congrFun List.filterMap_eq_map _)
  obtain ⟨body, hbody⟩ := isSome_body? compiled.schema profile hkind
  rw [artifact?, hbody, Option.map_some, Option.map_some, Artifact.path, join_fileName]
  rfl

/-- The targets of a unit go by the dialect of its source. -/
theorem targetPaths_of_compile {unit : SchemaUnit} {policy : Policy} (profile : Profile)
    {compiled : Compiled} (h : unit.compile policy = .ok compiled) :
    unit.targetPaths policy profile =
      (ArtifactKind.forDialect unit.build.schema.dialect).map
        (fun kind => (kind.target unit.stem).path) := by
  obtain ⟨rfl, -⟩ := build_of_compile h
  rw [targetPaths, h]
  exact map_path_artifacts unit unit.build profile

/-- Flat units share no file exactly when no two of their stems are the same and none continues
another. -/
theorem nodup_flatTargets_iff (units : List SchemaUnit) :
    (units.flatMap (fun unit => (flatTargets unit.stem).map Target.path)).Nodup ↔
      (units.map stem).Nodup ∧
        ∀ u ∈ units, ∀ v ∈ units, NoContinuation u.stem v.stem := by
  have hpaths : units.flatMap (fun unit => (flatTargets unit.stem).map Target.path) =
      (units.flatMap (fun unit => flatTargets unit.stem)).map Target.path := by
    rw [List.map_flatMap]
  have hown : ∀ unit ∈ units, (flatTargets unit.stem).Nodup :=
    fun unit _ => nodup_flatTargets unit.stem
  rw [hpaths, List.nodup_map_iff Target.path_injective, List.nodup_flatMap, and_iff_right hown]
  have hsplit : units.Pairwise (fun u v => (flatTargets u.stem).Disjoint (flatTargets v.stem)) ↔
      units.Pairwise (fun u v => u.stem ≠ v.stem) ∧
        units.Pairwise (fun u v =>
          NoContinuation u.stem v.stem ∧ NoContinuation v.stem u.stem) := by
    rw [← List.pairwise_and_iff]
    exact List.Pairwise.iff fun u v => disjoint_flatTargets_iff
  refine hsplit.trans (and_congr ?_ ⟨fun h u hu v hv => ?_, fun h => ?_⟩)
  · rw [List.Nodup, List.pairwise_map]
  · -- a unit does not continue itself, so all pairs are covered
    have hsymm : Std.Symm (fun u v : SchemaUnit =>
        NoContinuation u.stem v.stem ∧ NoContinuation v.stem u.stem) := ⟨fun _ _ h => h.symm⟩
    refine (h.forall_of_forall (fun w _ => ?_) hu hv).1
    exact ⟨noContinuation_self w.stem, noContinuation_self w.stem⟩
  · exact List.pairwise_of_forall_mem_list fun u hu v hv => ⟨h u hu v hv, h v hv u hu⟩

/-- The units of a text have its dialect, and a text of the tree dialect is one unit. -/
theorem dialect_of_ofText {dialect : Dialect} {text : String} {units : List SchemaUnit}
    (h : ofText dialect text = .ok units) :
    (∀ unit ∈ units, unit.build.schema.dialect = dialect) ∧
      (dialect = .tree → ∃ unit, units = [unit]) := by
  cases dialect with
  | tree =>
    rw [ofText] at h
    cases hread : Element.ofMarkup text with
    | error e =>
      rw [hread] at h
      cases h
    | ok root =>
      rw [hread] at h
      cases h
      exact ⟨List.forall_mem_singleton.mpr rfl, fun _ => ⟨_, rfl⟩⟩
  | flat =>
    rw [ofText] at h
    cases hread : FlatUnit.ofYaml text with
    | error e =>
      rw [hread] at h
      cases h
    | ok flats =>
      rw [hread] at h
      cases h
      refine ⟨fun unit hunit => ?_, fun htree => by cases htree⟩
      obtain ⟨flat, -, rfl⟩ := List.mem_map.mp hunit
      rfl

/-- The files of the units of a text go by its dialect and by the stems. -/
theorem flatMap_targetPaths {dialect : Dialect} {text : String} {units : List SchemaUnit}
    {policy : Policy} (h : ofText dialect text = .ok units)
    (hcompile : ∀ unit ∈ units, ∃ compiled, unit.compile policy = .ok compiled)
    (profile : Profile) :
    units.flatMap (targetPaths policy profile) = units.flatMap (fun unit =>
      ((ArtifactKind.forDialect dialect).map (fun kind => kind.target unit.stem)).map
        Target.path) := by
  refine List.flatMap_congr fun unit hunit => ?_
  obtain ⟨compiled, hcompiled⟩ := hcompile unit hunit
  rw [targetPaths_of_compile profile hcompiled, (dialect_of_ofText h).1 unit hunit, List.map_map]
  rfl

/-- **When the units of a text share no file.** If all units of a text compile, the paths of all
their artifacts under the default directories are different exactly when no two units have the same
snake-cased name and none has that of another with `_storage` or `_proto` behind it. -/
theorem nodup_targets_iff {dialect : Dialect} {text : String} {units : List SchemaUnit}
    {policy : Policy} (h : ofText dialect text = .ok units)
    (hcompile : ∀ unit ∈ units, ∃ compiled, unit.compile policy = .ok compiled)
    (profile : Profile) :
    (units.flatMap (targetPaths policy profile)).Nodup ↔
      (units.map (fun unit => Name.snakeCase unit.name)).Nodup ∧
        ∀ u ∈ units, ∀ v ∈ units, Name.snakeCase u.name ≠ Name.snakeCase v.name ++ "_storage" ∧
          Name.snakeCase u.name ≠ Name.snakeCase v.name ++ "_proto" := by
  rw [flatMap_targetPaths h hcompile profile]
  cases dialect with
  | flat => exact nodup_flatTargets_iff units
  | tree =>
    -- a document is one unit, which shares no file with itself
    obtain ⟨unit, rfl⟩ := (dialect_of_ofText h).2 rfl
    refine iff_of_true ?_ ⟨List.nodup_singleton _, ?_⟩
    · rw [List.flatMap_singleton, List.nodup_map_iff Target.path_injective]
      exact nodup_treeTargets unit.stem
    · simp only [List.forall_mem_singleton]
      exact noContinuation_self unit.stem

/-! ### Units read from a text -/

/-- The units of a flat text are those that were read. -/
theorem ofText_flat {text : String} {flats : List FlatUnit} (h : FlatUnit.ofYaml text = .ok flats) :
    ofText .flat text = .ok (flats.map (fun u => ofFlat u (Digest.checksum text))) := by
  rw [ofText, h]
  rfl

theorem exists_compile_of_clean {flats : List FlatUnit} {checksum : String}
    (h : ∀ flat ∈ flats, (FlatSchema.build flat).schema.undeclared? = none ∧
      Diagnostics.hasErrors (FlatSchema.build flat).diagnostics = false) :
    ∀ unit ∈ flats.map (fun u => ofFlat u checksum),
      ∃ compiled, unit.compile .strict = .ok compiled := by
  intro unit hunit
  obtain ⟨flat, hflat, rfl⟩ := List.mem_map.mp hunit
  obtain ⟨hdeclared, herrors⟩ := h flat hflat
  exact ⟨_, compile_strict_of_decide hdeclared herrors⟩

/-- Three units whose names start in the same way. -/
def storesText : String :=
  "Player:\n- name: string\n- hp: uint8\nplayer_store:\n- name: string\nPlayerProtos:\n- id: int\n"

/-- What the three units say. -/
def storesUnits : List FlatUnit :=
  [⟨"Player", [⟨"name", .scalar "string"⟩, ⟨"hp", .scalar "uint8"⟩]⟩,
   ⟨"player_store", [⟨"name", .scalar "string"⟩]⟩, ⟨"PlayerProtos", [⟨"id", .scalar "int"⟩]⟩]

/-- The three units share no file. -/
theorem nodup_targets_stores :
    ∃ units, ofText .flat storesText = .ok units ∧ units.length = 3 ∧
      (∀ unit ∈ units, ∃ compiled, unit.compile .strict = .ok compiled) ∧
      (units.map (fun unit => Name.snakeCase unit.name)).Nodup ∧
      (units.flatMap (targetPaths .strict {})).Nodup := by
  have hread : ofText .flat storesText =
      .ok (storesUnits.map (fun u => ofFlat u (Digest.checksum storesText))) :=
    ofText_flat (by decide +kernel)
  have hcompile : ∀ unit ∈ storesUnits.map (fun u => ofFlat u (Digest.checksum storesText)),
      ∃ compiled, unit.compile .strict = .ok compiled :=
    exists_compile_of_clean (by decide)
  have hstems : (storesUnits.map (fun u => Name.snakeCase u.name)).Nodup ∧
      ∀ u ∈ storesUnits, ∀ v ∈ storesUnits,
        Name.snakeCase u.name ≠ Name.snakeCase v.name ++ "_storage" ∧
          Name.snakeCase u.name ≠ Name.snakeCase v.name ++ "_proto" := by
    decide
  refine ⟨_, hread, rfl, hcompile, hstems.1,
    (nodup_targets_iff hread hcompile {}).mpr ⟨hstems.1, ?_⟩⟩
  intro u hu v hv
  obtain ⟨flat, hflat, rfl⟩ := List.mem_map.mp hu
  obtain ⟨flat', hflat', rfl⟩ := List.mem_map.mp hv
  exact hstems.2 flat hflat flat' hflat'

/-- Two units whose names differ in a capital, and one whose name continues theirs. -/
def clashingText : String :=
  "Player:\n- hp: int\nplayer:\n- level: int\nplayer_proto:\n- id: int\n"

/-- What the clashing units say. -/
def clashingUnits : List FlatUnit :=
  [⟨"Player", [⟨"hp", .scalar "int"⟩]⟩, ⟨"player", [⟨"level", .scalar "int"⟩]⟩,
   ⟨"player_proto", [⟨"id", .scalar "int"⟩]⟩]

/-- **Units that share files.** The three units have different names and compile under the strict
policy; the first two share all their files, and the record type of the third goes where their glue
goes. -/
theorem targetPaths_clashingText :
    ∃ units, ofText .flat clashingText = .ok units ∧
      (units.map SchemaUnit.name).Nodup ∧
      (∀ unit ∈ units, ∃ compiled, unit.compile .strict = .ok compiled) ∧
      units.flatMap (targetPaths .strict {}) =
        ["generated/src/player.rs", "generated/src/player_storage.rs", "generated/sql/player.sql",
         "generated/proto/player.proto", "generated/src/player_proto.rs",
         "generated/src/player.rs", "generated/src/player_storage.rs", "generated/sql/player.sql",
         "generated/proto/player.proto", "generated/src/player_proto.rs",
         "generated/src/player_proto.rs", "generated/src/player_proto_storage.rs",
         "generated/sql/player_proto.sql", "generated/proto/player_proto.proto",
         "generated/src/player_proto_proto.rs"] := by
  have hread : ofText .flat clashingText =
      .ok (clashingUnits.map (fun u => ofFlat u (Digest.checksum clashingText))) :=
    ofText_flat (by decide +kernel)
  have hcompile : ∀ unit ∈ clashingUnits.map (fun u => ofFlat u (Digest.checksum clashingText)),
      ∃ compiled, unit.compile .strict = .ok compiled :=
    exists_compile_of_clean (by decide)
  refine ⟨_, hread, ?_, hcompile, ?_⟩
  · rw [List.map_map]
    decide
  · rw [flatMap_targetPaths hread hcompile {}]
    decide

end SchemaUnit

end SchemaCompiler
