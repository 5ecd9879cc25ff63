import SchemaCompiler.Proofs.FileSystem.Written
import SchemaCompiler.Proofs.Name.Path
import SchemaCompiler.Proofs.Text.Cut

/-!
# Artifacts stay inside their directories

The name of a unit is any text, and the names of its files are made of it. Nothing in the name can
lead a file out of the directory that is configured for it: what is no letter and no number ends a
word, and lowering makes no slash, no dot and no zero character out of a letter. So a file has one
dot, before its ending, and the path of an artifact is that of the directory with one more component
(`SchemaCompiler.Path.components_join`).

On disk this means that writing puts files right into the configured directories and nowhere else
(`SchemaCompiler.FileSystem.adds_writeArtifacts`). `SchemaCompiler.FileSystem.Keeps` tells what is
still there after writing; here it matters what is there that was not there before
(`SchemaCompiler.FileSystem.Adds`).
-/

namespace SchemaCompiler

/-! ### Components -/

namespace Path

theorem join_empty (file : String) : join "" file = file := by
  rw [join]
  split
  · rfl
  · exact String.empty_append

/-- The path of a file starts with that of its directory. -/
theorem exists_join_eq_append (directory : String) {file : String} (h : IsFileName file) :
    ∃ rest, join directory file = directory ++ rest := by
  rw [join, isAbsolute_of_notMem h.noSlash, if_neg Bool.false_ne_true]
  split
  · exact ⟨file, rfl⟩
  · exact ⟨"/" ++ file, String.append_assoc⟩

theorem isAbsolute_join (directory : String) {file : String} (h : IsFileName file) :
    isAbsolute (join directory file) = isAbsolute directory := by
  by_cases hempty : directory = ""
  · rw [hempty, join_empty]
    exact isAbsolute_of_notMem h.noSlash
  · -- whether a path starts at the root is told by its first character
    obtain ⟨rest, hrest⟩ := exists_join_eq_append directory h
    obtain ⟨c, cs, hcons⟩ := List.exists_cons_of_ne_nil (mt String.toList_eq_nil_iff.mp hempty)
    rw [hrest, isAbsolute, isAbsolute, Text.startsWith, Text.startsWith, String.toList_append,
      hcons]
    rfl

/-- **A file in a directory** has the components of the directory and then its name. -/
theorem components_join (directory : String) {file : String} (h : IsFileName file) :
    components (join directory file) = components directory ++ [.name file] := by
  have hcomponent : component? file = some (.name file) := by
    rw [component?, if_neg (by simpa using h.notHere), if_neg (by simpa using h.notAbove)]
  have hhead : ((pieces directory ++ [file]).head? == some ".") =
      ((pieces directory).head? == some ".") := by
    cases pieces directory with
    | nil => simpa using h.notHere
    | cons piece pieces => rfl
  simp only [components, isAbsolute_join directory h, pieces_join h, hhead, List.filterMap_append,
    List.filterMap_cons, hcomponent, List.filterMap_nil, List.append_assoc]

end Path

/-! ### Places -/

namespace FileSystem

/-- The place of a directory. An empty path stands for the working directory. -/
def directoryPlace (fs : FileSystem) (directory : String) : Except FileError Location :=
  if directory.isEmpty then .ok fs.here else fs.locate directory

theorem Keeps.directoryPlace {written : Location → Prop} {fs later : FileSystem}
    (h : Keeps written fs later) {directory : String} {place : Location}
    (hplace : fs.directoryPlace directory = .ok place) :
    later.directoryPlace directory = .ok place := by
  rw [FileSystem.directoryPlace] at hplace ⊢
  split_ifs at hplace ⊢
  · rwa [h.here]
  · exact h.locate hplace

/-- **When a path leads to a place**: it can be a path, and its pieces lead there. -/
theorem locate_eq_ok_iff {fs : FileSystem} {path : String} {place : Location} :
    fs.locate path = .ok place ↔ path ≠ "" ∧ '\x00' ∉ path.toList ∧ isTooLong path = false ∧
      fs.walk (if Path.isAbsolute path then [] else fs.here) (Path.pieces path) = .ok place := by
  rw [locate]
  split_ifs <;> simp_all

/-- A directory of which a file can be a path can be one too. -/
theorem locate_of_append {fs : FileSystem} {directory rest : String} {place : Location}
    (hne : directory ≠ "") (hzero : '\x00' ∉ (directory ++ rest).toList)
    (hlong : isTooLong (directory ++ rest) = false)
    (hwalk : fs.walk (if Path.isAbsolute directory then [] else fs.here) (Path.pieces directory) =
      .ok place) : fs.locate directory = .ok place := by
  have hpart : directory.toList.Sublist (directory ++ rest).toList := by
    rw [String.toList_append]
    exact List.sublist_append_left _ _
  refine locate_eq_ok_iff.mpr ⟨hne, fun hmem => hzero (hpart.subset hmem), ?_, hwalk⟩
  rw [isTooLong, decide_eq_false_iff_not] at hlong ⊢
  exact fun hlt => hlong (hlt.trans_le (Text.byteLength_le_of_sublist hpart))

/-- **The place of a file lies right below the place of its directory.** -/
theorem locate_join {fs : FileSystem} {directory file : String} {place : Location}
    (h : Path.IsFileName file) (hlocate : fs.locate (Path.join directory file) = .ok place) :
    ∃ above, fs.directoryPlace directory = .ok above ∧ fs.entry? above = some .directory ∧
      place = above ++ [file] := by
  obtain ⟨-, hzero, hlong, hwalk⟩ := locate_eq_ok_iff.mp hlocate
  rw [Path.isAbsolute_join directory h, Path.pieces_join h] at hwalk
  obtain ⟨above, habove, hentry, hstep⟩ := exists_step_of_walk hwalk
  refine ⟨above, ?_, hentry, step_of_isFileName h hstep⟩
  rw [directoryPlace]
  split_ifs with hempty
  · -- no piece leads away from the working directory
    rw [String.isEmpty_iff.mp hempty] at habove
    exact habove
  · obtain ⟨rest, hrest⟩ := Path.exists_join_eq_append directory h
    rw [hrest] at hzero hlong
    exact locate_of_append (mt String.isEmpty_iff.mpr hempty) hzero hlong habove

/-! ### What is added -/

/-- **What a file system has that an earlier one had not**: files at some places only. -/
def Adds (written : Location → Prop) (fs later : FileSystem) : Prop :=
  ∀ place bytes, later.entry? place = some (.file bytes) →
    fs.entry? place = some (.file bytes) ∨ written place

namespace Adds

theorem refl (written : Location → Prop) (fs : FileSystem) : Adds written fs fs :=
  fun _ _ h => Or.inl h

theorem trans {written : Location → Prop} {fs later last : FileSystem}
    (h : Adds written fs later) (h' : Adds written later last) : Adds written fs last := by
  intro place bytes hlast
  rcases h' place bytes hlast with hlater | hwritten
  · exact h place bytes hlater
  · exact Or.inr hwritten

theorem mono {written more : Location → Prop} {fs later : FileSystem}
    (h : Adds written fs later) (hmore : ∀ place, written place → more place) :
    Adds more fs later :=
  fun place bytes hlater => (h place bytes hlater).imp_right (hmore place)

end Adds

theorem adds_put (fs : FileSystem) (place : Location) (entry : FileEntry) :
    Adds (· = place) fs (fs.put place entry) := by
  intro other bytes hother
  by_cases hplace : other = place
  · exact Or.inr hplace
  · rw [entry?_put_of_ne hplace] at hother
    exact Or.inl hother

/-- A directory that is made is no file. -/
theorem adds_put_directory {fs : FileSystem} {place : Location} (h : fs.entry? place = none) :
    Adds (fun _ => False) fs (fs.put place .directory) := by
  intro other bytes hother
  rcases adds_put fs place .directory other bytes hother with hbefore | rfl
  · exact Or.inl hbefore
  · have hnot : fs.entry? other ≠ some .directory := by simp [h]
    cases (entry?_put_self hnot .directory).symm.trans hother

/-- **Making directories adds no file.** -/
theorem adds_makeDirectories (fs : FileSystem) (path : String) :
    Adds (fun _ => False) fs (fs.makeDirectories path).1 := by
  refine makeChain_induction (Adds.refl _) Adds.trans (fun hmade => ?_) fs _
  obtain ⟨place, hentry, rfl⟩ := makeDirectory_eq_ok hmade
  exact adds_put_directory hentry

/-- A place right below a directory, with the name of a file. -/
def RightBelow (fs : FileSystem) (directory file : String) (place : Location) : Prop :=
  ∃ above, fs.directoryPlace directory = .ok above ∧ place = above ++ [file]

/-- **Writing an artifact adds no file but its own**, right below its directory. -/
theorem adds_writeArtifact (fs : FileSystem) (directories : Directories) {a : Artifact}
    (hname : Path.IsFileName a.fileName) :
    Adds (RightBelow (fs.writeArtifact directories a).1 (directories.of a.kind) a.fileName) fs
      (fs.writeArtifact directories a).1 := by
  have hmade := fs.adds_makeDirectories (directories.of a.kind)
  rw [writeArtifact]
  rcases fs.writeInto_eq (directories.of a.kind) (a.path directories) (Text.encode a.contents)
    with ⟨e, heq⟩ | ⟨place, -, hlocate, hentry, heq⟩
  · rw [heq]
    exact hmade.mono fun _ => False.elim
  · rw [heq]
    refine (hmade.mono fun _ => False.elim).trans ((adds_put _ place _).mono ?_)
    rintro _ rfl
    obtain ⟨above, habove, -, hplace⟩ := locate_join hname hlocate
    exact ⟨above, (keeps_put hentry _).directoryPlace habove, hplace⟩

/-- **Writing artifacts adds no files but theirs.** -/
theorem adds_writeArtifacts (fs : FileSystem) (directories : Directories)
    {artifacts : List Artifact} (hnames : ∀ a ∈ artifacts, Path.IsFileName a.fileName)
    (hpairwise : artifacts.Pairwise (fun a b => a.fileName ≠ b.fileName)) :
    Adds (fun place => ∃ a ∈ artifacts, RightBelow (fs.writeArtifacts directories artifacts).1
        (directories.of a.kind) a.fileName place) fs
      (fs.writeArtifacts directories artifacts).1 := by
  induction artifacts generalizing fs with
  | nil => exact Adds.refl _ fs
  | cons a artifacts ih =>
    have hrest := fun b hb => hnames b (List.mem_cons_of_mem a hb)
    have hpairwise' := (List.pairwise_cons.mp hpairwise).2
    have hfirst := fs.adds_writeArtifact directories (hnames a List.mem_cons_self)
    have hothers := ih (fs.writeArtifact directories a).1 hrest hpairwise'
    -- a directory stays at its place while the others are written
    have hkeeps := ((fs.writeArtifact directories a).1.tells_writeArtifacts directories hrest
      hpairwise').2
    rw [writeArtifacts]
    refine (hfirst.mono fun place hplace => ?_).trans (hothers.mono fun place hplace => ?_)
    · obtain ⟨above, habove, rfl⟩ := hplace
      exact ⟨a, List.mem_cons_self, above, hkeeps.directoryPlace habove, rfl⟩
    · obtain ⟨b, hb, hbelow⟩ := hplace
      exact ⟨b, List.mem_cons_of_mem a hb, hbelow⟩

end FileSystem

/-! ### Names of files -/

namespace ArtifactKind

/-- The ending of the files of a kind. -/
def ending : ArtifactKind → String
  | table => "sql"
  | message => "proto"
  | _ => "rs"

/-- What stands between the name of the unit and the dot. -/
def stemSuffix : ArtifactKind → String
  | storage => "_storage"
  | messageGlue => "_proto"
  | marshal => "_marshal"
  | _ => ""

theorem fileSuffix_eq (kind : ArtifactKind) :
    kind.fileSuffix = kind.stemSuffix ++ "." ++ kind.ending := by
  cases kind <;> decide

/-- **The name of a file that a kind of artifact goes to**: it can be the name of a file, and has no
zero character and no dot but the one before its ending. -/
structure NamesFile (kind : ArtifactKind) (name : String) : Prop where
  /-- It has no slash, and stands neither for the directory nor for the one above. -/
  isFileName : Path.IsFileName name
  /-- It has no zero character. -/
  noZero : '\x00' ∉ name.toList
  /-- There is one dot, and the ending of the kind behind it. -/
  dotted : ∃ stem, name = stem ++ "." ++ kind.ending ∧ '.' ∉ stem.toList ∧
    '.' ∉ kind.ending.toList

/-- **Every unit has such names.** -/
theorem namesFile_fileName (kind : ArtifactKind) (unit : String) :
    kind.NamesFile (kind.fileName unit) where
  isFileName := kind.isFileName_fileName unit
  noZero := by
    have hsuffix : '\x00' ∉ kind.fileSuffix.toList := by cases kind <;> decide
    rw [fileName, String.toList_append, List.mem_append, not_or]
    exact ⟨(Name.isIdent_snakeCase unit).not_mem rfl, hsuffix⟩
  dotted := by
    have hstem : '.' ∉ kind.stemSuffix.toList := by cases kind <;> decide
    refine ⟨Name.snakeCase unit ++ kind.stemSuffix, ?_, ?_, by cases kind <;> decide⟩
    · rw [fileName, fileSuffix_eq, String.append_assoc, String.append_assoc, String.append_assoc]
    · rw [String.toList_append, List.mem_append, not_or]
      exact ⟨(Name.isIdent_snakeCase unit).not_mem rfl, hstem⟩

end ArtifactKind

namespace SchemaUnit

theorem kind_of_artifact? {unit : SchemaUnit} {schema : Schema} {profile : Profile}
    {kind : ArtifactKind} {a : Artifact} (h : unit.artifact? schema profile kind = some a) :
    a.kind = kind := by
  obtain ⟨body, -, rfl⟩ := Option.map_eq_some_iff.mp h
  rfl

/-- **Artifacts stay inside their directories.** Whatever text the name of a unit is: the name of
each file has no slash and no zero character, one dot before its ending, and stands for no
directory; different kinds have different files; the path of a file has the components of its
directory and then the name, and leads to a place right below that of the directory; and writing the
artifacts of the unit adds files at such places only. -/
theorem artifacts_contained (unit : String) :
    (∀ kind : ArtifactKind, kind.NamesFile (kind.fileName unit)) ∧
      (∀ kind other : ArtifactKind, kind.fileName unit = other.fileName unit → kind = other) ∧
      (∀ (kind : ArtifactKind) (directory : String),
        Path.components (Path.join directory (kind.fileName unit)) =
          Path.components directory ++ [.name (kind.fileName unit)]) ∧
      (∀ (kind : ArtifactKind) (directory : String) (fs : FileSystem) (place : Location),
        fs.locate (Path.join directory (kind.fileName unit)) = .ok place →
          fs.RightBelow directory (kind.fileName unit) place) ∧
      ∀ (source : UnitSource) (checksum : String) (compiled : Compiled) (profile : Profile)
        (directories : Directories) (fs later : FileSystem) (outcomes : List WriteOutcome),
        fs.writeArtifacts directories (artifacts ⟨unit, source, checksum⟩ compiled profile) =
            (later, outcomes) →
          FileSystem.Adds (fun place => ∃ kind : ArtifactKind,
            later.RightBelow (directories.of kind) (kind.fileName unit) place) fs later := by
  refine ⟨fun kind => kind.namesFile_fileName unit,
    fun kind other => ArtifactKind.fileName_injective unit,
    fun kind directory => Path.components_join directory (kind.isFileName_fileName unit),
    fun kind directory fs place hlocate => ?_, ?_⟩
  · obtain ⟨above, habove, -, hplace⟩ :=
      FileSystem.locate_join (kind.isFileName_fileName unit) hlocate
    exact ⟨above, habove, hplace⟩
  · intro source checksum compiled profile directories fs later outcomes hwrite
    have hadds := fs.adds_writeArtifacts directories
      (fun a ha => isFileName_of_mem_artifacts ha)
      (pairwise_fileName_artifacts ⟨unit, source, checksum⟩ compiled profile)
    rw [hwrite] at hadds
    refine hadds.mono ?_
    rintro place ⟨a, ha, hbelow⟩
    obtain ⟨kind, -, hkind⟩ := List.mem_filterMap.mp ha
    rw [kind_of_artifact? hkind, fileName_of_artifact? hkind] at hbelow
    exact ⟨kind, hbelow⟩

end SchemaUnit

end SchemaCompiler
