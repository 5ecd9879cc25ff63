import SchemaCompiler.Command
import SchemaCompiler.Proofs.Artifact.Targets
import SchemaCompiler.Proofs.FileSystem.Frame
import SchemaCompiler.Proofs.Text.Utf8

/-!
# Artifacts that were written are on disk

The artifacts of a unit are written one after another, some of them into the same directory, and
any of them may fail. Whatever fails, an artifact whose outcome tells no failure is on disk when all
is done, and if no outcome tells one, a comparison finds no difference
(`SchemaCompiler.Command.check_after_write`).

A later artifact cannot spoil an earlier one: it changes at most the file at its own place, which
ends with its own name (`SchemaCompiler.FileSystem.getLast?_of_locate`), and no two artifacts of a
unit have the same name (`SchemaCompiler.SchemaUnit.pairwise_fileName_artifacts`), whatever
directories are configured. The rest is the frame of `SchemaCompiler.FileSystem.Keeps`, carried
through the list of artifacts (`SchemaCompiler.FileSystem.tells_writeArtifacts`).
-/

namespace SchemaCompiler

/-! ### Paths of files -/

namespace Path

/-- A name that a file can have in a directory. -/
structure IsFileName (s : String) : Prop where
  /-- It is not empty. -/
  nonempty : s ≠ ""
  /-- It has no slash in it. -/
  noSlash : '/' ∉ s.toList
  /-- It does not stand for the directory itself. -/
  notHere : s ≠ "."
  /-- It does not stand for the directory above. -/
  notAbove : s ≠ ".."

theorem splitSlashes_ne_nil (cs : List Char) : splitSlashes cs ≠ [] := by
  cases cs with
  | nil => exact List.cons_ne_nil _ _
  | cons c cs =>
    rw [splitSlashes]
    split
    · exact List.cons_ne_nil _ _
    · split <;> exact List.cons_ne_nil _ _

/-- A slash separates what stands before it from what follows. -/
theorem splitSlashes_append_slash (cs rest : List Char) :
    splitSlashes (cs ++ '/' :: rest) = splitSlashes cs ++ splitSlashes rest := by
  have hslash : ∀ cs, splitSlashes ('/' :: cs) = [] :: splitSlashes cs := by
    intro cs
    rw [splitSlashes]
    split
    · next hnil => exact absurd hnil (splitSlashes_ne_nil cs)
    · next hcons => rw [hcons, if_pos (by decide)]
  induction cs with
  | nil => exact hslash rest
  | cons c cs ih =>
    obtain ⟨piece, pieces, hcons⟩ := List.exists_cons_of_ne_nil (splitSlashes_ne_nil cs)
    rw [List.cons_append, splitSlashes, ih, splitSlashes, hcons]
    by_cases hc : c = '/' <;> simp [hc]

theorem splitSlashes_of_notMem {cs : List Char} (h : '/' ∉ cs) : splitSlashes cs = [cs] := by
  induction cs with
  | nil => rfl
  | cons c cs ih =>
    obtain ⟨hc, hcs⟩ := not_or.mp (fun hmem => h (List.mem_cons.mpr hmem))
    rw [splitSlashes, ih hcs]
    simp [Ne.symm hc]

theorem pieces_append_slash (path rest : String) :
    pieces (path ++ "/" ++ rest) = pieces path ++ pieces rest := by
  have hlist : (path ++ "/" ++ rest).toList = path.toList ++ '/' :: rest.toList := by simp
  rw [pieces, hlist, splitSlashes_append_slash, List.filter_append, List.map_append]
  rfl

theorem pieces_of_isFileName {file : String} (h : IsFileName file) : pieces file = [file] := by
  have hne : file.toList ≠ [] := by simpa using h.nonempty
  rw [pieces, splitSlashes_of_notMem h.noSlash]
  simp [hne]

theorem eq_append_of_endsInSlash {path : String} (h : endsInSlash path = true) :
    ∃ front, path = front ++ "/" := by
  rw [endsInSlash, Text.endsWith, List.isSuffixOf_iff_suffix] at h
  obtain ⟨front, hfront⟩ := h
  exact ⟨String.ofList front, by rw [← String.toList_inj, ← hfront]; simp⟩

/-- **The last piece of a path is its file.** -/
theorem pieces_join {directory file : String} (h : IsFileName file) :
    pieces (join directory file) = pieces directory ++ [file] := by
  rw [← pieces_of_isFileName h, join, isAbsolute_of_notMem h.noSlash, if_neg Bool.false_ne_true]
  by_cases hempty : directory = ""
  · subst hempty
    rfl
  · cases hslash : endsInSlash directory with
    | true =>
      -- the slash is there already, and nothing stands behind it
      obtain ⟨front, rfl⟩ := eq_append_of_endsInSlash hslash
      have hfront : pieces (front ++ "/") = pieces front := by
        have hnothing : pieces "" = [] := rfl
        simpa [hnothing] using pieces_append_slash front ""
      rw [Bool.or_true, if_pos rfl, pieces_append_slash, hfront]
    | false =>
      have hnot : directory.isEmpty = false := by simpa using hempty
      rw [hnot, Bool.or_false, if_neg Bool.false_ne_true, pieces_append_slash]

end Path

/-! ### Outcomes -/

namespace FileSystem

theorem step_of_isFileName {directory place : Location} {file : String}
    (h : Path.IsFileName file) (hstep : step directory file = .ok place) :
    place = directory ++ [file] := by
  rw [step, if_neg (by simpa using h.notHere), if_neg (by simpa using h.notAbove)] at hstep
  split_ifs at hstep
  cases hstep
  rfl

/-- **The place of a file ends with its name.** -/
theorem getLast?_of_locate {fs : FileSystem} {directory file : String} {place : Location}
    (h : Path.IsFileName file) (hlocate : fs.locate (Path.join directory file) = .ok place) :
    place.getLast? = some file := by
  rw [locate, Path.pieces_join h] at hlocate
  split_ifs at hlocate
  -- from the root or from the working directory, the last step is the one to the file
  all_goals
    obtain ⟨above, -, -, hstep⟩ := exists_step_of_walk hlocate
    rw [step_of_isFileName h hstep, List.getLast?_concat]

/-- **What the outcome of an artifact tells** is about that artifact, and unless it tells a failure,
the artifact is on disk. -/
structure Tells (fs : FileSystem) (directories : Directories) (a : Artifact) (o : WriteOutcome) :
    Prop where
  /-- The kind is that of the artifact. -/
  kind : o.kind = a.kind
  /-- The path is that of the artifact. -/
  path : o.path = a.path directories
  /-- The file has the contents of the artifact. -/
  onDisk : o.failure = none → fs.read o.path = .ok (Text.encode a.contents)

/-- What an outcome tells stays true as long as no file of that name is written. -/
theorem Tells.of_keeps {written : Location → Prop} {fs later : FileSystem}
    {directories : Directories} {a : Artifact} {o : WriteOutcome} (h : Tells fs directories a o)
    (hkeeps : Keeps written fs later) (hname : Path.IsFileName a.fileName)
    (hother : ∀ place, place.getLast? = some a.fileName → ¬written place) :
    Tells later directories a o where
  kind := h.kind
  path := h.path
  onDisk hok := by
    refine hkeeps.read (h.onDisk hok) fun place hlocate => hother place ?_
    rw [h.path] at hlocate
    exact getLast?_of_locate hname hlocate

/-- **Writing one artifact**: the outcome tells the truth, and only files of the artifact's name may
have changed. -/
theorem tells_writeArtifact (fs : FileSystem) (directories : Directories) {a : Artifact}
    (hname : Path.IsFileName a.fileName) :
    Tells (fs.writeArtifact directories a).1 directories a (fs.writeArtifact directories a).2 ∧
      Keeps (fun place => place.getLast? = some a.fileName) fs
        (fs.writeArtifact directories a).1 := by
  rw [writeArtifact]
  rcases fs.writeInto_cases (directories.of a.kind) (a.path directories) (Text.encode a.contents)
    with ⟨later, e, heq, hkeeps⟩ | ⟨later, place, heq, hread, hlocate, hkeeps⟩
  · rw [heq]
    exact ⟨⟨rfl, rfl, nofun⟩, hkeeps.mono fun _ => False.elim⟩
  · rw [heq]
    refine ⟨⟨rfl, rfl, fun _ => hread⟩, hkeeps.mono ?_⟩
    rintro _ rfl
    exact getLast?_of_locate hname hlocate

/-- **Writing artifacts of different names**: at the end all outcomes tell the truth. -/
theorem tells_writeArtifacts (fs : FileSystem) (directories : Directories)
    {artifacts : List Artifact} (hnames : ∀ a ∈ artifacts, Path.IsFileName a.fileName)
    (hpairwise : artifacts.Pairwise (fun a b => a.fileName ≠ b.fileName)) :
    List.Forall₂ (Tells (fs.writeArtifacts directories artifacts).1 directories) artifacts
        (fs.writeArtifacts directories artifacts).2 ∧
      Keeps (fun place => ∃ a ∈ artifacts, place.getLast? = some a.fileName) fs
        (fs.writeArtifacts directories artifacts).1 := by
  induction artifacts generalizing fs with
  | nil => exact ⟨.nil, .refl _ fs⟩
  | cons a artifacts ih =>
    obtain ⟨hother, hrest⟩ := List.pairwise_cons.mp hpairwise
    have hname := hnames a List.mem_cons_self
    obtain ⟨htells, hkeeps⟩ := tells_writeArtifact fs directories hname
    obtain ⟨hall, hkeepsAll⟩ := ih (fs.writeArtifact directories a).1
      (fun b hb => hnames b (List.mem_cons_of_mem _ hb)) hrest
    rw [writeArtifacts]
    refine ⟨.cons (htells.of_keeps hkeepsAll hname ?_) hall, ?_⟩
    · -- a later artifact has another name, and so another place
      rintro place hplace ⟨b, hb, hplace'⟩
      exact hother b hb (Option.some.inj (hplace.symm.trans hplace'))
    · refine (hkeeps.mono fun place hplace => ?_).trans (hkeepsAll.mono ?_)
      · exact ⟨a, List.mem_cons_self, hplace⟩
      · rintro place ⟨b, hb, hplace⟩
        exact ⟨b, List.mem_cons_of_mem _ hb, hplace⟩

/-- If no outcome tells a failure, all artifacts are on disk. -/
theorem read_of_tells {fs : FileSystem} {directories : Directories} {artifacts : List Artifact}
    {outcomes : List WriteOutcome} (h : List.Forall₂ (Tells fs directories) artifacts outcomes)
    (hok : ∀ o ∈ outcomes, o.failure = none) :
    ∀ a ∈ artifacts, fs.read (a.path directories) = .ok (Text.encode a.contents) := by
  induction h with
  | nil => nofun
  | cons htell _ ih =>
    rw [List.forall_mem_cons] at hok ⊢
    exact ⟨htell.path ▸ htell.onDisk hok.1, ih hok.2⟩

/-! ### Comparing -/

/-- A file that has the contents of its artifact does not differ. -/
theorem driftOf_of_read {fs : FileSystem} {directories : Directories} {a : Artifact}
    (h : fs.read (a.path directories) = .ok (Text.encode a.contents)) :
    fs.driftOf directories a = .ok none := by
  have htext : fs.readText (a.path directories) = .ok a.contents := by
    rw [readText, h]
    simp [Text.decode?_encode]
  delta driftOf
  simp only [htext, beq_self_eq_true, if_true]

theorem drifts_of_read {fs : FileSystem} {directories : Directories} {artifacts : List Artifact}
    (h : ∀ a ∈ artifacts, fs.read (a.path directories) = .ok (Text.encode a.contents)) :
    fs.drifts directories artifacts = .ok [] := by
  induction artifacts with
  | nil => rfl
  | cons a artifacts ih =>
    have hfirst := driftOf_of_read (h a List.mem_cons_self)
    have hrest := ih fun b hb => h b (List.mem_cons_of_mem _ hb)
    -- the equation for a longer list is slow to derive, the one for all lists is not
    rw [drifts.eq_def]
    simp only [hfirst, hrest]
    rfl

end FileSystem

/-! ### The artifacts of a unit -/

/-- **The name of an artifact is that of a file.** -/
theorem ArtifactKind.isFileName_fileName (kind : ArtifactKind) (unit : String) :
    Path.IsFileName (kind.fileName unit) := by
  have hlong : 2 < (kind.fileName unit).toList.length := by
    have hsuffix : 2 < kind.fileSuffix.toList.length := by cases kind <;> decide
    rw [fileName, String.toList_append, List.length_append]
    omega
  refine ⟨?_, slash_notMem_fileName kind unit, ?_, ?_⟩
  all_goals
    intro heq
    rw [heq] at hlong
    revert hlong
    decide

/-- **The kind of an artifact can be told from its name**, whatever the unit. -/
theorem ArtifactKind.fileName_injective (unit : String) {kind other : ArtifactKind}
    (h : kind.fileName unit = other.fileName unit) : kind = other := by
  have hsuffix : kind.fileSuffix = other.fileSuffix := (String.append_right_inj _).mp h
  revert hsuffix
  cases kind <;> cases other <;> decide

theorem ArtifactKind.pairwise_fileName (dialect : Dialect) (unit : String) :
    (forDialect dialect).Pairwise (fun kind other => kind.fileName unit ≠ other.fileName unit) := by
  have hall : all.Nodup := by decide
  exact (hall.filter _).imp fun hne heq => hne (fileName_injective unit heq)

namespace SchemaUnit

theorem fileName_of_artifact? {unit : SchemaUnit} {schema : Schema} {profile : Profile}
    {kind : ArtifactKind} {a : Artifact} (h : unit.artifact? schema profile kind = some a) :
    a.fileName = kind.fileName unit.name := by
  obtain ⟨body, -, rfl⟩ := Option.map_eq_some_iff.mp h
  rfl

theorem isFileName_of_mem_artifacts {unit : SchemaUnit} {compiled : Compiled} {profile : Profile}
    {a : Artifact} (h : a ∈ unit.artifacts compiled profile) : Path.IsFileName a.fileName := by
  obtain ⟨kind, -, ha⟩ := List.mem_filterMap.mp h
  rw [fileName_of_artifact? ha]
  exact kind.isFileName_fileName unit.name

/-- **No two artifacts of a unit have the same name.** -/
theorem pairwise_fileName_artifacts (unit : SchemaUnit) (compiled : Compiled) (profile : Profile) :
    (unit.artifacts compiled profile).Pairwise (fun a b => a.fileName ≠ b.fileName) := by
  rw [artifacts, List.pairwise_filterMap]
  refine (ArtifactKind.pairwise_fileName _ unit.name).imp ?_
  rintro kind other hne a ha b hb
  rw [fileName_of_artifact? ha, fileName_of_artifact? hb]
  exact hne

end SchemaUnit

namespace Command

open FileSystem

/-- **Comparing after writing.** Whatever stands on disk when the artifacts of a unit are written,
and whichever of them fail, there is one outcome for each artifact, in order, and each artifact
whose outcome tells no failure is on disk with its contents; and if no outcome tells a failure, a
comparison finds no difference, and a run that compares reports none and leaves the files as they
are. -/
theorem check_after_write (c : Configuration) (unit : SchemaUnit) (compiled : Compiled)
    (fs later : FileSystem) (outcomes : List WriteOutcome)
    (h : fs.writeArtifacts c.output (unit.artifacts compiled c.profile) = (later, outcomes)) :
    List.Forall₂ (Tells later c.output) (unit.artifacts compiled c.profile) outcomes ∧
      ((∀ o ∈ outcomes, o.failure = none) →
        later.drifts c.output (unit.artifacts compiled c.profile) = .ok [] ∧
        ∀ file report, emitUnit true c file unit compiled later report =
          (later, report.addUnit
            { unit := unit.name, source := file, diagnostics := compiled.diagnostics })) := by
  have htells := (fs.tells_writeArtifacts c.output
    (fun a ha => SchemaUnit.isFileName_of_mem_artifacts ha)
    (unit.pairwise_fileName_artifacts compiled c.profile)).1
  rw [h] at htells
  refine ⟨htells, fun hok => ?_⟩
  have hdrifts : later.drifts c.output (unit.artifacts compiled c.profile) = .ok [] :=
    drifts_of_read (read_of_tells htells hok)
  refine ⟨hdrifts, fun file report => ?_⟩
  rw [emitUnit]
  simp only [hdrifts, if_true]

/-- A unit of one record type. -/
def heroUnit : SchemaUnit :=
  .ofFlat ⟨"Hero", [⟨"hp", .scalar "uint8"⟩]⟩ ""

/-- Directories of which one lies below the file of an artifact and one is reached by a detour. -/
def crossed : Configuration where
  output :=
    { storage := "generated/src/hero.rs/storage"
      message := "generated/src/../proto/" }

/-- An empty working directory. -/
def emptyDisk : FileSystem where
  here := ["work"]

/-- The artifacts of the unit. -/
def heroArtifacts : List Artifact :=
  heroUnit.artifacts heroUnit.build {}

/-- Under crossed directories the descriptor is not written, and all other artifacts are on disk;
under the default ones all are, and a comparison finds no difference. -/
theorem check_after_write_hero :
    (emptyDisk.writeArtifacts crossed.output heroArtifacts).2.map WriteOutcome.failure =
        [none, some .notDirectory, none, none, none] ∧
      List.Forall₂
        (Tells (emptyDisk.writeArtifacts crossed.output heroArtifacts).1 crossed.output)
        heroArtifacts (emptyDisk.writeArtifacts crossed.output heroArtifacts).2 ∧
      (emptyDisk.writeArtifacts {} heroArtifacts).2.map WriteOutcome.failure =
        [none, none, none, none, none] ∧
      (emptyDisk.writeArtifacts {} heroArtifacts).1.drifts {} heroArtifacts = .ok [] := by
  have hcrossed := check_after_write crossed heroUnit heroUnit.build emptyDisk _ _
    (Prod.eta (emptyDisk.writeArtifacts crossed.output heroArtifacts)).symm
  have hdefault := check_after_write {} heroUnit heroUnit.build emptyDisk _ _
    (Prod.eta (emptyDisk.writeArtifacts {} heroArtifacts)).symm
  have hfailures : (emptyDisk.writeArtifacts {} heroArtifacts).2.map WriteOutcome.failure =
      [none, none, none, none, none] := by decide +kernel
  refine ⟨by decide +kernel, hcrossed.1, hfailures, (hdefault.2 fun o ho => ?_).1⟩
  have hmem : o.failure ∈ [none, none, none, none, none] :=
    hfailures ▸ List.mem_map.mpr ⟨o, ho, rfl⟩
  simpa using hmem

end Command

end SchemaCompiler
