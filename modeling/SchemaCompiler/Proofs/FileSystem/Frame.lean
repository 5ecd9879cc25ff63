import Mathlib.Data.List.Basic
import SchemaCompiler.Output

/-!
# What operations on files leave alone

Making directories and writing files never removes a directory, never moves the working directory,
and changes no file but the one that is written: this is `SchemaCompiler.FileSystem.Keeps`, and
every operation has one lemma that says so. Everything else follows from it. A path leads to the
same place later on (`Keeps.locate`), since the places on its way are directories and stay so; and a
file that was read can be read again (`Keeps.read`), unless it stands where something was written.

Writing into a directory either fails, and then all files are as they were, or it succeeds, and then
the path leads to a file with the bytes (`SchemaCompiler.FileSystem.writeInto_cases`).
-/

namespace SchemaCompiler

namespace FileSystem

/-! ### Entries -/

theorem lookup_putEntry_self (place : Location) (entry : FileEntry)
    (entries : List (Location × FileEntry)) :
    (putEntry place entry entries).lookup place = some entry := by
  induction entries with
  | nil => simp [putEntry]
  | cons p rest ih =>
    rw [putEntry]
    split_ifs with hplace
    · simp
    · have hother : (place == p.1) = false := by
        rw [BEq.comm]
        exact Bool.eq_false_iff.mpr hplace
      rw [List.lookup_cons, hother]
      exact ih

theorem lookup_putEntry_of_ne {place other : Location} (h : other ≠ place) (entry : FileEntry)
    (entries : List (Location × FileEntry)) :
    (putEntry place entry entries).lookup other = entries.lookup other := by
  have hother : (other == place) = false := beq_eq_false_iff_ne.mpr h
  induction entries with
  | nil => simp [putEntry, List.lookup_cons, hother]
  | cons p rest ih =>
    rw [putEntry]
    split_ifs with hplace
    · obtain rfl : p.1 = place := beq_iff_eq.mp hplace
      rw [List.lookup_cons, List.lookup_cons, hother]
    · rw [List.lookup_cons, List.lookup_cons, ih]

theorem entry?_put_of_ne {place other : Location} (h : other ≠ place) (fs : FileSystem)
    (entry : FileEntry) : entry? (fs.put place entry) other = fs.entry? other := by
  unfold entry? put
  rw [lookup_putEntry_of_ne h]

/-- What is put where no directory stands does stand there. -/
theorem entry?_put_self {fs : FileSystem} {place : Location}
    (h : fs.entry? place ≠ some .directory) (entry : FileEntry) :
    entry? (fs.put place entry) place = some entry := by
  unfold entry? at h ⊢
  rw [put, lookup_putEntry_self]
  split_ifs at h ⊢ with habove
  · exact absurd rfl h
  · rfl

/-! ### Keeping -/

/-- **What a file system still has of an earlier one**: the working directory, all directories, and
all files but those at some places. -/
structure Keeps (written : Location → Prop) (fs later : FileSystem) : Prop where
  /-- Relative paths start where they did. -/
  here : later.here = fs.here
  /-- A directory is a directory still. -/
  directory : ∀ place, fs.entry? place = some .directory → later.entry? place = some .directory
  /-- A file that was not written has the same bytes. -/
  file : ∀ place bytes, ¬written place → fs.entry? place = some (.file bytes) →
    later.entry? place = some (.file bytes)

namespace Keeps

theorem refl (written : Location → Prop) (fs : FileSystem) : Keeps written fs fs :=
  ⟨rfl, fun _ h => h, fun _ _ _ h => h⟩

theorem trans {written : Location → Prop} {fs later last : FileSystem}
    (h : Keeps written fs later) (h' : Keeps written later last) : Keeps written fs last where
  here := h'.here.trans h.here
  directory place hplace := h'.directory place (h.directory place hplace)
  file place bytes hplace hfile := h'.file place bytes hplace (h.file place bytes hplace hfile)

theorem mono {written more : Location → Prop} {fs later : FileSystem}
    (h : Keeps written fs later) (hmore : ∀ place, written place → more place) :
    Keeps more fs later where
  here := h.here
  directory := h.directory
  file place bytes hplace := h.file place bytes (fun hwritten => hplace (hmore place hwritten))

end Keeps

/-- Where no directory stands, anything may be put, and only what stands there is changed. -/
theorem keeps_put {fs : FileSystem} {place : Location} (h : fs.entry? place ≠ some .directory)
    (entry : FileEntry) : Keeps (· = place) fs (fs.put place entry) where
  here := rfl
  directory other hother := by
    have hne : other ≠ place := fun heq => h (heq ▸ hother)
    rw [entry?_put_of_ne hne, hother]
  file other bytes hne hother := by
    rw [entry?_put_of_ne hne, hother]

/-- Where nothing stands, anything may be put. -/
theorem keeps_put_of_none {fs : FileSystem} {place : Location} (h : fs.entry? place = none)
    (entry : FileEntry) : Keeps (fun _ => False) fs (fs.put place entry) := by
  have hput : Keeps (· = place) fs (fs.put place entry) := keeps_put (by simp [h]) entry
  refine ⟨hput.here, hput.directory, fun other bytes _ hother => hput.file other bytes ?_ hother⟩
  -- a file stands elsewhere than where nothing does
  rintro rfl
  cases hother.symm.trans h

/-! ### Walking -/

/-- A walk takes its first step in a directory. -/
theorem walk_cons_eq_ok {fs : FileSystem} {place last : Location} {piece : String}
    {rest : List String} :
    fs.walk place (piece :: rest) = .ok last ↔ fs.entry? place = some .directory ∧
      ∃ next, step place piece = .ok next ∧ fs.walk next rest = .ok last := by
  rw [walk]
  cases fs.entry? place with
  | none => simp
  | some entry =>
    cases entry with
    | file bytes => simp
    | directory => cases step place piece <;> simp

/-- **A walk leads to the same place later on.** -/
theorem Keeps.walk {written : Location → Prop} {fs later : FileSystem}
    (h : Keeps written fs later) {place last : Location} {pieces : List String}
    (hwalk : fs.walk place pieces = .ok last) : later.walk place pieces = .ok last := by
  induction pieces generalizing place with
  | nil => exact hwalk
  | cons piece rest ih =>
    obtain ⟨hdirectory, next, hstep, hrest⟩ := walk_cons_eq_ok.mp hwalk
    exact walk_cons_eq_ok.mpr ⟨h.directory place hdirectory, next, hstep, ih hrest⟩

/-- **A path leads to the same place later on.** -/
theorem Keeps.locate {written : Location → Prop} {fs later : FileSystem}
    (h : Keeps written fs later) {path : String} {place : Location}
    (hlocate : fs.locate path = .ok place) : later.locate path = .ok place := by
  -- what is checked before the walk depends on the path alone
  rw [FileSystem.locate] at hlocate ⊢
  rw [h.here]
  split_ifs at hlocate ⊢ <;> exact h.walk hlocate

/-- The last step of a walk is taken in the directory that the pieces before it lead to. -/
theorem exists_step_of_walk {fs : FileSystem} {place last : Location} {pieces : List String}
    {piece : String} (h : fs.walk place (pieces ++ [piece]) = .ok last) :
    ∃ directory, fs.walk place pieces = .ok directory ∧ fs.entry? directory = some .directory ∧
      step directory piece = .ok last := by
  induction pieces generalizing place with
  | nil =>
    obtain ⟨hdirectory, next, hstep, hrest⟩ := walk_cons_eq_ok.mp h
    cases hrest
    exact ⟨place, rfl, hdirectory, hstep⟩
  | cons first pieces ih =>
    obtain ⟨hdirectory, next, hfirst, hrest⟩ := walk_cons_eq_ok.mp h
    obtain ⟨above, hwalk, hlast⟩ := ih hrest
    exact ⟨above, walk_cons_eq_ok.mpr ⟨hdirectory, next, hfirst, hwalk⟩, hlast⟩

/-! ### Reading -/

/-- **What can be read**: a path that does not end in a slash and leads to a file. -/
theorem read_eq_ok_iff {fs : FileSystem} {path : String} {bytes : List UInt8} :
    fs.read path = .ok bytes ↔ Path.endsInSlash path = false ∧
      ∃ place, fs.locate path = .ok place ∧ fs.entry? place = some (.file bytes) := by
  rw [read, find]
  cases fs.locate path with
  | error e => simp
  | ok place =>
    simp only [Except.ok.injEq, exists_eq_left']
    cases fs.entry? place with
    | none => simp
    | some entry =>
      cases entry with
      | directory => simp
      | file found => cases Path.endsInSlash path <;> simp

/-- **A file can be read again** if it does not stand where something was written. -/
theorem Keeps.read {written : Location → Prop} {fs later : FileSystem}
    (h : Keeps written fs later) {path : String} {bytes : List UInt8}
    (hread : fs.read path = .ok bytes)
    (hother : ∀ place, fs.locate path = .ok place → ¬written place) :
    later.read path = .ok bytes := by
  obtain ⟨hslash, place, hlocate, hfile⟩ := read_eq_ok_iff.mp hread
  exact read_eq_ok_iff.mpr
    ⟨hslash, place, h.locate hlocate, h.file place bytes (hother place hlocate) hfile⟩

/-! ### Making directories -/

/-- A directory is made where nothing stands. -/
theorem makeDirectory_eq_ok {fs made : FileSystem} {path : String}
    (h : fs.makeDirectory path = .ok made) :
    ∃ place, fs.entry? place = none ∧ made = fs.put place .directory := by
  rw [makeDirectory] at h
  cases hlocate : fs.locate path with
  | error e =>
    rw [hlocate] at h
    cases h
  | ok place =>
    rw [hlocate] at h
    dsimp only at h
    cases hentry : fs.entry? place with
    | some entry =>
      rw [hentry] at h
      cases h
    | none =>
      rw [hentry] at h
      cases h
      exact ⟨place, hentry, rfl⟩

/-- **What making one directory does, making directories does**, also if it fails halfway: then the
outer directories have been made and the inner ones have not. -/
theorem makeChain_induction {R : FileSystem → FileSystem → Prop} (hrefl : ∀ fs, R fs fs)
    (htrans : ∀ {fs later last}, R fs later → R later last → R fs last)
    (hmake : ∀ {fs made : FileSystem} {path : String}, fs.makeDirectory path = .ok made → R fs made)
    (fs : FileSystem) (paths : List String) : R fs (fs.makeChain paths).1 := by
  induction paths with
  | nil => exact hrefl fs
  | cons path outer ih =>
    rw [makeChain]
    by_cases hempty : path.isEmpty = true
    · rw [if_pos hempty]
      exact hrefl fs
    · rw [if_neg hempty]
      split
      · next made hmade => exact hmake hmade
      · -- what the directory lies in was missing, and is made first
        split
        · next later e hchain => exact hchain ▸ ih
        · next later hchain =>
          have hlater : R fs later := by simpa [hchain] using ih
          split
          · next made hmade => exact htrans hlater (hmake hmade)
          · exact hlater
      · exact hrefl fs

/-- **Making directories keeps all files.** -/
theorem keeps_makeDirectories (fs : FileSystem) (path : String) :
    Keeps (fun _ => False) fs (fs.makeDirectories path).1 := by
  refine makeChain_induction (.refl _) .trans (fun hmade => ?_) fs _
  obtain ⟨place, hentry, rfl⟩ := makeDirectory_eq_ok hmade
  exact keeps_put_of_none hentry .directory

/-! ### Writing -/

theorem write_eq_ok {fs later : FileSystem} {path : String} {bytes : List UInt8}
    (h : fs.write path bytes = .ok later) :
    Path.endsInSlash path = false ∧ ∃ place, fs.locate path = .ok place ∧
      fs.entry? place ≠ some .directory ∧ later = fs.put place (.file bytes) := by
  rw [write] at h
  cases hlocate : fs.locate path with
  | error e =>
    rw [hlocate] at h
    cases h
  | ok place =>
    rw [hlocate] at h
    dsimp only at h
    split at h
    · cases h
    · next found hentry =>
      split_ifs at h with hslash
      cases h
      exact ⟨by simpa using hslash, place, rfl, by simp [hentry], rfl⟩
    · next hentry =>
      split_ifs at h with hslash
      cases h
      exact ⟨by simpa using hslash, place, rfl, by simp [hentry], rfl⟩

/-- Writing into a directory makes the directory, and then either fails or puts the file where the
path leads. -/
theorem writeInto_eq (fs : FileSystem) (directory path : String) (bytes : List UInt8) :
    (∃ e, fs.writeInto directory path bytes = ((fs.makeDirectories directory).1, some e)) ∨
    ∃ place, Path.endsInSlash path = false ∧
      (fs.makeDirectories directory).1.locate path = .ok place ∧
      entry? (fs.makeDirectories directory).1 place ≠ some .directory ∧
      fs.writeInto directory path bytes =
        ((fs.makeDirectories directory).1.put place (.file bytes), none) := by
  rw [writeInto]
  cases fs.makeDirectories directory with
  | mk made failure =>
    cases failure with
    | some e => exact Or.inl ⟨e, rfl⟩
    | none =>
      cases hwrite : made.write path bytes with
      | error e => exact Or.inl ⟨e, by simp [hwrite]⟩
      | ok later =>
        obtain ⟨hslash, place, hlocate, hentry, rfl⟩ := write_eq_ok hwrite
        exact Or.inr ⟨place, hslash, hlocate, hentry, by simp [hwrite]⟩

/-- **What writing into a directory does.** Either it fails, and all files are as they were; or the
path can be read, and all files are as they were but the one that it leads to. -/
theorem writeInto_cases (fs : FileSystem) (directory path : String) (bytes : List UInt8) :
    (∃ later e, fs.writeInto directory path bytes = (later, some e) ∧
      Keeps (fun _ => False) fs later) ∨
    ∃ later place, fs.writeInto directory path bytes = (later, none) ∧
      later.read path = .ok bytes ∧ later.locate path = .ok place ∧ Keeps (· = place) fs later := by
  have hmade := fs.keeps_makeDirectories directory
  rcases fs.writeInto_eq directory path bytes with ⟨e, heq⟩ | ⟨place, hslash, hlocate, hentry, heq⟩
  · exact Or.inl ⟨_, e, heq, hmade⟩
  · -- the place was found before the file was put there, and the path still leads to it
    have hput := keeps_put hentry (.file bytes)
    refine Or.inr ⟨_, place, heq, ?_, hput.locate hlocate,
      (hmade.mono fun _ => False.elim).trans hput⟩
    exact read_eq_ok_iff.mpr
      ⟨hslash, place, hput.locate hlocate, entry?_put_self hentry (.file bytes)⟩

end FileSystem

end SchemaCompiler
